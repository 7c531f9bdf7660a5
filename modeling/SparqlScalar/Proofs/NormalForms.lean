import Mathlib.Data.List.Forall2
import Mathlib.Logic.Relation
import SparqlScalar.Proofs.Operands

/-!
# Normal forms

    A chain without a continuation is LONE and collapses to its operand, which may be another lone
    chain.  An expression without lone chains is NORMAL.  Simplification takes all lone chains away
    at once; to take them away one by one leads to the same expression, in whatever order:

      simplified  -- what is simplified is normal, and what is normal is simplified already
                     (`isNormal_simplify`, `simplify_of_isNormal`)
      invariant   -- a chain that collapses anywhere leaves the simplification as it is
                     (`Collapses.simplify_eq`), so no other normal form is reached
      reached     -- operands collapse one after another until all of them are simplified
                     (`collapsesTo_exchanged`), by induction over the operands
-/

namespace SparqlScalar.Expression

variable {e x y : Expression} {xs before after : List Expression}

/-! ## Lone chains -/

/-- A chain without a continuation. -/
def IsLone (e : Expression) : Prop := ∃ chain operand, e = .lone chain operand

/-- There is no lone chain anywhere in the expression. -/
def IsNormal (e : Expression) : Prop := ∀ chain operand, ¬ e.Contains (.lone chain operand)

/-- An expression is normal if it is not a lone chain and its operands are normal. -/
theorem isNormal_iff : e.IsNormal ↔ ¬ e.IsLone ∧ ∀ d ∈ e.operands, d.IsNormal := by
  constructor
  · intro h
    refine ⟨?_, fun d hd chain operand hinner => h chain operand (.operand hd hinner)⟩
    rintro ⟨chain, operand, rfl⟩
    exact h chain operand (.self _)
  · rintro ⟨hlone, hoperands⟩ chain operand hcontains
    cases hcontains with
    | self => exact hlone ⟨chain, operand, rfl⟩
    | operand hmem hinner => exact hoperands _ hmem chain operand hinner

/-- Exchanged operands do not make a lone chain. -/
theorem isLone_of_withOperands (h : xs.length = e.operands.length)
    (hlone : (e.withOperands xs).IsLone) : e.IsLone := by
  obtain ⟨chain, operand, heq⟩ := hlone
  -- the old operands, put back, make the old construct
  have hback : e = (lone chain operand).withOperands e.operands := by
    rw [← heq, withOperands_withOperands h rfl, withOperands_operands]
  have hone : e.operands.length = 1 := by
    rw [← h, ← operands_withOperands h, heq]
    rfl
  obtain ⟨d, hd⟩ := List.length_eq_one_iff.mp hone
  rw [hd] at hback
  exact ⟨chain, d, hback⟩

/-! ## Simplification -/

theorem simplify_of_not_isLone (h : ¬ e.IsLone) :
    e.simplify = e.withOperands (e.operands.map simplify) :=
  (simplify_cases e).resolve_left h

/-- **WHAT IS SIMPLIFIED IS NORMAL**. -/
theorem isNormal_simplify (e : Expression) : e.simplify.IsNormal := by
  induction e using operandInduction with
  | construct e ih =>
      by_cases hlone : e.IsLone
      · obtain ⟨chain, operand, rfl⟩ := hlone
        exact ih operand List.mem_cons_self
      · have hlen : (e.operands.map simplify).length = e.operands.length := List.length_map _
        rw [simplify_of_not_isLone hlone, isNormal_iff, operands_withOperands hlen]
        refine ⟨fun h => hlone (isLone_of_withOperands hlen h), ?_⟩
        intro x hx
        obtain ⟨d, hd, rfl⟩ := List.mem_map.mp hx
        exact ih d hd

/-- **WHAT IS NORMAL IS SIMPLIFIED ALREADY**. -/
theorem simplify_of_isNormal (h : e.IsNormal) : e.simplify = e := by
  induction e using operandInduction with
  | construct e ih =>
      obtain ⟨hlone, hoperands⟩ := isNormal_iff.mp h
      have hsame : e.operands.map simplify = e.operands :=
        (List.map_congr_left fun d hd => ih d hd (hoperands d hd)).trans (List.map_id' _)
      rw [simplify_of_not_isLone hlone, hsame, withOperands_operands]

/-- Operands with the same simplifications can be exchanged before the construct is simplified. -/
theorem simplify_withOperands (h : xs.map simplify = e.operands.map simplify) :
    (e.withOperands xs).simplify = e.simplify := by
  have hlen : xs.length = e.operands.length := by
    rw [← List.length_map simplify, h, List.length_map]
  by_cases hlone : e.IsLone
  · obtain ⟨chain, operand, rfl⟩ := hlone
    obtain ⟨x, rfl⟩ := List.length_eq_one_iff.mp hlen
    exact (List.cons.inj h).1
  · have hexchanged : ¬ (e.withOperands xs).IsLone := fun h => hlone (isLone_of_withOperands hlen h)
    rw [simplify_of_not_isLone hexchanged, simplify_of_not_isLone hlone,
      operands_withOperands hlen, h, withOperands_withOperands hlen (List.length_map _)]

/-! ## Collapsing -/

/-- One lone chain, somewhere in the expression, is replaced by its operand. -/
inductive Collapses : Expression → Expression → Prop where
  | lone (chain : Chain) (operand : Expression) : Collapses (.lone chain operand) operand
  | inside {e x y : Expression} {before after : List Expression}
      (hoperands : e.operands = before ++ x :: after) (h : Collapses x y) :
      Collapses e (e.withOperands (before ++ y :: after))

/-- Lone chains are replaced by their operands, any number of them one after another. -/
def CollapsesTo : Expression → Expression → Prop := Relation.ReflTransGen Collapses

/-- **ONE STEP** leaves the simplification as it is. -/
theorem Collapses.simplify_eq (h : Collapses e x) : x.simplify = e.simplify := by
  induction h with
  | lone chain operand => rfl
  | inside hoperands h ih =>
      refine simplify_withOperands ?_
      rw [hoperands, List.map_append, List.map_append, List.map_cons, List.map_cons, ih]

theorem CollapsesTo.simplify_eq (h : CollapsesTo e x) : x.simplify = e.simplify := by
  induction h with
  | refl => rfl
  | tail _ hstep ih => exact hstep.simplify_eq.trans ih

/-- An operand collapses in its place. -/
theorem collapsesTo_inside (hlen : (before ++ x :: after).length = e.operands.length)
    (h : CollapsesTo x y) :
    CollapsesTo (e.withOperands (before ++ x :: after))
      (e.withOperands (before ++ y :: after)) := by
  have hfits : ∀ z, (before ++ z :: after).length = e.operands.length := by
    intro z
    rw [← hlen, List.length_append, List.length_append, List.length_cons, List.length_cons]
  have hplace : ∀ a b, Collapses a b → Collapses (e.withOperands (before ++ a :: after))
      (e.withOperands (before ++ b :: after)) := by
    intro a b hstep
    have hcollapses := Collapses.inside (operands_withOperands (hfits a)) hstep
    rwa [withOperands_withOperands (hfits a) (hfits b)] at hcollapses
  exact Relation.ReflTransGen.lift (fun z => e.withOperands (before ++ z :: after)) hplace _ _ h

/-- The operands after some others collapse one by one. -/
theorem collapsesTo_exchanged {after' : List Expression}
    (hlen : (before ++ after).length = e.operands.length)
    (h : List.Forall₂ CollapsesTo after after') :
    CollapsesTo (e.withOperands (before ++ after)) (e.withOperands (before ++ after')) := by
  induction h generalizing before with
  | nil => exact .refl
  | @cons x y after after' hxy _ ih =>
      have hfirst := collapsesTo_inside hlen hxy
      have hlen' : (before ++ [y] ++ after).length = e.operands.length := by
        rw [← hlen]
        simp only [List.length_append, List.length_cons, List.length_nil]
        omega
      have hothers := ih hlen'
      rw [List.append_assoc, List.append_assoc] at hothers
      exact hfirst.trans hothers

/-- **SIMPLIFICATION IS REACHED** by collapsing chains. -/
theorem collapsesTo_simplify (e : Expression) : CollapsesTo e e.simplify := by
  induction e using operandInduction with
  | construct e ih =>
      by_cases hlone : e.IsLone
      · obtain ⟨chain, operand, rfl⟩ := hlone
        exact .head (.lone chain operand) (ih operand List.mem_cons_self)
      · have hoperands : List.Forall₂ CollapsesTo e.operands (e.operands.map simplify) :=
          List.forall₂_map_right_iff.mpr (List.forall₂_same.mpr ih)
        have hall : CollapsesTo (e.withOperands ([] ++ e.operands))
            (e.withOperands ([] ++ e.operands.map simplify)) :=
          collapsesTo_exchanged rfl hoperands
        rw [List.nil_append, List.nil_append, withOperands_operands] at hall
        rw [simplify_of_not_isLone hlone]
        exact hall

/-- **THE NORMAL FORM**: no lone chain is left anywhere in a simplified expression, only an
expression without lone chains is its own simplification, and so nothing is left for a second one.
It is the one normal expression that collapsing lone chains leads to. -/
theorem simplify_reaches_normal_form (e : Expression) :
    e.simplify.IsNormal ∧ (e.simplify = e ↔ e.IsNormal) ∧ e.simplify.simplify = e.simplify ∧
      ∀ x, CollapsesTo e x ∧ x.IsNormal ↔ x = e.simplify := by
  refine ⟨e.isNormal_simplify, ⟨?_, simplify_of_isNormal⟩,
    simplify_of_isNormal e.isNormal_simplify, fun x => ⟨?_, ?_⟩⟩
  · intro hself
    rw [← hself]
    exact e.isNormal_simplify
  · rintro ⟨hcollapses, hnormal⟩
    rw [← hcollapses.simplify_eq, simplify_of_isNormal hnormal]
  · rintro rfl
    exact ⟨e.collapsesTo_simplify, e.isNormal_simplify⟩

/-- A lone chain may hold another one, in each place of a construct. -/
example :
    (isIn false (.lone .or (.lone .and (.var "x"))) [.lone .additive (.var "y")]).simplify =
      .isIn false (.var "x") [.var "y"] := rfl

end SparqlScalar.Expression
