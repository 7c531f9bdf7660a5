import Mathlib.Data.List.Basic
import SparqlScalar.Expression.Depth
import SparqlScalar.Expression.Simplify

/-!
# Operands by their places

    Eighteen constructs differ in where they keep their operands.  Here they are put in one list,
    from left to right, and a construct can be given other operands in the same places.  Depth,
    simplification and replacement inside an expression are then each one statement about the list
    of operands, and inductions over expressions become inductions over depth.
-/

namespace SparqlScalar.Expression

/-- The operands of an expression, from left to right. -/
def operands : Expression → List Expression
  | .constant _ => []
  | .var _ => []
  | .lone _ operand => [operand]
  | .or first rest => first :: rest
  | .and first rest => first :: rest
  | .compare _ left right => [left, right]
  | .isIn _ needle candidates => needle :: candidates
  | .additive first rest => first :: rest.map Prod.snd
  | .multiplicative first rest => first :: rest.map Prod.snd
  | .not operand => [operand]
  | .negate operand => [operand]
  | .plus operand => [operand]
  | .conditional condition ifTrue ifFalse => [condition, ifTrue, ifFalse]
  | .coalesce candidates => candidates
  | .bound _ => []
  | .builtin _ arguments => arguments
  | .solvable _ _ => []
  | .call _ arguments => arguments

/-- The same construct with other operands, of which there have to be as many. -/
def withOperands : Expression → List Expression → Expression
  | .lone chain _, [operand] => .lone chain operand
  | .or _ _, first :: rest => .or first rest
  | .and _ _, first :: rest => .and first rest
  | .compare operator _ _, [left, right] => .compare operator left right
  | .isIn negated _ _, needle :: candidates => .isIn negated needle candidates
  | .additive _ old, first :: rest => .additive first ((old.map Prod.fst).zip rest)
  | .multiplicative _ old, first :: rest => .multiplicative first ((old.map Prod.fst).zip rest)
  | .not _, [operand] => .not operand
  | .negate _, [operand] => .negate operand
  | .plus _, [operand] => .plus operand
  | .conditional _ _ _, [condition, ifTrue, ifFalse] => .conditional condition ifTrue ifFalse
  | .coalesce _, candidates => .coalesce candidates
  | .builtin function _, arguments => .builtin function arguments
  | .call iri _, arguments => .call iri arguments
  | e, _ => e

/-- The operand in a place; a place that has none stands for the expression itself. -/
def operand (e : Expression) (place : Nat) : Expression := e.operands.getD place e

/-- An expression with the one at the end of a path, a list of places, replaced. -/
def replaceAt (new : Expression) : List Nat → Expression → Expression
  | [], _ => new
  | place :: path, e =>
    e.withOperands (e.operands.set place (replaceAt new path (e.operand place)))

private theorem zip_keys_values {Op : Type} (pairs : List (Op × Expression)) :
    (pairs.map Prod.fst).zip (pairs.map Prod.snd) = pairs := by
  induction pairs with
  | nil => rfl
  | cons pair rest ih => exact congrArg (List.cons pair) ih

/-- The operators of a continuation stay where its operands are exchanged. -/
private theorem keys_zip {Op : Type} {pairs : List (Op × Expression)} {xs : List Expression}
    (h : xs.length = (pairs.map Prod.snd).length) :
    ((pairs.map Prod.fst).zip xs).map Prod.fst = pairs.map Prod.fst := by
  refine List.map_fst_zip (Nat.le_of_eq ?_)
  rw [h, List.length_map, List.length_map]

/-- An expression with its own operands is itself. -/
theorem withOperands_operands (e : Expression) : e.withOperands e.operands = e := by
  cases e with
  | additive first rest => exact congrArg (additive first) (zip_keys_values rest)
  | multiplicative first rest => exact congrArg (multiplicative first) (zip_keys_values rest)
  | _ => rfl

/-- A way to reason about a construct whose operands are exchanged: the operands come in the
number that the construct has places for. -/
theorem operands_withOperands {e : Expression} {xs : List Expression}
    (h : xs.length = e.operands.length) : (e.withOperands xs).operands = xs := by
  cases e with
  | constant _ | var _ | bound _ | solvable _ _ => exact (List.length_eq_zero_iff.mp h).symm
  | lone _ _ | not _ | negate _ | plus _ =>
      obtain ⟨x, rfl⟩ := List.length_eq_one_iff.mp h
      rfl
  | compare _ _ _ =>
      obtain ⟨x, y, rfl⟩ := List.length_eq_two.mp h
      rfl
  | conditional _ _ _ =>
      obtain ⟨x, y, z, rfl⟩ := List.length_eq_three.mp h
      rfl
  | or _ _ | and _ _ | isIn _ _ _ =>
      obtain ⟨x, rest, rfl⟩ := List.exists_cons_of_length_eq_add_one h
      rfl
  | additive _ old | multiplicative _ old =>
      obtain ⟨x, rest, rfl⟩ := List.exists_cons_of_length_eq_add_one h
      -- the operators stay, and there are as many of them as operands after the first
      have hlen : rest.length ≤ (old.map Prod.fst).length := by
        have h' : rest.length + 1 = (old.map Prod.snd).length + 1 := h
        rw [List.length_map] at h' ⊢
        omega
      exact congrArg (List.cons x) (List.map_snd_zip hlen)
  | coalesce _ | builtin _ _ | call _ _ => rfl

/-- Operands that are exchanged twice are those of the second exchange. -/
theorem withOperands_withOperands {e : Expression} {xs ys : List Expression}
    (h : xs.length = e.operands.length) (h' : ys.length = e.operands.length) :
    (e.withOperands xs).withOperands ys = e.withOperands ys := by
  cases e with
  | constant _ | var _ | bound _ | solvable _ _ => rfl
  | lone _ _ | not _ | negate _ | plus _ =>
      obtain ⟨x, rfl⟩ := List.length_eq_one_iff.mp h
      obtain ⟨y, rfl⟩ := List.length_eq_one_iff.mp h'
      rfl
  | compare _ _ _ =>
      obtain ⟨x, x', rfl⟩ := List.length_eq_two.mp h
      obtain ⟨y, y', rfl⟩ := List.length_eq_two.mp h'
      rfl
  | conditional _ _ _ =>
      obtain ⟨x, x', x'', rfl⟩ := List.length_eq_three.mp h
      obtain ⟨y, y', y'', rfl⟩ := List.length_eq_three.mp h'
      rfl
  | or _ _ | and _ _ | isIn _ _ _ =>
      obtain ⟨x, xs, rfl⟩ := List.exists_cons_of_length_eq_add_one h
      obtain ⟨y, ys, rfl⟩ := List.exists_cons_of_length_eq_add_one h'
      rfl
  | additive _ old =>
      obtain ⟨x, xs, rfl⟩ := List.exists_cons_of_length_eq_add_one h
      obtain ⟨y, ys, rfl⟩ := List.exists_cons_of_length_eq_add_one h'
      exact congrArg (fun keys => additive y (keys.zip ys)) (keys_zip (Nat.succ.inj h))
  | multiplicative _ old =>
      obtain ⟨x, xs, rfl⟩ := List.exists_cons_of_length_eq_add_one h
      obtain ⟨y, ys, rfl⟩ := List.exists_cons_of_length_eq_add_one h'
      exact congrArg (fun keys => multiplicative y (keys.zip ys)) (keys_zip (Nat.succ.inj h))
  | coalesce _ | builtin _ _ | call _ _ => rfl

/-- The operand at a place is the one in the list. -/
theorem operand_eq {e : Expression} {place : Nat} (h : place < e.operands.length) :
    e.operand place = e.operands[place] := by
  unfold operand
  rw [List.getD_eq_getElem?_getD, List.getElem?_eq_getElem h]
  rfl

/-- The operand at a place is one of the operands. -/
theorem operand_mem {e : Expression} {place : Nat} (h : place < e.operands.length) :
    e.operand place ∈ e.operands := by
  rw [operand_eq h]
  exact List.getElem_mem h

/-- Where an operand is exchanged, the new one stands. -/
theorem operand_set_self {e : Expression} {place : Nat} (h : place < e.operands.length)
    (x : Expression) : (e.withOperands (e.operands.set place x)).operand place = x := by
  have hoperands : (e.withOperands (e.operands.set place x)).operands = e.operands.set place x :=
    operands_withOperands List.length_set
  have hplace : place < (e.withOperands (e.operands.set place x)).operands.length := by
    rw [hoperands, List.length_set]
    exact h
  rw [operand_eq hplace]
  simp only [hoperands, List.getElem_set_self]

/-- Where an operand is exchanged, the others stay. -/
theorem operand_set_ne {e : Expression} {place other : Nat} (h : other < e.operands.length)
    (hne : place ≠ other) (x : Expression) :
    (e.withOperands (e.operands.set place x)).operand other = e.operand other := by
  have hoperands : (e.withOperands (e.operands.set place x)).operands = e.operands.set place x :=
    operands_withOperands List.length_set
  have hother : other < (e.withOperands (e.operands.set place x)).operands.length := by
    rw [hoperands, List.length_set]
    exact h
  rw [operand_eq hother, operand_eq h]
  simp only [hoperands, List.getElem_set_ne hne]

/-- Where all operands are mapped, each is. -/
theorem operand_map {e : Expression} {place : Nat} (h : place < e.operands.length)
    {f : Expression → Expression} :
    (e.withOperands (e.operands.map f)).operand place = f (e.operand place) := by
  have hoperands : (e.withOperands (e.operands.map f)).operands = e.operands.map f :=
    operands_withOperands (List.length_map f)
  have hplace : place < (e.withOperands (e.operands.map f)).operands.length := by
    rw [hoperands, List.length_map]
    exact h
  rw [operand_eq hplace, operand_eq h]
  simp only [hoperands, List.getElem_map]

/-! ## Depth -/

/-- No operand is deeper than all of them. -/
theorem depth_le_depthOfAll {es : List Expression} {e : Expression} (h : e ∈ es) :
    e.depth ≤ depthOfAll es := by
  induction es with
  | nil => exact nomatch h
  | cons d rest ih =>
      show e.depth ≤ max d.depth (depthOfAll rest)
      rcases List.mem_cons.mp h with heq | hmem
      · rw [heq]
        exact Nat.le_max_left _ _
      · exact Nat.le_trans (ih hmem) (Nat.le_max_right _ _)

/-- All of them are no deeper than a bound for each. -/
theorem depthOfAll_le {es : List Expression} {n : Nat} (h : ∀ e ∈ es, e.depth ≤ n) :
    depthOfAll es ≤ n := by
  induction es with
  | nil => exact Nat.zero_le n
  | cons d rest ih =>
      show max d.depth (depthOfAll rest) ≤ n
      exact Nat.max_le.mpr ⟨h d List.mem_cons_self, ih fun e he => h e (List.mem_cons_of_mem d he)⟩

theorem depthOfSums_eq (pairs : List (AdditiveOperator × Expression)) :
    depthOfSums pairs = depthOfAll (pairs.map Prod.snd) := by
  induction pairs with
  | nil => rfl
  | cons pair rest ih => exact congrArg (max pair.2.depth) ih

theorem depthOfProducts_eq (pairs : List (MultiplicativeOperator × Expression)) :
    depthOfProducts pairs = depthOfAll (pairs.map Prod.snd) := by
  induction pairs with
  | nil => rfl
  | cons pair rest ih => exact congrArg (max pair.2.depth) ih

/-- An expression is one level deeper than the deepest of its operands. -/
theorem depth_eq (e : Expression) : e.depth = depthOfAll e.operands + 1 := by
  cases e with
  | additive first rest =>
      show max first.depth (depthOfSums rest) + 1 = _
      rw [depthOfSums_eq]
      rfl
  | multiplicative first rest =>
      show max first.depth (depthOfProducts rest) + 1 = _
      rw [depthOfProducts_eq]
      rfl
  | compare operator left right =>
      show max left.depth right.depth + 1 = max left.depth (max right.depth 0) + 1
      rw [Nat.max_zero]
  | conditional condition ifTrue ifFalse =>
      show max condition.depth (max ifTrue.depth ifFalse.depth) + 1 =
        max condition.depth (max ifTrue.depth (max ifFalse.depth 0)) + 1
      rw [Nat.max_zero]
  | lone _ operand | not operand | negate operand | plus operand =>
      show operand.depth + 1 = max operand.depth 0 + 1
      rw [Nat.max_zero]
  | _ => rfl

/-- An operand is less deep than the expression. -/
theorem depth_lt_of_mem {d e : Expression} (h : d ∈ e.operands) : d.depth < e.depth := by
  rw [depth_eq e]
  exact Nat.lt_succ_of_le (depth_le_depthOfAll h)

/-- Induction over the operands, wherever a construct keeps them. -/
@[elab_as_elim]
theorem operandInduction {P : Expression → Prop}
    (construct : ∀ e : Expression, (∀ d ∈ e.operands, P d) → P e) (e : Expression) : P e := by
  -- strong induction on the depth, which falls from a construct to its operands
  induction hn : e.depth using Nat.strongRecOn generalizing e with
  | ind n ih =>
      refine construct e fun d hd => ih d.depth ?_ d rfl
      rw [← hn]
      exact depth_lt_of_mem hd

/-! ## Occurrences -/

/-- An expression contains itself, and what its operands contain. -/
inductive Contains : Expression → Expression → Prop where
  | self (e : Expression) : Contains e e
  | operand {e x d : Expression} (hmem : x ∈ e.operands) (h : Contains x d) : Contains e d

/-- What is contained has its operands contained as well. -/
theorem Contains.operand_of {e d x : Expression} (h : e.Contains d) (hmem : x ∈ d.operands) :
    e.Contains x := by
  induction h with
  | self e => exact .operand hmem (.self x)
  | operand hfirst _ ih => exact .operand hfirst (ih hmem)

/-- A variable occurs, be it for its value or in BOUND. -/
def Mentions (e : Expression) (name : String) : Prop :=
  e.Contains (.var name) ∨ e.Contains (.bound name)

/-- There is neither EXISTS nor NOT EXISTS in an expression. -/
def HasNoPattern (e : Expression) : Prop :=
  ∀ negated pattern, ¬ e.Contains (.solvable negated pattern)

/-! ## Simplification -/

theorem simplifySums_eq (pairs : List (AdditiveOperator × Expression)) :
    simplifySums pairs = (pairs.map Prod.fst).zip ((pairs.map Prod.snd).map simplify) := by
  induction pairs with
  | nil => rfl
  | cons pair rest ih => exact congrArg (List.cons (pair.1, pair.2.simplify)) ih

theorem simplifyProducts_eq (pairs : List (MultiplicativeOperator × Expression)) :
    simplifyProducts pairs = (pairs.map Prod.fst).zip ((pairs.map Prod.snd).map simplify) := by
  induction pairs with
  | nil => rfl
  | cons pair rest ih => exact congrArg (List.cons (pair.1, pair.2.simplify)) ih

/-- Simplification takes a chain without a continuation away, and of every other construct it
simplifies the operands. -/
theorem simplify_cases (e : Expression) :
    (∃ chain operand, e = .lone chain operand) ∨
      e.simplify = e.withOperands (e.operands.map simplify) := by
  cases e with
  | lone chain operand => exact Or.inl ⟨chain, operand, rfl⟩
  | or first rest => exact Or.inr (congrArg (or first.simplify) (simplifyAll_eq_map rest))
  | and first rest => exact Or.inr (congrArg (and first.simplify) (simplifyAll_eq_map rest))
  | isIn negated needle candidates =>
      exact Or.inr (congrArg (isIn negated needle.simplify) (simplifyAll_eq_map candidates))
  | additive first rest => exact Or.inr (congrArg (additive first.simplify) (simplifySums_eq rest))
  | multiplicative first rest =>
      exact Or.inr (congrArg (multiplicative first.simplify) (simplifyProducts_eq rest))
  | coalesce candidates => exact Or.inr (congrArg coalesce (simplifyAll_eq_map candidates))
  | builtin function arguments =>
      exact Or.inr (congrArg (builtin function) (simplifyAll_eq_map arguments))
  | call iri arguments => exact Or.inr (congrArg (call iri) (simplifyAll_eq_map arguments))
  | _ => exact Or.inr rfl

/-- A chain without continuations is replaced by its operand. -/
theorem simplify_lone (chain : Chain) (operand : Expression) :
    (lone chain operand).simplify = operand.simplify := rfl

/-- Simplification never makes an expression deeper. -/
theorem depth_simplify_le (e : Expression) : e.simplify.depth ≤ e.depth := by
  induction e using operandInduction with
  | construct e ih =>
      rcases simplify_cases e with ⟨chain, operand, rfl⟩ | heq
      · -- the chain itself is a level that simplification takes away
        rw [simplify_lone]
        have hlt : operand.depth < (lone chain operand).depth :=
          depth_lt_of_mem List.mem_cons_self
        have hle := ih operand List.mem_cons_self
        omega
      · rw [heq, depth_eq, depth_eq e, operands_withOperands (List.length_map _)]
        refine Nat.succ_le_succ (depthOfAll_le ?_)
        intro x hx
        obtain ⟨d, hd, rfl⟩ := List.mem_map.mp hx
        exact Nat.le_trans (ih d hd) (depth_le_depthOfAll hd)

end SparqlScalar.Expression
