import SparqlScalar.Proofs.Outcomes

/-!
# Connectives are three-valued

    Over known outcomes a connective is told by whether a decisive truth value occurs and by the
    first error (`decidedBy`).  Its laws follow from these two facts:

      grouping  -- what comes after can be decided first (`decidedBy_append`), and the truth value
                   that is written is read again (`truthOf_map_ofBool`)
      order     -- the order of operands tells which error is first and nothing else
                   (`toOption_decidedBy_perm`)
-/

namespace SparqlScalar

variable {d : Bool} {xs ys : List (EvalResult Bool)}

/-! ## Grouping and order -/

/-- The outcome of the last operands can stand for them. -/
theorem decidedBy_append (d : Bool) (xs ys : List (EvalResult Bool)) :
    decidedBy d (xs ++ [decidedBy d ys]) = decidedBy d (xs ++ ys) := by
  by_cases h : .ok d ∈ ys
  · rw [decidedBy_of_mem h, decidedBy_of_mem (List.mem_append_right xs h), decidedBy_of_mem]
    exact List.mem_append_right xs List.mem_cons_self
  · -- the last operands do not decide, so their outcome is an error only if one of them is
    rw [decidedBy_of_not_mem h]
    cases herror : firstError ys with
    | none => exact decidedBy_congr (by simp [h]) (by simp [herror])
    | some e => exact decidedBy_congr (by simp [h]) (by simp [herror])

/-- The order of operands tells which error is first, and nothing else. -/
theorem toOption_decidedBy_perm (h : xs.Perm ys) :
    (decidedBy d xs).toOption = (decidedBy d ys).toOption := by
  by_cases hmem : .ok d ∈ xs
  · rw [decidedBy_of_mem hmem, decidedBy_of_mem (h.mem_iff.mp hmem)]
  · rw [decidedBy_of_not_mem hmem, decidedBy_of_not_mem (mt h.mem_iff.mpr hmem)]
    have hnone : firstError xs = none ↔ firstError ys = none := by
      simp only [firstError_eq_none_iff, h.mem_iff]
    cases hx : firstError xs with
    | none => rw [hnone.mp hx]
    | some e =>
        cases hy : firstError ys with
        | none => exact absurd (hnone.mpr hy) (hx ▸ Option.some_ne_none e)
        | some e' => rfl

/-! ## Connectives -/

/-- The truth value that a connective writes as a term is the one that the next connective reads. -/
@[simp]
theorem truthOf_map_ofBool (r : EvalResult Bool) : truthOf (r.map Term.ofBool) = r := by
  cases r with
  | ok b => exact effectiveBooleanValue_ofBool b
  | error e => rfl

/-- **CONNECTIVES ARE THREE-VALUED.**  Over any operands a disjunction is true if one of them is, and
a conjunction is false if one of them is; otherwise the first error is the result, and without an
error the disjunction is false and the conjunction true.  The last operands can be grouped into one,
errors included, and in another order the operands give the same truth value or again an error. -/
theorem connectives_three_valued (xs ys : List (EvalResult Term)) :
    disjunction (m := Id) xs = decidedBy true (xs.map truthOf) ∧
      conjunction (m := Id) xs = decidedBy false (xs.map truthOf) ∧
      disjunction (m := Id) (xs ++ [(disjunction (m := Id) ys).map Term.ofBool]) =
        disjunction (m := Id) (xs ++ ys) ∧
      conjunction (m := Id) (xs ++ [(conjunction (m := Id) ys).map Term.ofBool]) =
        conjunction (m := Id) (xs ++ ys) ∧
      (xs.Perm ys →
        (disjunction (m := Id) xs).toOption = (disjunction (m := Id) ys).toOption ∧
          (conjunction (m := Id) xs).toOption = (conjunction (m := Id) ys).toOption) := by
  simp only [disjunction_eq_decidedBy, conjunction_eq_decidedBy, List.map_append, List.map_cons,
    List.map_nil, truthOf_map_ofBool]
  refine ⟨trivial, trivial, decidedBy_append true _ _, decidedBy_append false _ _, ?_⟩
  intro h
  exact ⟨toOption_decidedBy_perm (h.map truthOf), toOption_decidedBy_perm (h.map truthOf)⟩

/-- Two unbound variables, in either order: the errors differ, and both are errors. -/
theorem connectives_three_valued_of_unbound :
    let x : EvalResult Term := .error (.unbound "x")
    let y : EvalResult Term := .error (.unbound "y")
    [x, y].Perm [y, x] ∧
      disjunction (m := Id) [x, y] ≠ disjunction (m := Id) [y, x] ∧
      (disjunction (m := Id) [x, y]).toOption = (disjunction (m := Id) [y, x]).toOption := by
  intro x y
  have hperm : [x, y].Perm [y, x] := List.Perm.swap y x []
  obtain ⟨hxy, -, -, -, horder⟩ := connectives_three_valued [x, y] [y, x]
  refine ⟨hperm, ?_, (horder hperm).1⟩
  rw [hxy]
  exact fun h => absurd (Except.error.inj h) (by decide)

end SparqlScalar
