import Mathlib.Data.List.Basic
import SparqlScalar.Operator.Logic

/-!
# Known outcomes

    A connective runs its operands in any monad; over outcomes that are already known it is a
    function of a list.  Both connectives are one function, which asks only whether a decisive truth
    value occurs and which error comes first:

      reference  -- the function itself, told by these two facts (`decidedBy`, `decidedBy_congr`)
      loops      -- a conjunction is the negated disjunction of negated operands
                    (`allFrom_eq_anyFrom`), and an error that a disjunction holds back is an operand
                    before the others (`anyFrom_eq_decidedBy`)
      errors     -- the error of a connective is the first one, where no operand decides
                    (`decidedBy_map_error_iff`)
-/

namespace SparqlScalar

section Known

variable {test : Term → EvalResult Bool} {holds : Bool} {firstError : Option EvalError}
  {r : EvalResult Term} {rest : List (EvalResult Term)}

/-- One round of a disjunction. -/
theorem anyFrom_cons :
    anyFrom (m := Id) test firstError (r :: rest) =
      match r >>= test with
      | .ok true => .ok true
      | .ok false => anyFrom (m := Id) test firstError rest
      | .error e => anyFrom (m := Id) test (firstError <|> some e) rest := rfl

/-- One round of a conjunction. -/
theorem allFrom_cons :
    allFrom (m := Id) test holds firstError (r :: rest) =
      match r >>= test with
      | .ok true => allFrom (m := Id) test holds firstError rest
      | .ok false => allFrom (m := Id) test false firstError rest
      | .error e => allFrom (m := Id) test holds (firstError <|> some e) rest := rfl

/-- An operand that passes the test ends a disjunction. -/
theorem anyFrom_true (h : r >>= test = .ok true) :
    anyFrom (m := Id) test firstError (r :: rest) = .ok true := by
  rw [anyFrom_cons, h]

/-- An operand that fails the test is passed over. -/
theorem anyFrom_false (h : r >>= test = .ok false) :
    anyFrom (m := Id) test firstError (r :: rest) = anyFrom (m := Id) test firstError rest := by
  rw [anyFrom_cons, h]

/-- An error is held back, unless there is one already. -/
theorem anyFrom_error {e : EvalError} (h : r >>= test = .error e) :
    anyFrom (m := Id) test firstError (r :: rest) =
      anyFrom (m := Id) test (firstError <|> some e) rest := by
  rw [anyFrom_cons, h]

theorem allFrom_true (h : r >>= test = .ok true) :
    allFrom (m := Id) test holds firstError (r :: rest) =
      allFrom (m := Id) test holds firstError rest := by
  rw [allFrom_cons, h]

/-- An operand that fails the test decides a conjunction, which goes on all the same. -/
theorem allFrom_false (h : r >>= test = .ok false) :
    allFrom (m := Id) test holds firstError (r :: rest) =
      allFrom (m := Id) test false firstError rest := by
  rw [allFrom_cons, h]

/-- An error is held back by a conjunction as by a disjunction. -/
theorem allFrom_error {e : EvalError} (h : r >>= test = .error e) :
    allFrom (m := Id) test holds firstError (r :: rest) =
      allFrom (m := Id) test holds (firstError <|> some e) rest := by
  rw [allFrom_cons, h]

end Known

/-- A list with a member in a place is not empty. -/
theorem nil_ne_split {α : Type} {before : List α} {b : α} {after : List α} :
    [] ≠ before ++ b :: after := by
  cases before <;> exact nofun

/-- The only member of a list has nothing before it and nothing after it. -/
theorem singleton_split {α : Type} {a b : α} {before after : List α}
    (h : [a] = before ++ b :: after) : before = [] ∧ a = b ∧ after = [] := by
  cases before with
  | nil =>
      obtain ⟨rfl, hafter⟩ := List.cons.inj h
      exact ⟨rfl, rfl, hafter.symm⟩
  | cons c before => exact absurd (List.cons.inj h).2 nil_ne_split

theorem exists_cons_of_split {α : Type} (before : List α) (b : α) (after : List α) :
    ∃ c rest, before ++ b :: after = c :: rest := by
  cases before with
  | nil => exact ⟨b, after, rfl⟩
  | cons c before => exact ⟨c, before ++ b :: after, rfl⟩

variable {test : Term → EvalResult Bool} {x : EvalError}

/-- Two negations of an outcome leave it as it was. -/
theorem map_not_not (r : EvalResult Bool) : (r.map not).map not = r := by
  cases r with
  | error e => rfl
  | ok holds => exact congrArg Except.ok (Bool.not_not holds)

/-- To change the value of an outcome adds no error and takes none away. -/
theorem map_error_iff {α β : Type} {r : EvalResult α} {f : α → β} :
    r.map f = .error x ↔ r = .error x := by
  cases r with
  | ok a => exact ⟨nofun, nofun⟩
  | error y =>
      constructor
      · intro h
        exact congrArg Except.error (Except.error.inj h)
      · intro h
        exact congrArg Except.error (Except.error.inj h)

/-! ## Reference -/

/-- The error of an outcome that is one. -/
def EvalResult.error? {α : Type} : EvalResult α → Option EvalError
  | .ok _ => none
  | .error e => some e

/-- The first error among outcomes. -/
def firstError (truths : List (EvalResult Bool)) : Option EvalError :=
  truths.findSome? EvalResult.error?

/-- One of the two truth values decides if it occurs.  Otherwise the first error is the result, and
without one the other truth value. -/
def decidedBy (decisive : Bool) (truths : List (EvalResult Bool)) : EvalResult Bool :=
  if .ok decisive ∈ truths then .ok decisive
  else
    match firstError truths with
    | some e => .error e
    | none => .ok (!decisive)

variable {d : Bool} {xs ys : List (EvalResult Bool)}

@[simp]
theorem firstError_nil : firstError [] = none := rfl

/-- A truth value is passed over. -/
@[simp]
theorem firstError_cons_ok (b : Bool) (xs : List (EvalResult Bool)) :
    firstError (.ok b :: xs) = firstError xs := rfl

/-- An error is the first one, whatever follows. -/
@[simp]
theorem firstError_cons_error (e : EvalError) (xs : List (EvalResult Bool)) :
    firstError (.error e :: xs) = some e := rfl

/-- The first error of two lists is that of the first, if it has one. -/
@[simp]
theorem firstError_append (xs ys : List (EvalResult Bool)) :
    firstError (xs ++ ys) = (firstError xs).or (firstError ys) :=
  List.findSome?_append

/-- Nothing but errors is an error. -/
theorem firstError_eq_none_iff : firstError xs = none ↔ ∀ e, .error e ∉ xs := by
  rw [firstError, List.findSome?_eq_none_iff]
  constructor
  · intro h e hmem
    exact Option.some_ne_none e (h (.error e) hmem)
  · intro h r hmem
    cases r with
    | ok b => rfl
    | error e => exact absurd hmem (h e)

/-- A decisive truth value outweighs every error. -/
theorem decidedBy_of_mem (h : .ok d ∈ xs) : decidedBy d xs = .ok d := if_pos h

/-- Without a decisive truth value the first error is the result. -/
theorem decidedBy_of_not_mem (h : .ok d ∉ xs) :
    decidedBy d xs = (firstError xs).elim (.ok (!d)) .error := by
  rw [decidedBy, if_neg h]
  cases firstError xs <;> rfl

/-- Whether the decisive value occurs, and the first error, tell the result. -/
theorem decidedBy_congr (hmem : .ok d ∈ xs ↔ .ok d ∈ ys) (herror : firstError xs = firstError ys) :
    decidedBy d xs = decidedBy d ys := by
  simp only [decidedBy, hmem, herror]

/-- Negation changes no error. -/
@[simp]
theorem firstError_map_not (xs : List (EvalResult Bool)) :
    firstError (xs.map (·.map not)) = firstError xs := by
  induction xs with
  | nil => rfl
  | cons r rest ih =>
      cases r with
      | ok b => exact ih
      | error e => rfl

/-- The negated outcomes have a truth value exactly if the outcomes have the other one. -/
theorem mem_map_not_iff : .ok (!d) ∈ xs.map (·.map not) ↔ .ok d ∈ xs := by
  rw [List.mem_map]
  constructor
  · rintro ⟨r, hr, hnot⟩
    have hval : r = .ok d := by
      rw [← map_not_not r, hnot]
      exact congrArg Except.ok (Bool.not_not d)
    rwa [hval] at hr
  · intro h
    exact ⟨.ok d, h, rfl⟩

/-- Negation turns the decisive value round. -/
theorem map_not_decidedBy (d : Bool) (xs : List (EvalResult Bool)) :
    (decidedBy d xs).map not = decidedBy (!d) (xs.map (·.map not)) := by
  by_cases h : .ok d ∈ xs
  · rw [decidedBy_of_mem h, decidedBy_of_mem (mem_map_not_iff.mpr h)]
    rfl
  · rw [decidedBy_of_not_mem h, decidedBy_of_not_mem (mt mem_map_not_iff.mp h), firstError_map_not]
    cases firstError xs <;> rfl

/-! ## Loops -/

/-- A false operand decides. -/
theorem allFrom_decided (held : Option EvalError) (rs : List (EvalResult Term)) :
    allFrom (m := Id) test false held rs = .ok false := by
  induction rs generalizing held with
  | nil => rfl
  | cons r rest ih =>
      cases htest : r >>= test with
      | error e => exact (allFrom_error htest).trans (ih _)
      | ok holds =>
          cases holds with
          | false => exact (allFrom_false htest).trans (ih _)
          | true => exact (allFrom_true htest).trans (ih _)

/-- The test that fails where another holds. -/
def negatedTest (test : Term → EvalResult Bool) (t : Term) : EvalResult Bool := (test t).map not

/-- The negated test has the negated answers and the same errors. -/
theorem bind_negatedTest (test : Term → EvalResult Bool) (r : EvalResult Term) :
    r >>= negatedTest test = (r >>= test).map not := by
  cases r with
  | ok a => rfl
  | error e => rfl

/-- De Morgan's law for known outcomes: a conjunction evaluates all operands and a disjunction does
not, but once the outcomes are known this makes no difference. -/
theorem allFrom_eq_anyFrom (held : Option EvalError) (rs : List (EvalResult Term)) :
    allFrom (m := Id) test true held rs =
      (anyFrom (m := Id) (negatedTest test) held rs).map not := by
  induction rs generalizing held with
  | nil =>
      cases held with
      | none => rfl
      | some e => rfl
  | cons r rest ih =>
      have hnegated := bind_negatedTest test r
      cases htest : r >>= test with
      | error e =>
          rw [htest] at hnegated
          rw [allFrom_error htest, anyFrom_error hnegated, ih]
      | ok holds =>
          rw [htest] at hnegated
          cases holds with
          | false =>
              -- the disjunction stops here, and the conjunction is decided
              rw [allFrom_false htest, anyFrom_true hnegated, allFrom_decided]
              rfl
          | true => rw [allFrom_true htest, anyFrom_false hnegated, ih]

section Loops

variable (test : Term → EvalResult Bool)

/-- A disjunction that holds an error back treats it as an operand before the others. -/
theorem anyFrom_eq_decidedBy (held : Option EvalError) (rs : List (EvalResult Term)) :
    anyFrom (m := Id) test held rs =
      decidedBy true (held.toList.map .error ++ rs.map (· >>= test)) := by
  induction rs generalizing held with
  | nil => cases held <;> rfl
  | cons r rest ih =>
      rw [List.map_cons]
      cases htest : r >>= test with
      | error e =>
          -- a second error is passed over, since the one that is held comes first
          rw [anyFrom_error htest, ih]
          refine decidedBy_congr ?_ ?_
          · cases held <;> simp
          · cases held <;> simp
      | ok holds =>
          cases holds with
          | false =>
              rw [anyFrom_false htest, ih]
              refine decidedBy_congr ?_ ?_
              · simp
              · simp
          | true =>
              rw [anyFrom_true htest, decidedBy_of_mem]
              exact List.mem_append_right _ List.mem_cons_self

/-- A disjunction is decided by a test that holds. -/
theorem anyOf_eq_decidedBy (rs : List (EvalResult Term)) :
    anyOf (m := Id) test rs = decidedBy true (rs.map (· >>= test)) :=
  anyFrom_eq_decidedBy test none rs

/-- A conjunction is decided by a test that does not hold. -/
theorem allOf_eq_decidedBy (rs : List (EvalResult Term)) :
    allOf (m := Id) test rs = decidedBy false (rs.map (· >>= test)) := by
  calc allOf (m := Id) test rs
      = (anyOf (m := Id) (negatedTest test) rs).map not := allFrom_eq_anyFrom none rs
    _ = (decidedBy true (rs.map (· >>= negatedTest test))).map not := by rw [anyOf_eq_decidedBy]
    _ = decidedBy false ((rs.map (· >>= negatedTest test)).map (·.map not)) :=
        map_not_decidedBy true _
    _ = decidedBy false (rs.map (· >>= test)) := by
        rw [List.map_map]
        congr 1
        refine List.map_congr_left fun r _ => ?_
        show (r >>= negatedTest test).map not = r >>= test
        rw [bind_negatedTest, map_not_not]

end Loops

/-- The truth value of an operand's outcome. -/
def truthOf (r : EvalResult Term) : EvalResult Bool := r >>= effectiveBooleanValue

/-- OR is decided by a true operand. -/
theorem disjunction_eq_decidedBy (rs : List (EvalResult Term)) :
    disjunction (m := Id) rs = decidedBy true (rs.map truthOf) :=
  anyOf_eq_decidedBy effectiveBooleanValue rs

/-- AND is decided by a false operand. -/
theorem conjunction_eq_decidedBy (rs : List (EvalResult Term)) :
    conjunction (m := Id) rs = decidedBy false (rs.map truthOf) :=
  allOf_eq_decidedBy effectiveBooleanValue rs

/-! ## Errors -/

/-- The error of an outcome is the outcome itself. -/
theorem EvalResult.error?_eq_some_iff {α : Type} {r : EvalResult α} :
    EvalResult.error? r = some x ↔ r = .error x := by
  cases r with
  | ok a => exact ⟨nofun, nofun⟩
  | error e =>
      constructor
      · intro h
        exact congrArg Except.error (Option.some.inj h)
      · intro h
        exact congrArg some (Except.error.inj h)

/-- A truth value that does not decide is the other one. -/
theorem eq_ok_of_not_decisive {r : EvalResult Bool} (hok : EvalResult.error? r = none)
    (hne : r ≠ .ok d) : r = .ok (!d) := by
  cases r with
  | error e => cases hok
  | ok b =>
      refine congrArg Except.ok ?_
      rw [Bool.eq_not]
      exact fun hb => hne (congrArg Except.ok hb)

/-- An error is the result if it is the first and no truth value decides. -/
theorem decidedBy_error_iff : decidedBy d xs = .error x ↔ .ok d ∉ xs ∧ firstError xs = some x := by
  by_cases h : .ok d ∈ xs
  · rw [decidedBy_of_mem h]
    constructor
    · intro heq
      exact nomatch heq
    · rintro ⟨hnot, -⟩
      exact absurd h hnot
  · rw [decidedBy_of_not_mem h]
    cases firstError xs with
    | none => exact ⟨nofun, nofun⟩
    | some e =>
        constructor
        · intro heq
          exact ⟨h, congrArg some (Except.error.inj heq)⟩
        · rintro ⟨-, heq⟩
          exact congrArg Except.error (Option.some.inj heq)

/-- **THE ERROR OF A CONNECTIVE** is the first one, if all operands before it have the truth value
that does not decide, and none after it has the one that does. -/
theorem decidedBy_map_error_iff (f : EvalResult Term → EvalResult Bool)
    (rs : List (EvalResult Term)) :
    decidedBy d (rs.map f) = .error x ↔
      ∃ before r after, rs = before ++ r :: after ∧ f r = .error x ∧
        (∀ q ∈ before, f q = .ok (!d)) ∧ ∀ q ∈ after, f q ≠ .ok d := by
  rw [decidedBy_error_iff, firstError, List.findSome?_map, List.findSome?_eq_some_iff]
  constructor
  · rintro ⟨hnot, before, r, after, rfl, hr, hbefore⟩
    have hne : ∀ q ∈ before ++ r :: after, f q ≠ .ok d := by
      intro q hq heq
      exact hnot (heq ▸ List.mem_map_of_mem hq)
    refine ⟨before, r, after, rfl, EvalResult.error?_eq_some_iff.mp hr, ?_, ?_⟩
    · intro q hq
      exact eq_ok_of_not_decisive (hbefore q hq) (hne q (List.mem_append_left _ hq))
    · intro q hq
      exact hne q (List.mem_append_right before (List.mem_cons_of_mem r hq))
  · rintro ⟨before, r, after, rfl, hr, hbefore, hafter⟩
    refine ⟨?_, before, r, after, rfl, EvalResult.error?_eq_some_iff.mpr hr, ?_⟩
    · intro hmem
      obtain ⟨q, hq, heq⟩ := List.mem_map.mp hmem
      rcases List.mem_append.mp hq with hq | hq
      · rw [hbefore q hq] at heq
        exact (Bool.not_eq_self d).mp (Except.ok.inj heq)
      · rcases List.mem_cons.mp hq with rfl | hq
        · rw [hr] at heq
          cases heq
        · exact hafter q hq heq
    · intro q hq
      show EvalResult.error? (f q) = none
      rw [hbefore q hq]
      rfl

/-- A disjunction fails with the first error if all operands before it fail the test and none after
it passes. -/
theorem anyOf_error_iff (rs : List (EvalResult Term)) :
    anyOf (m := Id) test rs = .error x ↔
      ∃ before r after, rs = before ++ r :: after ∧ r >>= test = .error x ∧
        (∀ q ∈ before, q >>= test = .ok false) ∧ ∀ q ∈ after, q >>= test ≠ .ok true := by
  rw [anyOf_eq_decidedBy]
  exact decidedBy_map_error_iff (· >>= test) rs

/-- A conjunction fails with the first error if all operands before it pass the test and none after
it fails the test. -/
theorem allOf_error_iff (rs : List (EvalResult Term)) :
    allOf (m := Id) test rs = .error x ↔
      ∃ before r after, rs = before ++ r :: after ∧ r >>= test = .error x ∧
        (∀ q ∈ before, q >>= test = .ok true) ∧ ∀ q ∈ after, q >>= test ≠ .ok false := by
  rw [allOf_eq_decidedBy]
  exact decidedBy_map_error_iff (· >>= test) rs

/-- An operand that passes decides. -/
theorem anyOf_of_passes {r : EvalResult Term} {rs : List (EvalResult Term)} (hmem : r ∈ rs)
    (hpass : r >>= test = .ok true) : anyOf (m := Id) test rs = .ok true := by
  rw [anyOf_eq_decidedBy]
  exact decidedBy_of_mem (List.mem_map.mpr ⟨r, hmem, hpass⟩)

/-! ## Values -/

/-- The values of outcomes, or the first failure. -/
def valuesOf : List (EvalResult Term) → EvalResult (List Term)
  | [] => .ok []
  | .ok term :: rest => (valuesOf rest).map (term :: ·)
  | .error e :: _ => .error e

/-- The values fail with the first failure. -/
theorem valuesOf_error_iff (rs : List (EvalResult Term)) :
    valuesOf rs = .error x ↔
      ∃ before after, rs = before ++ .error x :: after ∧ ∀ q ∈ before, ∃ a, q = .ok a := by
  induction rs with
  | nil =>
      constructor
      · intro h
        exact nomatch h
      · rintro ⟨before, after, heq, -⟩
        exact absurd heq nil_ne_split
  | cons r rest ih =>
      cases r with
      | error e =>
          constructor
          · intro h
            obtain rfl := Except.error.inj h
            exact ⟨[], rest, rfl, fun q hq => nomatch hq⟩
          · rintro ⟨before, after, heq, hbefore⟩
            cases before with
            | nil => exact congrArg valuesOf heq
            | cons q before =>
                obtain ⟨a, ha⟩ := hbefore q List.mem_cons_self
                rw [← (List.cons.inj heq).1] at ha
                exact nomatch ha
      | ok a =>
          have hvalues : valuesOf (.ok a :: rest) = .error x ↔ valuesOf rest = .error x :=
            map_error_iff
          rw [hvalues, ih]
          constructor
          · rintro ⟨before, after, rfl, hbefore⟩
            exact ⟨.ok a :: before, after, rfl, List.forall_mem_cons.mpr ⟨⟨a, rfl⟩, hbefore⟩⟩
          · rintro ⟨before, after, heq, hbefore⟩
            cases before with
            | nil => exact nomatch (List.cons.inj heq).1
            | cons q before =>
                exact ⟨before, after, (List.cons.inj heq).2, (List.forall_mem_cons.mp hbefore).2⟩

theorem valuesOf_split {before after : List (EvalResult Term)} {x : EvalError}
    (hbefore : ∀ q ∈ before, ∃ a, q = .ok a) : valuesOf (before ++ .error x :: after) = .error x :=
  (valuesOf_error_iff _).mpr ⟨before, after, rfl, hbefore⟩

end SparqlScalar
