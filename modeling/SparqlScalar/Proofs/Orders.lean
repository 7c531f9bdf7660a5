import SparqlScalar.Term.ValueOrder

/-!
# Orders read both ways

    Reading a comparison from the other side turns its answer round: less and greater change places,
    and what is not comparable stays so.

      numbers    -- for two numbers of one kind, and so for two of any kinds, which meet in the same
                    kind from both sides (`Numeric.compare?_swap`)
      instants   -- on the timeline, and where just one instant has a zone
                    (`Instant.compare?_swap`)
      durations  -- from each day of reference, and so from all of them (`Duration.compare?_swap`)
      values     -- for the values of two literals of any sorts (`Value.compareLiterals?_swap`)
-/

namespace SparqlScalar

/-! ## Numbers -/

instance : Std.OrientedOrd Integer := ⟨(Int.compare_swap _ _).symm⟩

instance : Std.OrientedOrd Decimal := ⟨(Int.compare_swap _ _).symm⟩

namespace Binary

variable {f : BinaryFormat}

/-- Two numbers that are brought to one exponent change places with their results. -/
theorem align_swap (s t : Bool) (a b : Nat) (ea eb : Int) :
    align t b eb s a ea = ((align s a ea t b eb).2.1, (align s a ea t b eb).1,
      (align s a ea t b eb).2.2) := by
  simp only [align]
  rw [Int.min_comm eb ea]

/-- Turned round, binary numbers give the opposite answer, and those that stand for no number give
none. -/
theorem compare?_swap (a b : Binary f) : b.compare? a = (a.compare? b).map Ordering.swap := by
  cases a with
  | nan => cases b <;> rfl
  | infinite s =>
      cases b with
      | nan => rfl
      | infinite t => cases s <;> cases t <;> rfl
      | finite t n e h => cases s <;> rfl
  | finite s m e h =>
      cases b with
      | nan => rfl
      | infinite t => cases t <;> rfl
      | finite t n e' h' =>
          show some (compare (align t n e' s m e).1 (align t n e' s m e).2.1) =
            some (compare (align s m e t n e').1 (align s m e t n e').2.1).swap
          rw [align_swap]
          exact congrArg some (Int.compare_swap _ _).symm

end Binary

namespace Numeric

/-- The pair read from the other side. -/
def Pair.swap : Pair → Pair
  | .integer a b => .integer b a
  | .decimal a b => .decimal b a
  | .float a b => .float b a
  | .double a b => .double b a

/-- The order of two numbers of one kind. -/
def Pair.compare? : Pair → Option Ordering
  | .integer a b => some (compare a b)
  | .decimal a b => some (compare a b)
  | .float a b => a.compare? b
  | .double a b => a.compare? b

/-- Each kind of number has an order that can be turned round. -/
theorem Pair.compare?_swap (p : Pair) : p.swap.compare? = p.compare?.map Ordering.swap := by
  cases p with
  | integer a b => exact congrArg some Std.OrientedOrd.eq_swap
  | decimal a b => exact congrArg some Std.OrientedOrd.eq_swap
  | float a b => exact Binary.compare?_swap a b
  | double a b => exact Binary.compare?_swap a b

/-- Two numbers meet in the same kind from both sides. -/
theorem promote_swap (a b : Numeric) : promote b a = (promote a b).swap := by
  cases a <;> cases b <;> rfl

/-- Numbers are compared as the pair to which they are promoted. -/
theorem compare?_eq (a b : Numeric) : a.compare? b = (promote a b).compare? := by
  simp only [compare?]
  cases promote a b <;> rfl

/-- Turned round, numbers are promoted to the same kind. -/
theorem compare?_swap (a b : Numeric) : b.compare? a = (a.compare? b).map Ordering.swap := by
  rw [compare?_eq, compare?_eq, promote_swap, Pair.compare?_swap]

end Numeric

/-! ## Instants -/

/-- Turning an answer round twice changes nothing. -/
theorem map_swap_swap (o : Option Ordering) :
    (o.map Ordering.swap).map Ordering.swap = o := by
  cases o with
  | none => rfl
  | some order => exact congrArg some order.swap_swap

namespace Instant

/-- Turned round, instants give the opposite answer, also where just one of them has a zone. -/
theorem compare?_swap (a b : Instant) : b.compare? a = (a.compare? b).map Ordering.swap := by
  simp only [compare?]
  cases a.zone with
  | none =>
      cases b.zone with
      | none => exact congrArg some Std.OrientedOrd.eq_swap
      | some z => exact (map_swap_swap _).symm
  | some z =>
      cases b.zone with
      | none => rfl
      | some z' => exact congrArg some Std.OrientedOrd.eq_swap

end Instant

/-! ## Durations -/

instance : Std.OrientedOrd YearMonthDuration := ⟨(Int.compare_swap _ _).symm⟩

instance : Std.OrientedOrd DayTimeDuration := ⟨(Int.compare_swap _ _).symm⟩

namespace Duration

/-- The points that two durations lead to are compared the other way round. -/
theorem compareFrom?_swap (a b : Duration) (day : CivilDate) :
    compareFrom? b a day = (compareFrom? a b day).map Ordering.swap := by
  simp only [compareFrom?]
  cases DateTime.ofParts? day 0 0 Decimal.zero (some Zone.utc) with
  | none => rfl
  | some start =>
      show (start.addDuration? b).bind _ = ((start.addDuration? a).bind _).map _
      cases start.addDuration? a with
      | none => cases start.addDuration? b <;> rfl
      | some left =>
          cases start.addDuration? b with
          | none => rfl
          | some right => exact left.instant.compare?_swap right.instant

/-- The answers from all days are turned round together. -/
theorem mapM_compareFrom?_swap (a b : Duration) (days : List CivilDate) :
    days.mapM (compareFrom? b a) = (days.mapM (compareFrom? a b)).map (List.map Ordering.swap) := by
  induction days with
  | nil => rfl
  | cons day rest ih =>
      rw [List.mapM_cons, List.mapM_cons, compareFrom?_swap a b, ih]
      cases compareFrom? a b day with
      | none => rfl
      | some first => cases rest.mapM (compareFrom? a b) <;> rfl

/-- Turned round, durations give the opposite answer from every point of reference. -/
theorem compare?_swap (a b : Duration) : b.compare? a = (a.compare? b).map Ordering.swap := by
  simp only [compare?]
  rw [mapM_compareFrom?_swap a b]
  cases referencePoints.mapM (compareFrom? a b) with
  | none => rfl
  | some orders =>
      cases orders with
      | nil => rfl
      | cons first others =>
          have hagree : (others.map Ordering.swap).all (· == first.swap) =
              others.all (· == first) := by
            rw [List.all_map]
            congr 1
            funext order
            cases order <;> cases first <;> rfl
          show (if _ then _ else _) = Option.map _ (if _ then _ else _)
          rw [hagree]
          split <;> rfl

end Duration

/-! ## Values -/

namespace Value

/-- **BOTH WAYS**: literals compare the other way round from the other side. -/
theorem compareLiterals?_swap (a b : Value) :
    b.compareLiterals? a = (a.compareLiterals? b).map Ordering.swap := by
  cases a with
  | iri i => cases b <;> rfl
  | blank node => cases b <;> rfl
  | boolean x =>
      cases b with
      | boolean y => exact congrArg some Std.OrientedOrd.eq_swap
      | _ => rfl
  | numeric x =>
      cases b with
      | numeric y => exact x.compare?_swap y
      | _ => rfl
  | simple x =>
      cases b with
      | simple y => exact congrArg some Std.OrientedOrd.eq_swap
      | _ => rfl
  | tagged x s =>
      cases b with
      | tagged y t =>
          show (if t = s then _ else _) = Option.map _ (if s = t then _ else _)
          by_cases htag : s = t
          · rw [if_pos htag, if_pos htag.symm]
            exact congrArg some Std.OrientedOrd.eq_swap
          · rw [if_neg htag, if_neg fun h => htag h.symm]
            rfl
      | _ => rfl
  | dateTime x =>
      cases b with
      | dateTime y => exact x.instant.compare?_swap y.instant
      | _ => rfl
  | time x =>
      cases b with
      | time y => exact x.instant.compare?_swap y.instant
      | _ => rfl
  | date x =>
      cases b with
      | date y => exact x.instant.compare?_swap y.instant
      | _ => rfl
  | duration x =>
      cases b with
      | duration y => exact x.compare?_swap y
      | yearMonthDuration y => exact x.compare?_swap y.toDuration
      | dayTimeDuration y => exact x.compare?_swap y.toDuration
      | _ => rfl
  | yearMonthDuration x =>
      cases b with
      | duration y => exact x.toDuration.compare?_swap y
      | yearMonthDuration y => exact congrArg some Std.OrientedOrd.eq_swap
      | dayTimeDuration y => exact x.toDuration.compare?_swap y.toDuration
      | _ => rfl
  | dayTimeDuration x =>
      cases b with
      | duration y => exact x.toDuration.compare?_swap y
      | yearMonthDuration y => exact x.toDuration.compare?_swap y.toDuration
      | dayTimeDuration y => exact congrArg some Std.OrientedOrd.eq_swap
      | _ => rfl
  | other l =>
      cases b with
      | other m =>
          show (if m.datatypeIri = l.datatypeIri ∧ m.lexical = l.lexical then _ else _) =
            Option.map _ (if l.datatypeIri = m.datatypeIri ∧ l.lexical = m.lexical then _ else _)
          by_cases hsame : l.datatypeIri = m.datatypeIri ∧ l.lexical = m.lexical
          · rw [if_pos hsame, if_pos ⟨hsame.1.symm, hsame.2.symm⟩]
            rfl
          · rw [if_neg hsame, if_neg fun h => hsame ⟨h.1.symm, h.2.symm⟩]
            rfl
      | _ => rfl

end Value

end SparqlScalar
