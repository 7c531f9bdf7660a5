import SparqlScalar.Proofs.Occurrences
import SparqlScalar.Proofs.RoundedPositions

/-!
# Substrings

    A substring holds the characters at the places from the rounded start on, and before the rounded
    start and the rounded length together.  The positions are rounded in double precision, so the
    places are the exact ones where double precision tells the numbers from the ties between whole
    numbers:

      positions -- a number gives a whole number near it, which is the nearest one or far outside of
                   every text if the number can be told from a tie (`IsPosition.agrees`)
      places    -- whether a place lies between two positions is decided exactly (`notBefore_eq`,
                   `isBefore_eq`), and the characters there are a slice (`charsAt_between`)
      operands  -- so a substring holds the characters between two positions (`substringOf_eq`),
                   which are those of the exact law (`substringOf_exact`)
-/

namespace SparqlScalar

open Binary (Rounds)

/-! ## Positions -/

/-- A whole number that a number is rounded to in double precision: the floor of something near the
number and one half. -/
def IsPosition (q : Rat) (r : Int) : Prop :=
  ∃ z : Rat, r = ⌊z⌋ ∧ |z - (q + 1 / 2)| ≤ (|q| + 1) / 2 ^ 50 ∧
    ∀ n : Int, q = n + 1 / 2 → |q| < 2 ^ 47 → z = q + 1 / 2

theorem roundPosition_isPosition {x : Numeric} {kind : ExactKind} {q : Rat}
    (h : x.HasValue kind q) : ∃ r : Int, (roundPosition x).HasValue r ∧ IsPosition q r := by
  obtain ⟨z, hvalue, hz⟩ := roundPosition_close h
  exact ⟨⌊z⌋, hvalue, z, rfl, hz⟩

/-- Double precision tells a number from the ties between whole numbers: it is one, or not next to
one, or it is larger than the length of a text. -/
def TellsTies (q : Rat) : Prop :=
  |q| < 2 ^ 47 → ∀ n : Int, q = n + 1 / 2 ∨ (|q| + 1) / 2 ^ 49 ≤ |q - (n + 1 / 2)|

/-- Numbers of few digits are told from ties. -/
theorem tellsTies_of_digits {n : Int} {places : Nat} (h : |n| + 10 ^ places ≤ 2 ^ 48) :
    TellsTies (n / 10 ^ places) := by
  intro _ m
  have hpow : (0 : Rat) < 10 ^ places := by positivity
  by_cases htie : 2 * n = (2 * m + 1) * 10 ^ places
  · left
    have htie' : 2 * (n : Rat) = (2 * m + 1) * 10 ^ places := by exact_mod_cast htie
    rw [div_eq_iff hpow.ne']
    linarith
  · right
    have hdistance : (n / 10 ^ places - (m + 1 / 2) : Rat) =
        (2 * n - (2 * m + 1) * 10 ^ places : Int) / (2 * 10 ^ places) := by
      push_cast
      field_simp
    have hone : (1 : Rat) ≤ |((2 * n - (2 * m + 1) * 10 ^ places : Int) : Rat)| := by
      exact_mod_cast Int.one_le_abs (sub_ne_zero.mpr htie)
    have hsize : |(n : Rat)| + 10 ^ places ≤ 2 ^ 48 := by exact_mod_cast h
    rw [hdistance, abs_div, abs_div, abs_of_pos hpow, abs_of_pos (mul_pos two_pos hpow)]
    calc (|(n : Rat)| / 10 ^ places + 1) / 2 ^ 49
        = (|(n : Rat)| + 10 ^ places) / (2 ^ 49 * 10 ^ places) := by field_simp
      _ ≤ 2 ^ 48 / (2 ^ 49 * 10 ^ places) := by gcongr
      _ = 1 / (2 * 10 ^ places) := by field_simp
      _ ≤ _ := by gcongr

/-- Whole numbers are told from ties. -/
theorem tellsTies_intCast (n : Int) : TellsTies n := by
  intro hsmall
  have hbits : |n| < 2 ^ 47 := by exact_mod_cast hsmall
  have hdigits : |n| + 10 ^ 0 ≤ 2 ^ 48 := by
    rw [pow_zero]
    omega
  have htells := tellsTies_of_digits hdigits
  rw [pow_zero, div_one] at htells
  exact htells hsmall

/-- Two positions agree in all texts: they are one, or both are behind the text, or both are far
before it. -/
def Agree (r r' : Int) : Prop :=
  r = r' ∨ (2 ^ 47 ≤ r ∧ 2 ^ 47 ≤ r') ∨ (r ≤ -2 ^ 47 ∧ r' ≤ -2 ^ 47)

namespace IsPosition

variable {q : Rat} {r : Int}

theorem abs_le_two_pow (h : IsPosition q r) (hq : |q| ≤ 2 ^ 127) : |(r : Rat)| ≤ 2 ^ 129 := by
  obtain ⟨z, rfl, hclose, -⟩ := h
  obtain ⟨hlow, hhigh⟩ := abs_le.mp hclose
  have hq' := abs_le.mp hq
  have hbelow := Int.floor_le z
  have habove := Int.lt_floor_add_one z
  rw [abs_le]
  constructor <;> linarith

/-- **NO POSITION IS MISSED BY MORE THAN ONE**. -/
theorem within_one (h : IsPosition q r) (hsmall : |q| < 2 ^ 47) : |r - ⌊q + 1 / 2⌋| ≤ 1 := by
  obtain ⟨z, rfl, hclose, -⟩ := h
  have hnear : (|q| + 1) / 2 ^ 50 ≤ 1 := by linarith
  obtain ⟨hlow, hhigh⟩ := abs_le.mp (hclose.trans hnear)
  rw [abs_le]
  constructor
  · have hfloor : ⌊q + 1 / 2⌋ ≤ ⌊z + 1⌋ := Int.floor_le_floor (by linarith)
    rw [Int.floor_add_one] at hfloor
    omega
  · have hfloor : ⌊z⌋ ≤ ⌊q + 1 / 2 + 1⌋ := Int.floor_le_floor (by linarith)
    rw [Int.floor_add_one] at hfloor
    omega

/-- A number that is told from the ties is rounded exactly, unless it is large. -/
theorem eq_of_tellsTies (h : IsPosition q r) (hq : TellsTies q) (hsmall : |q| < 2 ^ 47) :
    r = ⌊q + 1 / 2⌋ := by
  obtain ⟨z, rfl, hclose, hexact⟩ := h
  have hbelow := Int.floor_le (q + 1 / 2)
  have habove := Int.lt_floor_add_one (q + 1 / 2)
  have hlower := hq hsmall (⌊q + 1 / 2⌋ - 1)
  have hupper := hq hsmall ⌊q + 1 / 2⌋
  push_cast at hlower
  rcases hlower with htie | hlower
  · rw [hexact (⌊q + 1 / 2⌋ - 1) (by push_cast; exact htie) hsmall]
  · have hmargin : 0 < (|q| + 1) / 2 ^ 50 := by positivity
    have hdouble : (|q| + 1) / 2 ^ 49 = 2 * ((|q| + 1) / 2 ^ 50) := by ring
    generalize (|q| + 1) / 2 ^ 50 = margin at hclose hmargin hdouble
    obtain ⟨hlow, hhigh⟩ := abs_le.mp hclose
    rw [hdouble, abs_of_nonneg (by linarith)] at hlower
    rw [hdouble, abs_of_neg (by linarith)] at hupper
    rw [Int.floor_eq_iff]
    rcases hupper with htie | hupper
    · linarith
    · constructor <;> linarith

/-- **A POSITION AGREES WITH THE EXACT ONE** if its number is told from the ties. -/
theorem agrees (h : IsPosition q r) (hq : TellsTies q) : Agree r ⌊q + 1 / 2⌋ := by
  by_cases hsmall : |q| < 2 ^ 47
  · exact Or.inl (h.eq_of_tellsTies hq hsmall)
  · obtain ⟨z, rfl, hclose, -⟩ := h
    obtain ⟨hlow, hhigh⟩ := abs_le.mp hclose
    right
    rcases le_abs.mp (not_lt.mp hsmall) with hpos | hneg
    · rw [abs_of_nonneg (by linarith)] at hlow
      exact Or.inl ⟨Int.le_floor.mpr (by push_cast; linarith),
        Int.le_floor.mpr (by push_cast; linarith)⟩
    · rw [abs_of_nonpos (by linarith)] at hhigh
      have hz : ⌊z⌋ < -2 ^ 47 + 1 := Int.floor_lt.mpr (by push_cast; linarith)
      have hexact : ⌊q + 1 / 2⌋ < -2 ^ 47 + 1 := Int.floor_lt.mpr (by push_cast; linarith)
      exact Or.inr ⟨Int.lt_add_one_iff.mp hz, Int.lt_add_one_iff.mp hexact⟩

end IsPosition

/-! ## Places -/

/-- The characters at the places, counted from one, that satisfy a condition. -/
def charsAt (condition : Int → Prop) [DecidablePred condition] (chars : List Char) : List Char :=
  ((chars.zipIdx 1).filter fun (_, place) => condition place).map Prod.fst

/-- The string of the characters at some places of a string, with the same tag. -/
def StringValue.partAt (s : StringValue) (condition : Int → Prop) [DecidablePred condition] :
    Term :=
  (s.withChars (charsAt condition s.chars)).toTerm

theorem place_of_mem {chars : List Char} {c : Char} {place : Nat}
    (h : (c, place) ∈ chars.zipIdx 1) : 0 < place ∧ place ≤ chars.length := by
  obtain ⟨hlow, hhigh, -⟩ := List.mem_zipIdx h
  omega

/-- Conditions are asked of the places of a text only. -/
theorem StringValue.partAt_congr {s : StringValue} {condition condition' : Int → Prop}
    [DecidablePred condition] [DecidablePred condition']
    (h : ∀ place : Nat, 0 < place → place ≤ s.chars.length → (condition place ↔ condition' place)) :
    s.partAt condition = s.partAt condition' := by
  have hchars : charsAt condition s.chars = charsAt condition' s.chars := by
    refine congrArg (List.map Prod.fst) (List.filter_congr ?_)
    rintro ⟨c, place⟩ hmem
    obtain ⟨hlow, hhigh⟩ := place_of_mem hmem
    exact decide_eq_decide.mpr (h place hlow hhigh)
  rw [partAt, hchars, partAt]

/-- **THE CHARACTERS BETWEEN TWO PLACES ARE A SLICE** of the text. -/
theorem charsAt_between (first last : Int) (chars : List Char) :
    charsAt (fun place => first ≤ place ∧ place < last) chars =
      (chars.take (last - 1).toNat).drop (first - 1).toNat := by
  have hfrom : ∀ k : Nat,
      ((chars.zipIdx k).filter fun (_, place) => decide (first ≤ place ∧ (place : Int) < last)).map
        Prod.fst = (chars.take (last - k).toNat).drop (first - k).toNat := by
    induction chars with
    | nil => exact fun k => by rw [List.take_nil, List.drop_nil]; rfl
    | cons c rest ih =>
        intro k
        have hrest := ih (k + 1)
        rw [List.zipIdx_cons, List.filter_cons]
        by_cases hlast : (k : Int) < last
        · obtain ⟨n, hn⟩ : ∃ n, (last - k).toNat = n + 1 := ⟨(last - k).toNat - 1, by omega⟩
          rw [show (last - (k + 1 : Nat)).toNat = n by omega] at hrest
          rw [hn, List.take_succ_cons]
          by_cases hfirst : first ≤ k
          · rw [show (first - (k + 1 : Nat)).toNat = 0 by omega, List.drop_zero] at hrest
            rw [show (first - k).toNat = 0 by omega, if_pos (decide_eq_true ⟨hfirst, hlast⟩),
              List.map_cons, hrest, List.drop_zero]
          · obtain ⟨m, hm⟩ : ∃ m, (first - k).toNat = m + 1 := ⟨(first - k).toNat - 1, by omega⟩
            rw [show (first - (k + 1 : Nat)).toNat = m by omega] at hrest
            rw [hm, List.drop_succ_cons, if_neg (by simp [hfirst]), hrest]
        · rw [show (last - (k + 1 : Nat)).toNat = 0 by omega, List.take_zero,
            List.drop_nil] at hrest
          rw [show (last - k).toNat = 0 by omega, List.take_zero, List.drop_nil,
            if_neg (by simp [hlast]), hrest]
  exact hfrom 1

section Comparison

variable {place : Nat} {position : Double} {q : Rat}

theorem place_hasValue (h : place < 2 ^ 46) :
    (Binary.ofInt place : Double).HasValue (place : Int) :=
  Binary.hasValue_ofFraction_one false (lt_trans h (by decide : 2 ^ 46 < 2 ^ 53))

/-- Places are compared with positions exactly. -/
theorem notBefore_eq (hplace : place < 2 ^ 46) (h : position.HasValue q) :
    notBefore place position = decide (q ≤ place) := by
  rw [notBefore, Binary.compare?_hasValue (place_hasValue hplace) h, Option.any_some,
    Bool.eq_iff_iff, Ordering.isGE_iff_ne_lt, ← ne_eq, compare_ge_iff_ge, decide_eq_true_iff]
  rfl

theorem isBefore_eq (hplace : place < 2 ^ 46) (h : position.HasValue q) :
    isBefore place position = decide ((place : Rat) < q) := by
  rw [isBefore, Binary.compare?_hasValue (place_hasValue hplace) h, Option.any_some,
    Bool.eq_iff_iff, Ordering.isLT_iff_eq_lt, compare_lt_iff_lt, decide_eq_true_iff]
  rfl

end Comparison

/-- The sum of two whole numbers is rounded, but no place is passed over by that. -/
theorem lt_rounds_iff {n : Int} {y : Rat} (h : Rounds n y) {place : Nat} (hplace : place < 2 ^ 46) :
    (place : Rat) < y ↔ (place : Int) < n := by
  by_cases hsmall : |n| < 2 ^ 53
  · rw [h.exact (Binary.isDouble_intCast (by exact_mod_cast hsmall))]
    exact_mod_cast Iff.rfl
  · have hclose := abs_le.mp h.close
    have hplace' : (place : Rat) < 2 ^ 46 := by exact_mod_cast hplace
    rcases le_abs.mp (not_lt.mp hsmall) with hpos | hneg
    · have hn : (2 ^ 53 : Rat) ≤ n := by exact_mod_cast hpos
      rw [abs_of_nonneg (by linarith)] at hclose
      refine iff_of_true ?_ ?_
      · linarith [hclose.1]
      · omega
    · have hn : (n : Rat) ≤ -2 ^ 53 := by
        have hcast : (2 ^ 53 : Rat) ≤ -n := by exact_mod_cast hneg
        linarith
      rw [abs_of_nonpos (by linarith)] at hclose
      refine iff_of_false ?_ ?_
      · rw [not_lt]
        have : (0 : Rat) ≤ place := Nat.cast_nonneg place
        linarith [hclose.2]
      · omega

/-! ## Operands -/

section Operands

variable {s : StringValue}

/-- **A SUBSTRING STARTS AT A POSITION**. -/
theorem substringFrom_eq (hs : s.chars.length < 2 ^ 46) (start : ExactOperand) :
    ∃ first : Int, IsPosition start.value first ∧
      substringFrom s.toTerm start.term = .ok (s.partAt fun place => first ≤ place) := by
  obtain ⟨x, hx, hxvalue⟩ := start.numeric_term
  obtain ⟨first, hfirst, hposition⟩ := roundPosition_isPosition hxvalue
  refine ⟨first, hposition, ?_⟩
  have hselect : selectPlaces (roundPosition x) none s.chars =
      charsAt (fun place => first ≤ place) s.chars := by
    refine congrArg (List.map Prod.fst) (List.filter_congr ?_)
    rintro ⟨c, place⟩ hmem
    have hplace : place < 2 ^ 46 := (place_of_mem hmem).2.trans_lt hs
    show (notBefore place (roundPosition x) && true) = _
    rw [notBefore_eq hplace hfirst, Bool.and_true]
    exact decide_eq_decide.mpr (by exact_mod_cast Iff.rfl)
  rw [substringFrom, StringValue.string_toTerm, hx, StringValue.partAt, ← hselect]
  rfl

/-- **A SUBSTRING LIES BETWEEN TWO POSITIONS**. -/
theorem substringOf_eq (hs : s.chars.length < 2 ^ 46) (start length : ExactOperand) :
    ∃ first count : Int, IsPosition start.value first ∧ IsPosition length.value count ∧
      substringOf s.toTerm start.term length.term =
        .ok (s.partAt fun place => first ≤ place ∧ place < first + count) := by
  obtain ⟨x, hx, hxvalue⟩ := start.numeric_term
  obtain ⟨y, hy, hyvalue⟩ := length.numeric_term
  obtain ⟨first, hfirst, hposition⟩ := roundPosition_isPosition hxvalue
  obtain ⟨count, hcount, hposition'⟩ := roundPosition_isPosition hyvalue
  refine ⟨first, count, hposition, hposition', ?_⟩
  have hsize : |(first + count : Rat)| < 2 ^ 200 := by
    calc |(first + count : Rat)| ≤ |(first : Rat)| + |(count : Rat)| := abs_add_le _ _
      _ ≤ 2 ^ 129 + 2 ^ 129 :=
          add_le_add (hposition.abs_le_two_pow start.holds.abs_le_two_pow)
            (hposition'.abs_le_two_pow length.holds.abs_le_two_pow)
      _ < 2 ^ 200 := by norm_num
  obtain ⟨finish, hfinish, hrounds⟩ := Binary.add_rounds hfirst hcount hsize
  rw [← Int.cast_add] at hrounds
  have hselect : selectPlaces (roundPosition x)
      (some ((roundPosition x).add (roundPosition y))) s.chars =
        charsAt (fun place => first ≤ place ∧ place < first + count) s.chars := by
    refine congrArg (List.map Prod.fst) (List.filter_congr ?_)
    rintro ⟨c, place⟩ hmem
    have hplace : place < 2 ^ 46 := (place_of_mem hmem).2.trans_lt hs
    show (notBefore place (roundPosition x) &&
      isBefore place ((roundPosition x).add (roundPosition y))) = _
    rw [notBefore_eq hplace hfirst, isBefore_eq hplace hfinish, ← Bool.decide_and]
    exact decide_eq_decide.mpr
      (and_congr (by exact_mod_cast Iff.rfl) (lt_rounds_iff hrounds hplace))
  rw [substringOf, StringValue.string_toTerm, hx, hy, StringValue.partAt, ← hselect]
  rfl

/-- **NO POSITION OF A SUBSTRING IS MISSED BY MORE THAN ONE**, for all numbers but the largest. -/
theorem substring_misses_by_one (hs : s.chars.length < 2 ^ 46) {start length : ExactOperand}
    (hstart : |start.value| < 2 ^ 47) (hlength : |length.value| < 2 ^ 47) :
    ∃ first count : Int, |first - ⌊start.value + 1 / 2⌋| ≤ 1 ∧
      |count - ⌊length.value + 1 / 2⌋| ≤ 1 ∧
      substringOf s.toTerm start.term length.term =
        .ok (s.partAt fun place => first ≤ place ∧ place < first + count) := by
  obtain ⟨first, count, hfirst, hcount, hrun⟩ := substringOf_eq hs start length
  exact ⟨first, count, hfirst.within_one hstart, hcount.within_one hlength, hrun⟩

variable {start length : ExactOperand}

theorem substringFrom_exact (hs : s.chars.length < 2 ^ 46) (hstart : TellsTies start.value) :
    substringFrom s.toTerm start.term =
      .ok (s.partAt fun place => ⌊start.value + 1 / 2⌋ ≤ place) := by
  obtain ⟨first, hfirst, hrun⟩ := substringFrom_eq hs start
  have hagree := hfirst.agrees hstart
  refine hrun.trans (congrArg Except.ok (StringValue.partAt_congr fun place hlow hhigh => ?_))
  unfold Agree at hagree
  omega

/-- A start far before the text and a length far behind it have a sum that may be rounded; every
other pair is exact. -/
theorem substringOf_exact (hs : s.chars.length < 2 ^ 46) (hstart : TellsTies start.value)
    (hlength : TellsTies length.value) (hopposed : -2 ^ 46 ≤ start.value ∨ length.value ≤ 2 ^ 46) :
    substringOf s.toTerm start.term length.term =
      .ok (s.partAt fun place => ⌊start.value + 1 / 2⌋ ≤ place ∧
        place < ⌊start.value + 1 / 2⌋ + ⌊length.value + 1 / 2⌋) := by
  obtain ⟨first, count, hfirst, hcount, hrun⟩ := substringOf_eq hs start length
  have hagree := hfirst.agrees hstart
  have hagree' := hcount.agrees hlength
  have hroom : -2 ^ 46 ≤ ⌊start.value + 1 / 2⌋ ∨ ⌊length.value + 1 / 2⌋ ≤ 2 ^ 46 := by
    refine hopposed.imp (fun h => Int.le_floor.mpr ?_) fun h => Int.floor_le_iff.mpr ?_
    · push_cast
      linarith
    · push_cast
      linarith
  refine hrun.trans (congrArg Except.ok (StringValue.partAt_congr fun place hlow hhigh => ?_))
  unfold Agree at hagree hagree'
  omega

/-- **WHOLE NUMBERS CUT OUT A SLICE**: one of the given length that starts at the given place. -/
theorem substringOf_integers {m n : Int} (hs : s.chars.length < 2 ^ 46) (hstart : start.value = m)
    (hlength : length.value = n) (hopposed : -2 ^ 46 ≤ m ∨ n ≤ 2 ^ 46) :
    substringOf s.toTerm start.term length.term =
      .ok (s.withChars ((s.chars.take (m + n - 1).toNat).drop (m - 1).toNat)).toTerm := by
  have hfloor : ∀ k : Int, ⌊(k : Rat) + 1 / 2⌋ = k := fun k => by
    rw [Int.floor_intCast_add]
    norm_num
  have hexact := substringOf_exact hs (hstart ▸ tellsTies_intCast m) (hlength ▸ tellsTies_intCast n)
    (by rw [hstart, hlength]; exact_mod_cast hopposed)
  rw [hexact, hstart, hlength, hfloor, hfloor, StringValue.partAt, charsAt_between]

/-- **SUBSTRINGS HOLD THE PLACES OF THE EXACT LAW**, for numbers that double precision tells from
the ties between whole numbers, unless a start far before the text and a length far behind it are
added. -/
theorem substring_holds_exact_places (hs : s.chars.length < 2 ^ 46)
    (hstart : TellsTies start.value) :
    substringFrom s.toTerm start.term =
        .ok (s.partAt fun place => ⌊start.value + 1 / 2⌋ ≤ place) ∧
      ∀ length : ExactOperand, TellsTies length.value →
        -2 ^ 46 ≤ start.value ∨ length.value ≤ 2 ^ 46 →
          substringOf s.toTerm start.term length.term =
            .ok (s.partAt fun place => ⌊start.value + 1 / 2⌋ ≤ place ∧
              place < ⌊start.value + 1 / 2⌋ + ⌊length.value + 1 / 2⌋) :=
  ⟨substringFrom_exact hs hstart, fun _ => substringOf_exact hs hstart⟩

/-- The substring of length 2.6 from place 1.5 on has three characters, from the second one on. -/
theorem substring_holds_exact_places_between_ties :
    ∃ start length : ExactOperand, start.value = 3 / 2 ∧ length.value = 13 / 5 ∧
      substringOf (StringValue.toTerm ⟨"12345", some "en"⟩) start.term length.term =
        .ok (StringValue.toTerm ⟨"234", some "en"⟩) := by
  let start := ExactOperand.ofNumber (.decimal ⟨1500000000000000000, by decide, by decide⟩)
  let length := ExactOperand.ofNumber (.decimal ⟨2600000000000000000, by decide, by decide⟩)
  have hstart : start.value = 3 / 2 := by
    show ((1500000000000000000 : Int) : Rat) / 10 ^ 18 = 3 / 2
    norm_num
  have hlength : length.value = 13 / 5 := by
    show ((2600000000000000000 : Int) : Rat) / 10 ^ 18 = 13 / 5
    norm_num
  have htells : TellsTies (3 / 2) := by
    have h := tellsTies_of_digits (by decide : |(15 : Int)| + 10 ^ 1 ≤ 2 ^ 48)
    norm_num at h
    exact h
  have htells' : TellsTies (13 / 5) := by
    have h := tellsTies_of_digits (by decide : |(26 : Int)| + 10 ^ 1 ≤ 2 ^ 48)
    norm_num at h
    exact h
  have hs : (StringValue.chars ⟨"12345", some "en"⟩).length < 2 ^ 46 := by decide
  have hrun := (substring_holds_exact_places hs (hstart ▸ htells)).2 length (hlength ▸ htells')
    (Or.inl (by rw [hstart]; norm_num))
  refine ⟨start, length, hstart, hlength, hrun.trans ?_⟩
  have hfirst : ⌊(3 / 2 : Rat) + 1 / 2⌋ = 2 := by norm_num
  have hcount : ⌊(13 / 5 : Rat) + 1 / 2⌋ = 3 := by
    rw [Int.floor_eq_iff]
    norm_num
  rw [hstart, hlength, hfirst, hcount]
  rfl

end Operands

/-- The sum of one half and the greatest double below it is rounded up, so the exact law fails. -/
theorem substring_starts_too_late :
    ¬ ∀ (s : StringValue) (start length : ExactOperand),
      substringOf s.toTerm start.term length.term =
        .ok (s.partAt fun place => ⌊start.value + 1 / 2⌋ ≤ place ∧
          place < ⌊start.value + 1 / 2⌋ + ⌊length.value + 1 / 2⌋) := by
  intro hlaw
  let s : StringValue := ⟨"12345", none⟩
  let start := ExactOperand.ofNumber (.decimal ⟨499999999999999940, by decide, by decide⟩)
  let length := ExactOperand.ofNumber (.integer ⟨1, by decide, by decide⟩)
  have hrun : substringOf s.toTerm start.term length.term =
      .ok (StringValue.toTerm ⟨"1", none⟩) := by
    decide +kernel
  have hfirst : ⌊start.value + 1 / 2⌋ = 0 := by
    show ⌊((499999999999999940 : Int) : Rat) / 10 ^ 18 + 1 / 2⌋ = 0
    rw [Int.floor_eq_iff]
    norm_num
  have hcount : ⌊length.value + 1 / 2⌋ = 1 := by
    show ⌊((1 : Int) : Rat) + 1 / 2⌋ = 1
    rw [Int.floor_eq_iff]
    norm_num
  have hexact := hrun.symm.trans (hlaw s start length)
  rw [hfirst, hcount] at hexact
  exact absurd hexact (by decide)

end SparqlScalar
