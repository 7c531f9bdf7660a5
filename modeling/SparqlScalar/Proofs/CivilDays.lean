import Mathlib.Order.Monotone.Basic
import SparqlScalar.Calendar.Day

/-!
# Days and their numbers

    The days of the calendar are counted, and the name of a day is found again from its number:

      years   -- spans of four hundred, a hundred, four and single years are taken off, and the days
                 before the year and the day of the year make up the number
                 (`CivilDate.daysBeforeYear_yearAndDay`)
      months  -- the months of the year that have begun are counted, and the last of them has begun
                 (`daysBeforeMonth_monthOfDay_le`)
      days    -- so the day that a number names has this number (`CivilDate.number_ofNumber`)
-/

namespace SparqlScalar

/-! ## Years -/

namespace CivilDate

/-- The days before a year that lies in a span of four years of a century of an era. -/
theorem daysBeforeYear_parts {era : Int} {century span year : Nat} (hcentury : century ≤ 3)
    (hspan : span ≤ 24) (hyear : year ≤ 3) :
    daysBeforeYear (400 * era + 100 * century + 4 * span + year + 1) =
      146097 * era + 36524 * century + 1461 * span + 365 * year := by
  -- the leap years among the years before are those of the spans, less one for each century,
  -- and one more for each era
  have hspans : (400 * era + 100 * century + 4 * span + year) / 4 =
      100 * era + 25 * century + span := by omega
  have hcenturies : (400 * era + 100 * century + 4 * span + year) / 100 = 4 * era + century := by
    omega
  have heras : (400 * era + 100 * century + 4 * span + year) / 400 = era := by omega
  unfold daysBeforeYear
  dsimp only
  rw [Int.add_sub_cancel, hspans, hcenturies, heras]
  omega

/-- The year of a day and its place in the year make up its number. -/
theorem daysBeforeYear_yearAndDay (number : Int) :
    daysBeforeYear (yearAndDay number).1 + (yearAndDay number).2 = number := by
  unfold yearAndDay
  dsimp only
  generalize hday : (number % 146097).toNat = dayOfEra
  generalize hcentury : min (dayOfEra / 36524) 3 = century
  generalize hrest : dayOfEra - 36524 * century = dayOfCentury
  generalize hspan : dayOfCentury / 1461 = span
  generalize hlast : dayOfCentury - 1461 * span = dayOfSpan
  generalize hyear : min (dayOfSpan / 365) 3 = year
  have hcenturyLe : century ≤ 3 := by omega
  have hspanLe : span ≤ 24 := by omega
  have hyearLe : year ≤ 3 := by omega
  rw [daysBeforeYear_parts hcenturyLe hspanLe hyearLe]
  omega

end CivilDate

/-! ## Months -/

theorem daysBeforeMonth_mono (leap : Bool) : Monotone (daysBeforeMonth leap) := by
  refine monotone_nat_of_le_succ ?_
  intro month
  rcases month with _ | _ | _ | _ | _ | _ | _ | _ | _ | _ | _ | _ | month <;>
    cases leap <;> simp [daysBeforeMonth]

/-- Of things that start one after the other, counting on those that have started leads to one that
has. -/
theorem start_counted_le {start : Nat → Nat} (hstart : Monotone start) {day first : Nat}
    (h : start first ≤ day) (count : Nat) :
    start (first + (List.range' (first + 1) count).countP fun n => start n ≤ day) ≤ day := by
  induction count generalizing first with
  | zero => exact h
  | succ count ih =>
      rw [List.range'_succ, List.countP_cons]
      by_cases hnext : start (first + 1) ≤ day
      · rw [if_pos (decide_eq_true hnext), Nat.add_comm _ 1, ← Nat.add_assoc]
        exact ih hnext
      · -- nothing later has started either
        have hnone :
            (List.range' (first + 1 + 1) count).countP (fun n => start n ≤ day) = 0 := by
          refine List.countP_eq_zero.mpr ?_
          intro n hn hle
          have hlater : first + 1 ≤ n := by
            have := (List.mem_range'_1.mp hn).1
            omega
          exact hnext ((hstart hlater).trans (of_decide_eq_true hle))
        rw [hnone, if_neg (by simpa using hnext)]
        exact h

/-- The month of a day has begun. -/
theorem daysBeforeMonth_monthOfDay_le (leap : Bool) (dayOfYear : Nat) :
    daysBeforeMonth leap (monthOfDay leap dayOfYear) ≤ dayOfYear :=
  start_counted_le (daysBeforeMonth_mono leap)
    (Nat.zero_le dayOfYear : daysBeforeMonth leap 1 ≤ dayOfYear) 11

/-! ## Days -/

/-- **NUMBERS NAME DAYS**: the day named by a number has the number. -/
theorem CivilDate.number_ofNumber (number : Int) : (ofNumber number).number = number := by
  have hyear := daysBeforeYear_yearAndDay number
  unfold ofNumber
  generalize yearAndDay number = parts at hyear ⊢
  obtain ⟨year, dayOfYear⟩ := parts
  have hmonth := daysBeforeMonth_monthOfDay_le (isLeapYear year) dayOfYear
  dsimp only [CivilDate.number] at hyear ⊢
  omega

end SparqlScalar
