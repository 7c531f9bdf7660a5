import Mathlib.Data.List.TakeWhile
import SparqlScalar.Calendar.Duration
import SparqlScalar.Proofs.ProductChains

/-!
# What the text of a duration tells of it

    A duration is read part by part, and which parts there are is seen from where the letter `T`
    stands:

      numbers  -- a number without a point is whole, and is multiplied exactly
                  (`Decimal.scale_dvd_of_parse?`, `Decimal.mul?_ofInt?`)
      parts    -- a part adds to the months or to the seconds, and leaves the other alone
                  (`Parts.addMonths?_seconds`, `Parts.addSeconds?_units`)
      texts    -- a text is split at the letter `T` into parts of days and parts of the clock
                  (`exists_fields_of_readParts?`)
      values   -- durations of all kinds have the months and seconds of their parts (`HasParts`)
      letters  -- so without the letter the seconds are whole days (`HasParts.wholeDays`), and with
                  nothing before the letter there are no months (`HasParts.months_eq_zero`)
-/

namespace SparqlScalar

/-! ## Numbers -/

namespace Decimal

/-- A number without a point is whole. -/
theorem scale_dvd_of_parse? {text : List Char} {a : Decimal} (h : parse? text = some a)
    (hpoint : '.' ∉ text) : (scale : Int) ∣ a.units := by
  obtain ⟨n, rfl, hvalue⟩ := parse?_eq_some_iff.mp h
  cases hplaces : n.places with
  | some cs =>
      refine absurd ?_ hpoint
      unfold Numeral.text Numeral.body
      rw [hplaces]
      simp [Numeral.pointed]
  | none =>
      have hwhole : n.value = (Digits.signed n.sign.isMinus (Digits.value n.whole) : Rat) := by
        unfold Numeral.value Numeral.fraction
        rw [hplaces, Option.getD_none, List.append_nil, List.length_nil, pow_zero, div_one]
      have hunits : a.units = Digits.signed n.sign.isMinus (Digits.value n.whole) * 10 ^ 18 := by
        rw [hwhole, toRat, eq_div_iff (by norm_num)] at hvalue
        exact_mod_cast hvalue.symm
      rw [hunits]
      exact Dvd.intro_left _ rfl

/-- The product with a whole number is exact. -/
theorem mul?_ofInt? {a b c : Decimal} {n : Int} (hb : ofInt? n = some b)
    (h : a.mul? b = some c) : c.units = a.units * n := by
  have hunits : a.units * b.units = a.units * n * 10 ^ 18 := by
    rw [ofUnits?_eq_some_iff.mp hb, intCast_scale]
    ring
  rw [mul?_eq, hunits, if_pos (Dvd.intro_left _ rfl), Int.mul_ediv_cancel _ (by norm_num)] at h
  exact ofUnits?_eq_some_iff.mp h

end Decimal

namespace Duration

/-! ## Parts -/

/-- The months read so far. -/
def Parts.monthCount (p : Parts) : Int := (p.months.getD Integer.zero).toInt

/-- The units of time read so far. -/
def Parts.units (p : Parts) : Int := (p.seconds.getD Decimal.zero).units

section Parts

variable {p q : Parts} {negative : Bool} {number : List Char} {unit : Int}

theorem Parts.addMonths?_seconds (h : p.addMonths? negative number unit = some q) :
    q.seconds = p.seconds := by
  unfold addMonths? at h
  obtain ⟨count, -, h⟩ := Option.bind_eq_some_iff.mp h
  obtain ⟨months, -, h⟩ := Option.bind_eq_some_iff.mp h
  obtain ⟨total, -, h⟩ := Option.bind_eq_some_iff.mp h
  obtain rfl := Option.some.inj h
  rfl

/-- The steps in which seconds are added. -/
theorem Parts.addSeconds?_eq (p : Parts) (negative : Bool) (number : List Char) (unit : Int) :
    p.addSeconds? negative number unit =
      (Decimal.parse? number).bind fun count =>
        (if negative then count.neg? else some count).bind fun signed =>
          (Decimal.ofInt? unit).bind fun factor =>
            (signed.mul? factor).bind fun seconds =>
              ((p.seconds.getD Decimal.zero).add? seconds).bind fun total =>
                some { p with seconds := some total } := by
  cases negative <;> rfl

/-- Seconds are added exactly. -/
theorem Parts.addSeconds?_units (h : p.addSeconds? negative number unit = some q) :
    q.months = p.months ∧ ∃ count : Decimal, Decimal.parse? number = some count ∧
      q.units = p.units + (if negative then -count.units else count.units) * unit := by
  rw [addSeconds?_eq] at h
  obtain ⟨count, hcount, h⟩ := Option.bind_eq_some_iff.mp h
  obtain ⟨signed, hsigned, h⟩ := Option.bind_eq_some_iff.mp h
  obtain ⟨factor, hfactor, h⟩ := Option.bind_eq_some_iff.mp h
  obtain ⟨seconds, hseconds, h⟩ := Option.bind_eq_some_iff.mp h
  obtain ⟨total, htotal, h⟩ := Option.bind_eq_some_iff.mp h
  obtain rfl := Option.some.inj h
  have hsignedUnits : signed.units = if negative then -count.units else count.units := by
    cases negative with
    | true => exact Decimal.ofUnits?_eq_some_iff.mp hsigned
    | false =>
        obtain rfl := Option.some.inj hsigned
        rfl
  refine ⟨rfl, count, hcount, ?_⟩
  rw [← hsignedUnits, ← Decimal.mul?_ofInt? hfactor hseconds]
  exact Decimal.ofUnits?_eq_some_iff.mp htotal

end Parts

/-! ## Texts -/

variable {text : List Char} {parts : Parts}

/-- What is read with designators are fields of these. -/
theorem mem_of_readFields? {designators : List (Char × Field)} {fields : List (Field × List Char)}
    (h : readFields? designators text = some fields) :
    ∀ f ∈ fields, f.1 ∈ designators.map Prod.snd := by
  induction designators generalizing text fields with
  | nil =>
      unfold readFields? at h
      split at h
      · obtain rfl := Option.some.inj h
        intro f hf
        exact absurd hf List.not_mem_nil
      · cases h
  | cons designator later ih =>
      obtain ⟨letter, field⟩ := designator
      unfold readFields? at h
      split at h
      · obtain rfl := Option.some.inj h
        intro f hf
        exact absurd hf List.not_mem_nil
      · split at h
        · split at h
          · -- the field is there
            obtain ⟨rest, hrest, rfl⟩ := Option.map_eq_some_iff.mp h
            intro f hf
            rcases List.mem_cons.mp hf with rfl | hf
            · exact List.mem_cons_self
            · exact List.mem_cons_of_mem _ (ih hrest f hf)
          · intro f hf
            exact List.mem_cons_of_mem _ (ih h f hf)
        · cases h

/-- A text with parts is an opening, parts of days and parts of the clock, divided by the letter
`T`. -/
theorem exists_fields_of_readParts? (h : readParts? text = some parts) :
    ∃ negative body days clock, text = opening negative ++ body ∧
      readFields? dayFields (body.takeWhile (· ≠ 'T')) = some days ∧
      readFields? clockFields ((body.dropWhile (· ≠ 'T')).drop 1) = some clock ∧
      (days ++ clock).foldlM (Parts.addField? negative) ⟨none, none⟩ = some parts := by
  unfold readParts? at h
  split at h
  rename_i negative signless hsign
  dsimp only at h
  split at h
  · rename_i body
    obtain ⟨body', hbody, h⟩ := Option.bind_eq_some_iff.mp h
    obtain rfl : body = body' := Option.some.inj hbody
    obtain ⟨days, hdays, h⟩ := Option.bind_eq_some_iff.mp h
    obtain ⟨clock, hclock, h⟩ := Option.bind_eq_some_iff.mp h
    have htext : text = opening negative ++ body := by
      split at hsign
      · cases hsign
        rfl
      · cases hsign
        rfl
    split at h
    · cases h
    · exact ⟨negative, body, days, clock, htext, hdays, hclock, h⟩
  · cases h

/-- What every part of a text keeps, its parts keep together. -/
theorem keeps_of_foldlM {P : Parts → Prop} {negative : Bool} {fields : List (Field × List Char)}
    {p q : Parts}
    (hstep : ∀ p q f, f ∈ fields → p.addField? negative f = some q → P p → P q)
    (h : fields.foldlM (Parts.addField? negative) p = some q) (hp : P p) : P q := by
  induction fields generalizing p with
  | nil =>
      obtain rfl := Option.some.inj h
      exact hp
  | cons f rest ih =>
      obtain ⟨middle, hmiddle, hrest⟩ := Option.bind_eq_some_iff.mp h
      refine ih ?_ hrest (hstep p middle f List.mem_cons_self hmiddle hp)
      intro p q f hf
      exact hstep p q f (List.mem_cons_of_mem _ hf)

/-! ## Values -/

theorem of_ofParts? {months : Integer} {seconds : Decimal} {d : Duration}
    (h : ofParts? months seconds = some d) : d.months = months ∧ d.seconds = seconds := by
  unfold ofParts? at h
  split at h
  · obtain rfl := Option.some.inj h
    exact ⟨rfl, rfl⟩
  · cases h

/-- A duration has the months and the seconds of the parts of a text. -/
def HasParts (d : Duration) (text : List Char) : Prop :=
  ∃ parts, readParts? text = some parts ∧ d.months.toInt = parts.monthCount ∧
    d.seconds.units = parts.units

theorem hasParts_of_parse? {d : Duration} (h : parse? text = some d) : d.HasParts text := by
  obtain ⟨parts, hparts, hd⟩ := Option.bind_eq_some_iff.mp h
  obtain ⟨hmonths, hseconds⟩ := of_ofParts? hd
  exact ⟨parts, hparts, congrArg Integer.toInt hmonths, congrArg Decimal.units hseconds⟩

theorem hasParts_of_yearMonth {d : YearMonthDuration}
    (h : YearMonthDuration.parse? text = some d) : d.toDuration.HasParts text := by
  obtain ⟨parts, hparts, hd⟩ := Option.bind_eq_some_iff.mp h
  split at hd
  · cases hd
  · rename_i hnone
    obtain ⟨months, hmonths, rfl⟩ := Option.map_eq_some_iff.mp hd
    refine ⟨parts, hparts, ?_, ?_⟩
    · unfold Parts.monthCount
      rw [hmonths]
      rfl
    · unfold Parts.units
      rw [Option.not_isSome_iff_eq_none.mp hnone]
      rfl

theorem hasParts_of_dayTime {d : DayTimeDuration}
    (h : DayTimeDuration.parse? text = some d) : d.toDuration.HasParts text := by
  obtain ⟨parts, hparts, hd⟩ := Option.bind_eq_some_iff.mp h
  split at hd
  · cases hd
  · rename_i hnone
    obtain ⟨seconds, hseconds, rfl⟩ := Option.map_eq_some_iff.mp hd
    refine ⟨parts, hparts, ?_, ?_⟩
    · unfold Parts.monthCount
      rw [Option.not_isSome_iff_eq_none.mp hnone]
      rfl
    · unfold Parts.units
      rw [hseconds]
      rfl

/-! ## Letters -/

/-- A part of days leaves the seconds whole days. -/
theorem wholeDays_of_addField? {p q : Parts} {negative : Bool} {f : Field × List Char}
    (hf : f.1 ∈ dayFields.map Prod.snd) (h : p.addField? negative f = some q)
    (hp : Instant.unitsPerDay ∣ p.units) : Instant.unitsPerDay ∣ q.units := by
  obtain ⟨field, number⟩ := f
  cases field with
  | years | months =>
      unfold Parts.units
      rw [Parts.addMonths?_seconds h]
      exact hp
  | days =>
      unfold Parts.addField? at h
      dsimp only at h
      split at h
      · cases h
      · rename_i hpoint
        obtain ⟨-, count, hcount, hunits⟩ := Parts.addSeconds?_units h
        have hwhole : (Decimal.scale : Int) ∣ if negative then -count.units else count.units := by
          have hdvd := Decimal.scale_dvd_of_parse? hcount (by simpa using hpoint)
          split
          · exact Int.dvd_neg.mpr hdvd
          · exact hdvd
        rw [hunits]
        refine Int.dvd_add hp ?_
        unfold Instant.unitsPerDay
        rw [Int.mul_comm 86400]
        exact Int.mul_dvd_mul hwhole (Int.dvd_refl 86400)
  | hours | minutes | seconds => simp [dayFields] at hf

/-- **WITHOUT THE LETTER**: the seconds are whole days. -/
theorem HasParts.wholeDays {d : Duration} (h : d.HasParts text) (hletter : 'T' ∉ text) :
    Instant.unitsPerDay ∣ d.seconds.units := by
  obtain ⟨parts, hparts, -, hunits⟩ := h
  obtain ⟨negative, body, days, clock, htext, hdays, hclock, hfold⟩ :=
    exists_fields_of_readParts? hparts
  have hbody : ∀ c ∈ body, decide (c ≠ 'T') = true := by
    intro c hc
    refine decide_eq_true ?_
    rintro rfl
    rw [htext] at hletter
    exact hletter (List.mem_append_right _ hc)
  have hnone : clock = [] := by
    rw [List.dropWhile_eq_nil_iff.mpr hbody] at hclock
    exact (Option.some.inj hclock).symm
  rw [hnone, List.append_nil] at hfold
  rw [hunits]
  refine keeps_of_foldlM (P := fun p => Instant.unitsPerDay ∣ p.units) ?_ hfold (Int.dvd_zero _)
  intro p q f hf
  exact wholeDays_of_addField? (mem_of_readFields? hdays f hf)

/-- A part of the clock leaves the months alone. -/
theorem months_of_addField? {p q : Parts} {negative : Bool} {f : Field × List Char}
    (hf : f.1 ∈ clockFields.map Prod.snd) (h : p.addField? negative f = some q) :
    q.months = p.months := by
  obtain ⟨field, number⟩ := f
  cases field with
  | seconds => exact (Parts.addSeconds?_units h).1
  | hours | minutes =>
      unfold Parts.addField? at h
      dsimp only at h
      split at h
      · cases h
      · exact (Parts.addSeconds?_units h).1
  | years | months | days => simp [clockFields] at hf

/-- **NOTHING BEFORE THE LETTER**: there are no months. -/
theorem HasParts.months_eq_zero {d : Duration} (negative : Bool) {rest : List Char}
    (h : d.HasParts (opening negative ++ 'T' :: rest)) : d.months.toInt = 0 := by
  obtain ⟨parts, hparts, hmonths, -⟩ := h
  obtain ⟨negative', body, days, clock, htext, hdays, hclock, hfold⟩ :=
    exists_fields_of_readParts? hparts
  have hbody : body = 'T' :: rest := by
    cases negative <;> cases negative' <;> simp_all [opening]
  subst hbody
  have hnone : days = [] := (Option.some.inj hdays).symm
  rw [hnone, List.nil_append] at hfold
  have hmonthless : parts.months = none := by
    refine keeps_of_foldlM (P := fun p => p.months = none) ?_ hfold rfl
    intro p q f hf hstep hp
    rw [months_of_addField? (mem_of_readFields? hclock f hf) hstep]
    exact hp
  rw [hmonths]
  unfold Parts.monthCount
  rw [hmonthless]
  rfl

end Duration

end SparqlScalar
