import SparqlScalar.Text.Digits

/-!
# Time zones

A zone is an offset from universal time, in minutes, of at most fourteen hours. It is written `Z`
or as hours and minutes with a sign; a reader also takes hours and minutes without a sign.
-/

namespace SparqlScalar

/-- An offset from universal time of at most fourteen hours either way. -/
@[ext]
structure Zone where
  minutes : Int
  lower : -840 ≤ minutes
  upper : minutes ≤ 840
deriving DecidableEq

namespace Zone

/-- The zone of universal time. -/
def utc : Zone := ⟨0, by decide, by decide⟩

/-- The zone of an offset in the range. -/
def ofMinutes? (minutes : Int) : Option Zone :=
  if h : -840 ≤ minutes ∧ minutes ≤ 840 then some ⟨minutes, h.1, h.2⟩ else none

/-- The canonical text. -/
def text (z : Zone) : List Char :=
  if z.minutes = 0 then ['Z']
  else
    (if z.minutes < 0 then '-' else '+')
      :: Digits.padded 2 (z.minutes.natAbs / 60)
      ++ ':' :: Digits.padded 2 (z.minutes.natAbs % 60)

/-- Reads `Z`, or two digits for the hours and two for the minutes with or without a sign. -/
def parse? (text : List Char) : Option Zone :=
  if text = ['Z'] then some utc
  else
    let (negative, body) := Digits.splitSign text
    match body with
    | [h₁, h₂, ':', m₁, m₂] =>
      if [h₁, h₂, m₁, m₂].all Char.isDigit then
        let hours := Digits.value [h₁, h₂]
        let minutes := Digits.value [m₁, m₂]
        if minutes ≤ 59 then ofMinutes? (Digits.signed negative (60 * hours + minutes)) else none
      else none
    | _ => none

end Zone

end SparqlScalar
