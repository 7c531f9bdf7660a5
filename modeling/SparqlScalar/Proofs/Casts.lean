import SparqlScalar.Operator.Cast
import SparqlScalar.Proofs.ExactOperands

/-!
# Casts go through literals

    A cast has three parts: the source, which is a literal or nothing that can be cast, the value
    that it is converted to, and the term that this value is written as.  All targets but strings
    share the first and the last, so what is proved of casts is proved of sources and conversions:

      sources      -- a literal of a datatype is its own source, unless its datatype is refused, and
                      one with a tag is cast as its text (`CastTarget.source_typed`,
                      `CastTarget.source_ofString`)
      conversions  -- a cast writes the value that its source is converted to, which is a literal of
                      the target (`CastTarget.apply_eq`, `CastTarget.written_of_convert`)
-/

namespace SparqlScalar

namespace CastTarget

variable {target : CastTarget}

/-! ## Sources -/

/-- A literal without a tag is its own source unless its datatype has no values or is refused. -/
theorem source_untagged {l : Literal} (hlanguage : l.language? = none) (target : CastTarget) :
    target.source (.literal l) =
      match l.datatype? with
      | none => evaluationError (.castFromUnknownDatatype l.datatypeIri)
      | some d => if d = .dateTime ∧ target ≠ .dateTime then target.refuse l else .ok l := by
  unfold source
  simp only [hlanguage]
  cases l.datatype? with
  | none => rfl
  | some d =>
      cases d with
      | dateTime => by_cases h : target = .dateTime <;> simp [h]
      | _ => rfl

/-- A literal without a tag has no source but itself. -/
theorem source_eq_ok_iff {l source : Literal} (hlanguage : l.language? = none) :
    target.source (.literal l) = .ok source ↔
      source = l ∧ ∃ d, l.datatype? = some d ∧ (d = .dateTime → target = .dateTime) := by
  rw [source_untagged hlanguage]
  cases l.datatype? with
  | none => exact iff_of_false nofun fun ⟨_, _, hd, _⟩ => nomatch hd
  | some d =>
      show (if d = .dateTime ∧ target ≠ .dateTime then target.refuse l else .ok l) = _ ↔ _
      split
      case isTrue hrefused =>
        refine iff_of_false nofun ?_
        rintro ⟨-, e, he, hallowed⟩
        obtain rfl := Option.some.inj he
        exact hrefused.2 (hallowed hrefused.1)
      case isFalse hallowed =>
        constructor
        · intro h
          refine ⟨(Except.ok.inj h).symm, d, rfl, fun hdateTime => ?_⟩
          by_contra hother
          exact hallowed ⟨hdateTime, hother⟩
        · rintro ⟨rfl, -⟩
          rfl

/-- A literal of a datatype that is not refused is its own source. -/
theorem source_typed {l : Literal} {d : Datatype} (hdatatype : l.annotation = .datatype d.iri)
    (hallowed : d = .dateTime → target = .dateTime) : target.source (.literal l) = .ok l := by
  have hlanguage : l.language? = none := by rw [Literal.language?, hdatatype]
  exact (source_eq_ok_iff hlanguage).mpr ⟨rfl, d, Literal.datatype?_eq_some hdatatype, hallowed⟩

/-- A literal of the target is its own source. -/
theorem source_of_target {l : Literal} (h : l.annotation = .datatype target.iri) :
    target.source (.literal l) = .ok l := by
  refine source_typed h fun hdateTime => ?_
  cases target with
  | dateTime => rfl
  | _ => cases hdateTime

/-- A text is cast without its tag. -/
theorem source_ofString (target : CastTarget) (text : String) (tag : Option String) :
    target.source (.literal (Literal.ofString text tag)) = .ok (Literal.simple text) := by
  cases tag with
  | some tag => rfl
  | none => exact source_typed (d := .string) rfl nofun

/-! ## Conversions -/

/-- The value that a literal is cast to. -/
def convert (target : CastTarget) (l : Literal) : EvalResult Value :=
  match target with
  | .string => .ok (.simple l.lexical)
  | .dateTime => (toDateTime l).map .dateTime
  | .float =>
    (CastTarget.float.toNumber l (fun b => Binary.ofInt (if b then 1 else 0)) Binary.parse?
      fun n => some n.toSingle).map fun value => .numeric (.float value)
  | .double =>
    (CastTarget.double.toNumber l (fun b => Binary.ofInt (if b then 1 else 0)) Binary.parse?
      fun n => some n.toDouble).map fun value => .numeric (.double value)
  | .decimal => (toDecimal l).map fun value => .numeric (.decimal value)
  | .integer =>
    (CastTarget.integer.toNumber l Integer.ofBool Integer.parse? integerOf?).map
      fun value => .numeric (.integer value)
  | .boolean => (toBoolean l).map .boolean

/-- **CASTS GO THROUGH LITERALS**: a cast to anything but strings converts its source and writes the
value. -/
theorem apply_eq (h : target ≠ .string) (t : Term) :
    target.apply t = target.source t >>= fun l => (target.convert l).map Value.toTerm := by
  have hwritten : ∀ {α : Type} (r : EvalResult α) (embed : α → Value),
      (r >>= fun a => return (embed a).toTerm) = (r.map embed).map Value.toTerm := by
    intro α r embed
    cases r <;> rfl
  cases target with
  | string => exact absurd rfl h
  | boolean => exact bind_congr fun l => hwritten (toBoolean l) .boolean
  | _ => exact bind_congr fun l => hwritten _ _

theorem apply_of_source {t : Term} {l : Literal} (h : target ≠ .string)
    (hsource : target.source t = .ok l) :
    target.apply t = (target.convert l).map Value.toTerm := by
  rw [apply_eq h, hsource]
  rfl

theorem apply_eq_ok_iff {t y : Term} (h : target ≠ .string) :
    target.apply t = .ok y ↔
      ∃ l, target.source t = .ok l ∧ ∃ v, target.convert l = .ok v ∧ v.toTerm = y := by
  constructor
  · intro hcast
    rw [apply_eq h] at hcast
    obtain ⟨l, hsource, hconvert⟩ := EvalResult.exists_of_bind_eq_ok hcast
    exact ⟨l, hsource, EvalResult.map_eq_ok_iff.mp hconvert⟩
  · rintro ⟨l, hsource, hconvert⟩
    rw [apply_of_source h hsource]
    exact EvalResult.map_eq_ok_iff.mpr hconvert

/-- What a literal is cast to is written as a literal of the target. -/
theorem written_of_convert {l : Literal} {v : Value} (h : target.convert l = .ok v) :
    ∃ written, v.toTerm = .literal written ∧ written.annotation = .datatype target.iri := by
  cases target with
  | string =>
      obtain rfl := Except.ok.inj h
      exact ⟨_, rfl, rfl⟩
  | _ =>
      obtain ⟨a, -, rfl⟩ := EvalResult.map_eq_ok_iff.mp h
      exact ⟨_, rfl, rfl⟩

/-- No literal is cast to one that stands for itself. -/
theorem convert_ne_other (target : CastTarget) (l m : Literal) :
    target.convert l ≠ .ok (.other m) := by
  intro h
  cases target with
  | string => cases h
  | _ =>
      obtain ⟨a, -, hother⟩ := EvalResult.map_eq_ok_iff.mp h
      cases hother

end CastTarget

end SparqlScalar
