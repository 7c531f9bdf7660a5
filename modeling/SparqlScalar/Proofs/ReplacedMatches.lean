import SparqlScalar.Proofs.Occurrences
import SparqlScalar.Proofs.Replacements
import SparqlScalar.Proofs.Searches

/-!
# Replaced matches

    A text whose matches are replaced goes on from each match to the next one, until there is none.
    How it goes on is given here without a number of steps, and ties replacing to matching:

      matches  -- what is replaced are the matches one after the other (`Program.Rewrites`), and the
                  number of steps is enough, as an empty match is passed at most once at each place
                  (`rewrites_replaceAll`)
      texts    -- the text is put together again from what is left and what was matched
                  (`Rewrites.eq_self`), and is left as it is where nothing matches
                  (`Rewrites.eq_of_find?_none`)
      operands -- both functions compile the same pattern and fail with its error alone
                  (`StringValue.matchesWith_eq`, `StringValue.replaceWith_eq`)
-/

namespace SparqlScalar

/-! ## Matches -/

namespace Pattern.Program

variable {p : Program} {replacement : List Char → Match → List Char} {before : Option Char}
  {matched : Bool} {text out : List Char}

/-- What a text becomes, given the character before it and whether a match has just ended there: up
to the next match it is left as it is, the match is replaced, and so is the rest of the text. An
empty match right after another match does not count, and the character after it is left. -/
inductive Rewrites (p : Program) (replacement : List Char → Match → List Char) :
    Option Char → Bool → List Char → List Char → Prop where
  | unmatched {before : Option Char} {matched : Bool} {text : List Char}
      (h : p.find? before text = none) : Rewrites p replacement before matched text text
  | ended {before : Option Char} {m : Match} (h : p.find? before [] = some m)
      (hempty : m.stop = 0) : Rewrites p replacement before true [] []
  | passed {before : Option Char} {m : Match} {c : Char} {rest out : List Char}
      (h : p.find? before (c :: rest) = some m) (hempty : m.stop = 0)
      (later : Rewrites p replacement (some c) false rest out) :
      Rewrites p replacement before true (c :: rest) (c :: out)
  | replaced {before : Option Char} {matched : Bool} {m : Match} {text out : List Char}
      (h : p.find? before text = some m) (hcounts : ¬ (m.stop = 0 ∧ matched = true))
      (later : Rewrites p replacement ((text.take m.stop).getLast?.or before) true
        (text.drop m.stop) out) :
      Rewrites p replacement before matched text (text.take m.start ++ replacement text m ++ out)

/-- **THE STEPS ARE ENOUGH**: each step passes a character, or leaves an empty match behind that
does not count again. -/
theorem rewrites_replaceFrom {steps : Nat}
    (h : 2 * text.length + (if matched then 0 else 1) < steps) :
    p.Rewrites replacement before matched text
      (p.replaceFrom replacement steps before matched text) := by
  induction steps generalizing before matched text with
  | zero => exact absurd h (Nat.not_lt_zero _)
  | succ steps ih =>
      unfold replaceFrom
      cases hfind : p.find? before text with
      | none => exact .unmatched hfind
      | some m =>
          have hstop : m.stop ≤ text.length := stop_le_of_find? hfind
          dsimp only
          by_cases hpass : m.stop = 0 ∧ matched = true
          · rw [if_pos hpass]
            obtain ⟨hempty, rfl⟩ := hpass
            cases text with
            | nil => exact .ended hfind hempty
            | cons c rest =>
                refine .passed hfind hempty (ih ?_)
                rw [List.length_cons, if_pos rfl] at h
                rw [if_neg Bool.false_ne_true]
                omega
          · rw [if_neg hpass]
            refine .replaced hfind hpass (ih ?_)
            rw [List.length_drop, if_pos rfl]
            cases matched with
            | true =>
                have hpositive : m.stop ≠ 0 := fun hempty => hpass ⟨hempty, rfl⟩
                omega
            | false =>
                rw [if_neg Bool.false_ne_true] at h
                omega

theorem rewrites_replaceAll (p : Program) (replacement : List Char → Match → List Char)
    (text : List Char) :
    p.Rewrites replacement none false text (p.replaceAll replacement text) :=
  rewrites_replaceFrom (by rw [if_neg Bool.false_ne_true]; exact Nat.lt_succ_self _)

/-- **A TEXT IS PUT TOGETHER AGAIN** if each match takes its own place. -/
theorem Rewrites.eq_self
    (hsame : ∀ text m, replacement text m = (text.drop m.start).take m.width)
    (h : p.Rewrites replacement before matched text out) : out = text := by
  induction h with
  | unmatched _ => rfl
  | ended _ _ => rfl
  | passed _ _ _ ih => rw [ih]
  | @replaced _ _ m text _ _ _ _ ih =>
      rw [ih, hsame, ← List.take_add]
      exact List.take_append_drop m.stop text

/-- Without a match a text is left as it is. -/
theorem Rewrites.eq_of_find?_none (hnone : p.find? before text = none)
    (h : p.Rewrites replacement before matched text out) : out = text := by
  cases h with
  | unmatched _ => rfl
  | ended _ _ => rfl
  | passed h _ _ => cases hnone.symm.trans h
  | replaced h _ _ => cases hnone.symm.trans h

end Pattern.Program

/-- The group of number zero is the whole match. -/
theorem Pattern.Replacement.apply_whole_match (text : List Char) (m : Match) :
    apply "$0".toList text m = (text.drop m.start).take m.width := by
  have hreads : Reads "$0".toList [.group 0] :=
    .group (List.cons_ne_nil '0' []) (by decide) nofun .nil
  rw [apply, hreads.fill_template]
  exact List.append_nil _

/-! ## Operands -/

namespace StringValue

/-- Whether a pattern matches in a string, with flags or without. -/
def matchesWith (s : StringValue) (limit : Nat) (pattern : String) :
    Option String → EvalResult Term
  | none => matchesPattern limit s.toTerm (.simple pattern)
  | some flags => matchesFlaggedPattern limit s.toTerm (.simple pattern) (.simple flags)

/-- A string with all matches of a pattern replaced, with flags or without. -/
def replaceWith (s : StringValue) (limit : Nat) (pattern replacement : String) :
    Option String → EvalResult Term
  | none => replacePattern limit s.toTerm (.simple pattern) (.simple replacement)
  | some flags =>
      replaceFlaggedPattern limit s.toTerm (.simple pattern) (.simple replacement) (.simple flags)

variable (s : StringValue) (limit : Nat) (pattern replacement : String) (flags : Option String)

theorem matchesWith_eq :
    s.matchesWith limit pattern flags =
      (patternProgram limit pattern (flags.getD "")).map fun program =>
        Term.ofBool (program.isMatch s.chars) := by
  cases flags with
  | none =>
      show matchesPattern limit s.toTerm (.simple pattern) = _
      rw [matchesPattern, s.string_toTerm, Term.simpleText_simple]
      rfl
  | some flags =>
      show matchesFlaggedPattern limit s.toTerm (.simple pattern) (.simple flags) = _
      rw [matchesFlaggedPattern, s.string_toTerm, Term.simpleText_simple, Term.simpleText_simple]
      rfl

theorem replaceWith_eq :
    s.replaceWith limit pattern replacement flags =
      (patternProgram limit pattern (flags.getD "")).map fun program =>
        (s.replaceAll program replacement).toTerm := by
  cases flags with
  | none =>
      show replacePattern limit s.toTerm (.simple pattern) (.simple replacement) = _
      rw [replacePattern, s.string_toTerm, Term.simpleText_simple, Term.simpleText_simple]
      rfl
  | some flags =>
      show replaceFlaggedPattern limit s.toTerm (.simple pattern) (.simple replacement)
        (.simple flags) = _
      rw [replaceFlaggedPattern, s.string_toTerm, Term.simpleText_simple, Term.simpleText_simple,
        Term.simpleText_simple]
      rfl

/-- What a compiled pattern does to a string. -/
theorem rewrites_replaceAll (program : Pattern.Program) :
    ∃ out, s.replaceAll program replacement = s.withChars out ∧
      program.Rewrites (Pattern.Replacement.apply replacement.toList) none false s.chars out :=
  ⟨_, rfl, Pattern.Program.rewrites_replaceAll program _ s.chars⟩

/-- A string that keeps its characters stays the same. -/
theorem replaceAll_eq_self {s : StringValue} {program : Pattern.Program} {replacement : String}
    (h : ∀ out, program.Rewrites (Pattern.Replacement.apply replacement.toList) none false s.chars
      out → out = s.chars) : s.replaceAll program replacement = s := by
  obtain ⟨out, heq, hrewrites⟩ := s.rewrites_replaceAll replacement program
  obtain rfl := h out hrewrites
  rw [heq]
  exact congrArg (StringValue.mk · s.tag) String.ofList_toList

end StringValue

/-- **REPLACING AGREES WITH MATCHING**: under one limit, and with the same flags or none, both
functions fail for the same patterns with the same error.  A pattern that compiles matches exactly
where a way through its program reads a part of the text; what is replaced are its matches one after
the other; each match replaced by itself leaves the string as it is, and so does every replacement
where nothing matches. -/
theorem replacing_agrees_with_matching (s : StringValue) (limit : Nat) (pattern : String)
    (flags : Option String) :
    (∀ replacement e, s.replaceWith limit pattern replacement flags = .error e ↔
        s.matchesWith limit pattern flags = .error e) ∧
      (∀ a, s.matchesWith limit pattern flags = .ok a →
        s.replaceWith limit pattern "$0" flags = .ok s.toTerm) ∧
      (s.matchesWith limit pattern flags = .ok (.ofBool false) →
        ∀ replacement, s.replaceWith limit pattern replacement flags = .ok s.toTerm) ∧
      ∀ program, patternProgram limit pattern (flags.getD "") = .ok program →
        (s.matchesWith limit pattern flags = .ok (.ofBool true) ↔ ∃ skipped matched after,
            s.chars = skipped ++ matched ++ after ∧
              program.Reads after skipped.getLast? program.start matched) ∧
          ∀ replacement, ∃ out,
            s.replaceWith limit pattern replacement flags = .ok (s.withChars out).toTerm ∧
              program.Rewrites (Pattern.Replacement.apply replacement.toList) none false s.chars
                out := by
  simp only [StringValue.matchesWith_eq, StringValue.replaceWith_eq]
  cases patternProgram limit pattern (flags.getD "") with
  | error e =>
      exact ⟨fun _ e' => Iff.rfl, nofun, nofun, nofun⟩
  | ok program =>
      refine ⟨fun _ e' => iff_of_false nofun nofun, fun _ _ => ?_, fun hnone replacement => ?_, ?_⟩
      · have hself : s.replaceAll program "$0" = s := StringValue.replaceAll_eq_self fun out h =>
          h.eq_self Pattern.Replacement.apply_whole_match
        show Except.ok (s.replaceAll program "$0").toTerm = _
        rw [hself]
      · have hmatch : program.isMatch s.chars = false := by
          cases hmatch : program.isMatch s.chars with
          | false => rfl
          | true =>
              rw [Except.map, hmatch] at hnone
              exact absurd hnone (by decide)
        have hfind : program.find? none s.chars = none :=
          Option.isNone_iff_eq_none.mp (Option.isSome_eq_false_iff.mp hmatch)
        have hself : s.replaceAll program replacement = s :=
          StringValue.replaceAll_eq_self fun out h => h.eq_of_find?_none hfind
        show Except.ok (s.replaceAll program replacement).toTerm = _
        rw [hself]
      · rintro _ ⟨⟩
        refine ⟨?_, fun replacement => ?_⟩
        · rw [← Pattern.Program.isMatch_iff]
          show Except.ok (Term.ofBool (program.isMatch s.chars)) = _ ↔ _
          cases program.isMatch s.chars with
          | false => exact iff_of_false (by decide) Bool.false_ne_true
          | true => exact iff_of_true rfl rfl
        · obtain ⟨out, heq, hrewrites⟩ := s.rewrites_replaceAll replacement program
          refine ⟨out, ?_, hrewrites⟩
          show Except.ok (s.replaceAll program replacement).toTerm = _
          rw [heq]

end SparqlScalar
