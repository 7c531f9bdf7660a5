import SparqlScalar.Proofs.EscapedPatterns
import SparqlScalar.Proofs.ReplacedMatches

/-!
# Patterns that are literals

    Under the letter `q` a pattern stands for its own text.  It matches where that text occurs, but
    for the blanks that the letter `x` takes out of it:

      expressions -- a literal is one text, whatever the other flags but case (`ofTree?_ofLiteral`)
      programs    -- the program of a text reads the text and nothing else (`reads_ofText`)
      searching   -- so it matches where a search for the text finds it (`isMatch_ofText`)
      flags       -- it is the pattern of the escaped text under the other flags
                     (`ofPattern?_escape`)
-/

namespace SparqlScalar

namespace Pattern

/-! ## Expressions -/

/-- The expression for a text. -/
def Regex.ofText : List Char → Regex
  | [] => .empty
  | chars => .text chars

namespace Regex

variable {scope : Scope}

/-- The flags take each character as it is. -/
structure TakesLiterally (flags : Flags) : Prop where
  unicode : flags.contains .unicode = true
  ignoreCase : flags.contains .ignoreCase = false

theorem ofTree?_char (h : TakesLiterally scope.flags) (c : Char) :
    ofTree? (.char ⟨c, false⟩) scope = some (.text [c], scope) := by
  have hset : scope.flags.charSet? ⟨c, false⟩ = some (.single c) := by
    rw [Flags.charSet?, if_pos h.unicode, h.ignoreCase, if_neg Bool.false_ne_true]
  have honly : (CharSet.single c).only? = some c := by
    show (if c.toNat = c.toNat then some (Char.ofNat c.toNat) else none) = some c
    rw [if_pos rfl, Char.ofNat_toNat]
  rw [ofTree?, hset, Option.map_some, ofSet, honly]

theorem ofTrees?_chars (h : TakesLiterally scope.flags) (chars : List Char) :
    ofTrees? (chars.map fun c => .char ⟨c, false⟩) scope =
      some (chars.map fun c => .text [c], scope) := by
  induction chars with
  | nil => rw [List.map_nil, ofTrees?, List.map_nil]
  | cons c rest ih =>
      rw [List.map_cons, ofTrees?, ofTree?_char h, List.map_cons]
      show (ofTrees? _ scope >>= _) = _
      rw [ih]
      rfl

/-- Characters one after the other are joined to one text. -/
theorem sequence_chars (chars : List Char) :
    sequence (chars.map fun c => .text [c]) = ofText chars := by
  have hitems : (chars.map fun c => Regex.text [c]).flatMap items =
      chars.map fun c => Regex.text [c] := by
    rw [List.flatMap_map, List.map_eq_flatMap]
    rfl
  have hjoin : ∀ c rest, ((c :: rest).map fun c => Regex.text [c]).foldr consItem [] =
      [Regex.text (c :: rest)] := fun c rest => by
    induction rest generalizing c with
    | nil => rfl
    | cons d rest ih =>
        rw [List.map_cons, List.foldr_cons, ih]
        rfl
  rw [sequence, hitems]
  cases chars with
  | nil => rfl
  | cons c rest =>
      rw [hjoin]
      rfl

/-- **A LITERAL IS ONE TEXT**. -/
theorem ofTree?_ofLiteral (h : TakesLiterally scope.flags) (ignoring : Bool) (text : List Char) :
    ofTree? (Tree.ofLiteral ignoring text) scope =
      some (ofText (kept ignoring text), scope) := by
  show ofTree? (Tree.ofItems ((kept ignoring text).map _)) scope = _
  generalize kept ignoring text = chars
  have hseq : ofTree? (.seq (chars.map fun c => .char ⟨c, false⟩)) scope =
      some (ofText chars, scope) := by
    rw [ofTree?, ofTrees?_chars h]
    show some (sequence _, scope) = _
    rw [sequence_chars]
  cases chars with
  | nil => exact hseq
  | cons c rest =>
      cases rest with
      | nil => exact ofTree?_char h c
      | cons d rest => exact hseq

end Regex

/-! ## Programs -/

namespace Program

variable {p : Program} {before : Option Char} {after matched : List Char} {pc : Nat}

open Instructions (textBlock)

/-- The program has these instructions at its start. -/
def Extends (p : Program) (code : Instructions) : Prop :=
  ∀ i < code.size, p.code[i]? = code[i]?

theorem Extends.of_push {code : Instructions} {i : Instruction} (h : p.Extends (code.push i)) :
    p.Extends code ∧ p.code[code.size]? = some i := by
  refine ⟨fun j hj => ?_, ?_⟩
  · rw [h j (by rw [Array.size_push]; omega), Array.getElem?_push_lt hj,
      Array.getElem?_eq_getElem hj]
  · rw [h code.size (by rw [Array.size_push]; omega), Array.getElem?_push_size]

/-- **THE CODE OF A TEXT READS THE TEXT** and goes on with what comes next. -/
theorem reads_textBlock {next : Nat} {code : Instructions} (chars : List Char)
    (h : p.Extends (textBlock chars next code).2) :
    p.Extends code ∧
      ∀ before matched, p.Reads after before (textBlock chars next code).1 matched ↔
        ∃ rest, matched = chars ++ rest ∧ p.Reads after (chars.getLast?.or before) next rest := by
  induction chars with
  | nil =>
      refine ⟨h, fun before matched => ⟨fun hreads => ⟨matched, rfl, hreads⟩, ?_⟩⟩
      rintro ⟨rest, rfl, hreads⟩
      exact hreads
  | cons c rest ih =>
      obtain ⟨hcode, hinstruction⟩ := Extends.of_push h
      obtain ⟨hbase, hrest⟩ := ih hcode
      refine ⟨hbase, fun before matched => ?_⟩
      show p.Reads after before (textBlock rest next code).2.size matched ↔ _
      rw [reads_take_iff hinstruction, getLast?_cons_or]
      constructor
      · rintro ⟨d, matched, rfl, hd, hreads⟩
        obtain ⟨tail, rfl, htail⟩ := (hrest _ _).mp hreads
        rw [CharSet.contains_single, decide_eq_true_iff] at hd
        subst hd
        exact ⟨tail, rfl, htail⟩
      · rintro ⟨tail, rfl, hreads⟩
        exact ⟨c, rest ++ tail, rfl, by rw [CharSet.contains_single, decide_eq_true rfl],
          (hrest _ _).mpr ⟨tail, rfl, hreads⟩⟩

/-- **THE PROGRAM OF A TEXT READS IT AND NOTHING ELSE**. -/
theorem reads_ofText (chars : List Char) (groups : Nat) :
    let p := ofRegex (.ofText chars) groups
    p.Reads after before p.start matched ↔ matched = chars := by
  intro p
  have hblock : (Regex.ofText chars).block = textBlock chars := by
    cases chars with
    | nil => rw [Regex.ofText, Regex.block]; rfl
    | cons c rest => rw [Regex.ofText, Regex.block]; exact List.cons_ne_nil c rest
  have hp : p =
      ⟨(textBlock chars 0 #[.accept]).2, (textBlock chars 0 #[.accept]).1, 2 * groups⟩ := by
    show ofRegex (.ofText chars) groups = _
    rw [ofRegex, hblock]
  have hextends : p.Extends (textBlock chars 0 #[.accept]).2 := by
    rw [hp]
    exact fun _ _ => rfl
  obtain ⟨hbase, hreads⟩ := reads_textBlock chars hextends
  have haccept : p.code[0]? = some .accept := (hbase 0 Nat.one_pos).trans rfl
  rw [show p.start = (textBlock chars 0 #[.accept]).1 by rw [hp], hreads]
  constructor
  · rintro ⟨rest, rfl, hreads⟩
    rw [(reads_accept_iff haccept).mp hreads, List.append_nil]
  · rintro rfl
    exact ⟨[], (List.append_nil _).symm, .accept haccept⟩

/-! ## Searching -/

/-- **THE PROGRAM OF A TEXT MATCHES WHERE THE TEXT OCCURS**. -/
theorem isMatch_ofText (chars text : List Char) (groups : Nat) :
    (ofRegex (.ofText chars) groups).isMatch text = (splitAtFirst? chars text).isSome := by
  rw [Bool.eq_iff_iff, isMatch_iff, ← Option.ne_none_iff_isSome, ne_eq, splitAtFirst?_eq_none_iff,
    not_not]
  constructor
  · rintro ⟨skipped, matched, after, rfl, hreads⟩
    obtain rfl := (reads_ofText chars groups).mp hreads
    exact ⟨skipped, after, rfl⟩
  · rintro ⟨skipped, after, rfl⟩
    exact ⟨skipped, chars, after, rfl, (reads_ofText chars groups).mpr rfl⟩

end Program

/-! ## Flags -/

section Letters

variable {letters : List Char}

theorem takesLiterally_of_letters (h : 'i' ∉ letters) :
    Regex.TakesLiterally (flagsOfLetters letters) where
  unicode := rfl
  ignoreCase := by
    have hnone : letters.contains 'i' = false := by
      rw [← Bool.not_eq_true, List.contains_iff_mem]
      exact h
    unfold flagsOfLetters
    simp only [List.filter_cons, hnone]
    cases letters.contains 'm' <;> cases letters.contains 's' <;> cases letters.contains 'x' <;> rfl

/-- Under the letter `q`, and without the letter `i`, a pattern that compiles is the program of its
text, of which blanks are left out under the letter `x`. -/
theorem Program.eq_ofText {limit : Nat} {text : List Char} {program : Program} (hq : 'q' ∈ letters)
    (hi : 'i' ∉ letters) (h : Program.ofPattern? letters limit text = some program) :
    program = .ofRegex (.ofText (kept (letters.contains 'x') text)) 0 := by
  have htree : Tree.ofPattern? letters text = some (.ofLiteral (letters.contains 'x') text) :=
    if_pos (List.contains_iff_mem.mpr hq)
  rw [ofPattern?, htree] at h
  simp only [Option.bind_eq_bind, Option.bind_some] at h
  rw [Regex.ofTree?_ofLiteral (takesLiterally_of_letters hi)] at h
  simp only [Option.bind_some] at h
  split at h
  · exact (Option.some.inj h).symm
  · cases h

/-- The letter `q` is not among the other flags. -/
theorem not_contains_filter : (letters.filter (· ≠ 'q')).contains 'q' = false := by
  rw [← Bool.not_eq_true, List.contains_iff_mem, List.mem_filter]
  exact fun h => absurd h.2 (by decide)

/-- Every other letter is among the other flags if it is given. -/
theorem contains_filter {c : Char} (hc : c ≠ 'q') :
    (letters.filter (· ≠ 'q')).contains c = letters.contains c := by
  rw [Bool.eq_iff_iff, List.contains_iff_mem, List.contains_iff_mem, List.mem_filter]
  exact and_iff_left (decide_eq_true hc)

theorem flagsOfLetters_filter :
    flagsOfLetters (letters.filter (· ≠ 'q')) = flagsOfLetters letters := by
  unfold flagsOfLetters
  dsimp only
  refine congrArg (List.cons Flag.unicode) (congrArg (List.map Prod.snd) (List.filter_congr ?_))
  intro given hgiven
  refine contains_filter fun hletter => ?_
  have hmem := List.mem_map_of_mem (f := Prod.fst) hgiven
  rw [hletter] at hmem
  exact absurd hmem (by decide)

/-- **A LITERAL IS ESCAPED FIRST**: the other flags are applied to the escaped text. -/
theorem Program.ofPattern?_escape (limit : Nat) (text : List Char) (hq : 'q' ∈ letters) :
    Program.ofPattern? letters limit text =
      Program.ofPattern? (letters.filter (· ≠ 'q')) limit (escape text) := by
  have hliteral : Tree.ofPattern? letters text = some (.ofLiteral (letters.contains 'x') text) :=
    if_pos (List.contains_iff_mem.mpr hq)
  have hescaped : Tree.ofPattern? (letters.filter (· ≠ 'q')) (escape text) =
      some (.ofLiteral (letters.contains 'x') text) := by
    rw [Tree.ofPattern?, not_contains_filter, if_neg Bool.false_ne_true, contains_filter (by decide),
      Tree.ofText?_escape]
  rw [ofPattern?, ofPattern?, hliteral, hescaped, flagsOfLetters_filter]

/-- What is compiled is the escaped text, whether the letter `q` asks for it or it is given so. -/
theorem compiledText_escape (text : List Char) (hq : 'q' ∈ letters) :
    compiledText (letters.filter (· ≠ 'q')) (escape text) = compiledText letters text := by
  rw [compiledText, compiledText, not_contains_filter, if_neg Bool.false_ne_true,
    if_pos (List.contains_iff_mem.mpr hq)]

end Letters

end Pattern

/-! ## Operands -/

/-- The text that a pattern stands for under the letter `q`: under the letter `x` it has no
blanks. -/
def literalText (pattern flags : String) : String :=
  String.ofList (Pattern.kept (flags.toList.contains 'x') pattern.toList)

/-- The letters of flags without the letter `q`. -/
def otherFlags (flags : String) : String := String.ofList (flags.toList.filter (· ≠ 'q'))

/-- An escaped pattern under the other flags has the program of the pattern under the letter `q`, or
is refused in the same words. -/
theorem patternProgram_escape (limit : Nat) (pattern : String) {flags : String}
    (hq : 'q' ∈ flags.toList) :
    patternProgram limit (String.ofList (Pattern.escape pattern.toList)) (otherFlags flags) =
      patternProgram limit pattern flags := by
  rw [patternProgram, patternProgram, String.toList_ofList, otherFlags, String.toList_ofList,
    ← Pattern.Program.ofPattern?_escape limit _ hq, Pattern.compiledText_escape _ hq]

theorem contains_simple (text needle : String) :
    contains (.simple text) (.simple needle) =
      .ok (Term.ofBool (splitAtFirst? needle.toList text.toList).isSome) :=
  (SearchAnswers.areGiven_ofCut (s := ⟨text, none⟩) (p := ⟨needle, none⟩) (Or.inl rfl)).occurs

/-- No text is found in a shorter one. -/
theorem splitAtFirst?_of_length_lt {needle text : List Char} (h : text.length < needle.length) :
    splitAtFirst? needle text = none := by
  rw [splitAtFirst?_eq_none_iff]
  rintro ⟨before, after, rfl⟩
  rw [List.length_append, List.length_append] at h
  omega

/-- **UNDER THE LETTER Q A PATTERN IS SEARCHED AS A TEXT**: without the letter `i`, a pattern that
compiles matches in a string exactly if the text of the string contains the text that the pattern
stands for.  This is the law of the pattern itself exactly if it has no blanks or the letter `x` is
not given.  The pattern is the escaped text under the other flags. -/
theorem literal_pattern_is_searched {limit : Nat} {pattern flags : String}
    {program : Pattern.Program} (hq : 'q' ∈ flags.toList) (hi : 'i' ∉ flags.toList)
    (hcompiles : patternProgram limit pattern flags = .ok program) :
    (∀ s : StringValue,
        matchesFlaggedPattern limit s.toTerm (.simple pattern) (.simple flags) =
          contains (.simple s.text) (.simple (literalText pattern flags))) ∧
      ((∀ s : StringValue,
          matchesFlaggedPattern limit s.toTerm (.simple pattern) (.simple flags) =
            contains (.simple s.text) (.simple pattern)) ↔
        ('x' ∈ flags.toList → ∀ c ∈ pattern.toList, isBlankChar c = false)) ∧
      patternProgram limit (String.ofList (Pattern.escape pattern.toList)) (otherFlags flags) =
        .ok program := by
  have hpattern : Pattern.Program.ofPattern? flags.toList limit pattern.toList = some program :=
    EvalResult.ofOption_eq_ok_iff.mp hcompiles
  have hprogram := Pattern.Program.eq_ofText hq hi hpattern
  have hsearch : ∀ s : StringValue,
      matchesFlaggedPattern limit s.toTerm (.simple pattern) (.simple flags) =
        contains (.simple s.text) (.simple (literalText pattern flags)) := fun s => by
    have hrun := s.matchesWith_eq limit pattern (some flags)
    rw [Option.getD_some, hcompiles, hprogram] at hrun
    rw [contains_simple, literalText, String.toList_ofList, ← Pattern.Program.isMatch_ofText _ _ 0]
    exact hrun
  refine ⟨hsearch, ?_, ?_⟩
  · rw [← List.contains_iff_mem, ← Pattern.kept_eq_self_iff]
    constructor
    · -- a text that has lost its blanks has too few characters to contain the pattern
      intro hlaw
      by_contra hlost
      have hshort : (Pattern.kept (flags.toList.contains 'x') pattern.toList).length <
          pattern.toList.length :=
        lt_of_le_of_ne (List.length_filter_le _ _) fun hlength =>
          hlost (List.filter_sublist.eq_of_length hlength)
      have hself := (hsearch ⟨literalText pattern flags, none⟩).symm.trans
        (hlaw ⟨literalText pattern flags, none⟩)
      rw [contains_simple, contains_simple, literalText, String.toList_ofList,
        splitAtFirst?_of_length_lt hshort] at hself
      have hfound : (splitAtFirst? (Pattern.kept (flags.toList.contains 'x') pattern.toList)
          (Pattern.kept (flags.toList.contains 'x') pattern.toList)).isSome = true := by
        rw [← Option.ne_none_iff_isSome, ne_eq, splitAtFirst?_eq_none_iff, not_not]
        exact ⟨[], [], (List.append_nil _).symm⟩
      rw [hfound] at hself
      exact absurd hself (by decide)
    · intro hkept s
      rw [hsearch, literalText, hkept, String.ofList_toList]
  · exact (patternProgram_escape limit pattern hq).trans hcompiles

/-- The text `a.c` is searched in the strings, blanks or not: the point is no wildcard, and there is
no blank to lose. -/
theorem literal_pattern_is_searched_for_a_point :
    ∃ program, patternProgram 1000000 "a.c" "xqs" = .ok program ∧
      (∀ s : StringValue,
        matchesFlaggedPattern 1000000 s.toTerm (.simple "a.c") (.simple "xqs") =
          contains (.simple s.text) (.simple "a.c")) := by
  have hsome : (Pattern.Program.ofPattern? "xqs".toList 1000000 "a.c".toList).isSome = true := by
    decide +kernel
  obtain ⟨program, hprogram⟩ := Option.isSome_iff_exists.mp hsome
  have hcompiles : patternProgram 1000000 "a.c" "xqs" = .ok program :=
    EvalResult.ofOption_eq_ok_iff.mpr hprogram
  have hblank : "a.c".toList.all (fun c => !isBlankChar c) = true := by decide
  have hlaw := literal_pattern_is_searched (by decide) (by decide) hcompiles
  exact ⟨program, hcompiles, hlaw.2.1.mpr fun _ c hc =>
    (Bool.not_eq_true' _).mp (List.all_eq_true.mp hblank c hc)⟩

/-- Under the letter `x` a blank of a literal pattern is not searched. -/
theorem blank_in_literal_pattern_is_ignored :
    ¬ ∀ (limit : Nat) (s : StringValue) (pattern flags : String),
      'q' ∈ flags.toList → 'i' ∉ flags.toList → ∀ answer,
        matchesFlaggedPattern limit s.toTerm (.simple pattern) (.simple flags) = .ok answer →
          (answer = Term.ofBool true ↔
            contains (.simple s.text) (.simple pattern) = .ok (Term.ofBool true)) := by
  intro hclaim
  have hmatches : matchesFlaggedPattern 1000000 (Term.simple "ab") (.simple "a b") (.simple "qx") =
      .ok (Term.ofBool true) := by decide +kernel
  have hcontains : contains (.simple "ab") (.simple "a b") ≠ .ok (Term.ofBool true) := by decide
  have hlaw := hclaim 1000000 ⟨"ab", none⟩ "a b" "qx" (by decide) (by decide) _ hmatches
  exact hcontains (hlaw.mp rfl)

end SparqlScalar
