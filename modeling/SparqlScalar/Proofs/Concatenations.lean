import SparqlScalar.Proofs.Occurrences

/-!
# Concatenations regroup

    The language tag of a concatenation is found in one pass over the strings, with a memory of three
    states: no string yet, one tag for all of them, or none for all.  Once tags differ, no later
    string brings one back:

      steps   -- the memory tells the tag that all strings so far have, and still does with one more
                 string (`TellsTag.step`)
      runs    -- so it tells the tag of all strings at the end (`TellsTag.foldl`,
                 `sharedTag_eq_some_iff`)
      groups  -- a tag that all strings of all groups have is one that all groups have, unless a
                 group is empty (`sharedTag_concatenations`)
-/

namespace SparqlScalar

/-! ## Steps -/

/-- The memory tells the tag of the strings seen so far. -/
structure TellsTag (shared : Option (Option String)) (seen : List StringValue) : Prop where
  unknown_iff : shared = none ↔ seen = []
  tag_iff : ∀ tag, shared = some (some tag) ↔ seen ≠ [] ∧ ∀ s ∈ seen, s.tag = some tag

section Steps

variable {shared : Option (Option String)} {seen : List StringValue}

theorem tellsTag_initial : TellsTag none [] where
  unknown_iff := iff_of_true rfl rfl
  tag_iff := fun _ => iff_of_false nofun fun h => h.1 rfl

/-- **ONE STEP**: with one more string the memory tells the tag that it and all others have. -/
theorem TellsTag.step (h : TellsTag shared seen) (s : StringValue) :
    TellsTag (joinTag shared s) (seen ++ [s]) := by
  have hne : seen ++ [s] ≠ [] := List.append_ne_nil_of_right_ne_nil _ (List.cons_ne_nil s [])
  have hall : ∀ tag, (∀ x ∈ seen ++ [s], x.tag = some tag) ↔
      (∀ x ∈ seen, x.tag = some tag) ∧ s.tag = some tag := by
    intro tag
    rw [List.forall_mem_append, List.forall_mem_singleton]
  cases shared with
  | none =>
      obtain rfl := h.unknown_iff.mp rfl
      refine ⟨iff_of_false nofun hne, fun tag => ?_⟩
      show some s.tag = some (some tag) ↔ _
      rw [hall, and_iff_right hne, and_iff_right (List.forall_mem_nil _), Option.some_inj]
  | some known =>
      have hseen : seen ≠ [] := fun hnil => nomatch h.unknown_iff.mpr hnil
      have hknown : ∀ tag, known = some tag ↔ ∀ x ∈ seen, x.tag = some tag := by
        intro tag
        rw [← Option.some_inj, h.tag_iff, and_iff_right hseen]
      by_cases hsame : known = s.tag
      · rw [joinTag, if_pos hsame]
        refine ⟨iff_of_false nofun hne, fun tag => ?_⟩
        rw [hall, and_iff_right hne, ← hknown, ← hsame, and_self, Option.some_inj]
      · rw [joinTag, if_neg hsame]
        refine ⟨iff_of_false nofun hne, fun tag => iff_of_false nofun ?_⟩
        rintro ⟨-, htags⟩
        obtain ⟨hold, hnew⟩ := (hall tag).mp htags
        exact hsame (((hknown tag).mpr hold).trans hnew.symm)

/-! ## Runs -/

/-- **RUNS**: a pass over more strings tells the tag of all of them. -/
theorem TellsTag.foldl (h : TellsTag shared seen) (strings : List StringValue) :
    TellsTag (strings.foldl joinTag shared) (seen ++ strings) := by
  induction strings generalizing shared seen with
  | nil =>
      rw [List.append_nil]
      exact h
  | cons s strings ih =>
      rw [List.foldl_cons, List.append_cons]
      exact ih (h.step s)

end Steps

/-- **THE SHARED TAG** is the one that all strings have, of which there has to be one. -/
theorem sharedTag_eq_some_iff {strings : List StringValue} {tag : String} :
    sharedTag strings = some tag ↔ strings ≠ [] ∧ ∀ s ∈ strings, s.tag = some tag := by
  rw [sharedTag, Option.join_eq_some_iff]
  exact (tellsTag_initial.foldl strings).tag_iff tag

/-! ## Groups -/

section Groups

variable {groups : List (List StringValue)}

theorem chars_concatenation (strings : List StringValue) :
    (concatenation strings).chars = strings.flatMap StringValue.chars := String.toList_ofList

/-- Groups of strings share the tag that all their strings share. -/
theorem sharedTag_concatenations (h : ∀ group ∈ groups, group ≠ []) :
    sharedTag (groups.map concatenation) = sharedTag groups.flatten := by
  refine Option.ext fun tag => ?_
  have hgroup : ∀ group ∈ groups, (concatenation group).tag = some tag ↔
      ∀ s ∈ group, s.tag = some tag := by
    intro group hmem
    exact sharedTag_eq_some_iff.trans (and_iff_right (h group hmem))
  have hempty : groups.flatten = [] ↔ groups = [] := by
    rw [List.flatten_eq_nil_iff, List.eq_nil_iff_forall_not_mem]
    exact forall₂_congr fun group hmem => iff_false_intro (h group hmem)
  rw [sharedTag_eq_some_iff, sharedTag_eq_some_iff, ne_eq, ne_eq, List.map_eq_nil_iff, hempty,
    List.forall_mem_map, List.forall_mem_flatten]
  exact and_congr_right fun _ => forall₂_congr hgroup

/-- **GROUPS**: the concatenation of the groups is that of all their strings. -/
theorem concatenation_concatenations (h : ∀ group ∈ groups, group ≠ []) :
    concatenation (groups.map concatenation) = concatenation groups.flatten := by
  have hchars : (groups.map concatenation).flatMap StringValue.chars =
      groups.flatten.flatMap StringValue.chars := by
    rw [List.flatMap_map, ← List.flatMap_id, List.flatMap_assoc]
    exact List.flatMap_congr fun group _ => chars_concatenation group
  rw [concatenation, concatenation, hchars, sharedTag_concatenations h]

end Groups

/-! ## Terms -/

/-- The terms of strings are concatenated. -/
theorem concat_toTerm (strings : List StringValue) :
    concat (strings.map StringValue.toTerm) = .ok (concatenation strings).toTerm := by
  have hread : (strings.map StringValue.toTerm).mapM Term.string = .ok strings := by
    induction strings with
    | nil => rfl
    | cons s strings ih =>
        rw [List.map_cons, List.mapM_cons, s.string_toTerm, ih]
        rfl
  rw [concat, hread]
  rfl

/-- **CONCATENATIONS REGROUP**: strings are concatenated to the text of all of them, with the tag
that all of them have if there is any string, and it makes no difference if non-empty groups of them
are concatenated first. -/
theorem concat_regroups :
    (∀ strings : List StringValue, ∃ r : StringValue,
        concat (strings.map StringValue.toTerm) = .ok r.toTerm ∧
          r.chars = strings.flatMap StringValue.chars ∧
          ∀ tag, r.tag = some tag ↔ strings ≠ [] ∧ ∀ s ∈ strings, s.tag = some tag) ∧
      ∀ groups : List (List StringValue), (∀ group ∈ groups, group ≠ []) →
        (groups.mapM fun group => concat (group.map StringValue.toTerm)) >>= concat =
          concat (groups.flatten.map StringValue.toTerm) := by
  refine ⟨fun strings => ?_, fun groups h => ?_⟩
  · exact ⟨concatenation strings, concat_toTerm strings, chars_concatenation strings,
      fun tag => sharedTag_eq_some_iff⟩
  · have hgroups : (groups.mapM fun group => concat (group.map StringValue.toTerm)) =
        .ok ((groups.map concatenation).map StringValue.toTerm) := by
      clear h
      induction groups with
      | nil => rfl
      | cons group groups ih =>
          rw [List.mapM_cons, concat_toTerm, ih]
          rfl
    rw [hgroups, concat_toTerm, ← concatenation_concatenations h, ← concat_toTerm]
    rfl

/-- A group in one language and another without one, which is not in that language any more. -/
theorem concat_regroups_mixed :
    let groups : List (List StringValue) :=
      [[⟨"a", some "en"⟩, ⟨"b", some "en"⟩], [⟨"c", none⟩, ⟨"d", some "en"⟩]]
    (∀ group ∈ groups, group ≠ []) ∧
      (groups.mapM fun group => concat (group.map StringValue.toTerm)) >>= concat =
        .ok (Term.simple "abcd") := by
  intro groups
  have hne : ∀ group ∈ groups, group ≠ [] := by decide
  exact ⟨hne, (concat_regroups.2 groups hne).trans (by decide)⟩

/-- A group without strings has no tag to share. -/
example : (do concat [← concat [], .literal (.tagged "a" "en")]) = .ok (Term.simple "a") := by
  decide

end SparqlScalar
