/-!
# Splitting and searching

Texts between marks, and the first place where one text occurs in another. What is found is always
a cut of the text: the part before, the needle and the part after make it up again.
-/

namespace SparqlScalar

/-- The parts of a text between marks; there is always one part more than there are marks. -/
def splitOnMark (mark : Char) : List Char → List (List Char)
  | [] => [[]]
  | c :: rest =>
    if c = mark then [] :: splitOnMark mark rest
    else
      match splitOnMark mark rest with
      | [] => [[c]]
      | first :: others => (c :: first) :: others

/-- The parts of a text before and after the first occurrence of a needle. -/
def splitAtFirst? (needle : List Char) : List Char → Option (List Char × List Char)
  | [] => if needle = [] then some ([], []) else none
  | c :: rest =>
    if needle.isPrefixOf (c :: rest) then some ([], (c :: rest).drop needle.length)
    else (splitAtFirst? needle rest).map fun (before, after) => (c :: before, after)

theorem append_of_splitAtFirst? {needle text before after : List Char}
    (h : splitAtFirst? needle text = some (before, after)) : before ++ needle ++ after = text := by
  induction text generalizing before after with
  | nil =>
    unfold splitAtFirst? at h
    split at h
    · next hn => cases h; simp [hn]
    · cases h
  | cons c rest ih =>
    unfold splitAtFirst? at h
    split at h
    · next hp =>
      cases h
      obtain ⟨tail, ht⟩ := List.isPrefixOf_iff_prefix.1 hp
      rw [← ht, List.drop_left, List.nil_append]
    · obtain ⟨⟨b, a⟩, hs, he⟩ := Option.map_eq_some_iff.1 h
      cases he
      rw [List.cons_append, List.cons_append, ih hs]

end SparqlScalar
