/-!
# Lists of keys and values

Looking up a key in a list of pairs, also after the pairs of one key were taken out.
-/

namespace SparqlScalar

/-- A list of pairs without those of a key. -/
def withoutKey {α β : Type} [BEq α] (key : α) (pairs : List (α × β)) : List (α × β) :=
  pairs.filter fun (other, _) => other != key

theorem lookup_withoutKey {α β : Type} [BEq α] [LawfulBEq α] (key other : α)
    (pairs : List (α × β)) :
    (withoutKey key pairs).lookup other = if other == key then none else pairs.lookup other := by
  induction pairs with
  | nil => split <;> rfl
  | cons pair rest ih =>
    obtain ⟨k, v⟩ := pair
    unfold withoutKey at ih ⊢
    by_cases hk : k = key
    · subst hk
      rw [List.filter_cons_of_neg (by simp), ih, List.lookup_cons]
      cases other == k <;> rfl
    · rw [List.filter_cons_of_pos (by simpa using hk), List.lookup_cons, List.lookup_cons, ih]
      cases h : other == k with
      | false => rfl
      | true =>
        have hne : (other == key) = false := by
          rw [beq_iff_eq.1 h]
          exact beq_eq_false_iff_ne.2 hk
        rw [hne]
        rfl

theorem lookup_cons_withoutKey {α β : Type} [BEq α] [LawfulBEq α] (key other : α) (value : β)
    (pairs : List (α × β)) :
    ((key, value) :: withoutKey key pairs).lookup other =
      if other == key then some value else pairs.lookup other := by
  rw [List.lookup_cons, lookup_withoutKey]
  cases other == key <;> rfl

/-- A list has a key if and only if something is found under it. -/
theorem mem_keys_iff {α β : Type} [BEq α] [LawfulBEq α] {key : α} {pairs : List (α × β)} :
    key ∈ pairs.map Prod.fst ↔ ∃ value, pairs.lookup key = some value := by
  constructor
  · intro hmem
    obtain ⟨pair, hpair, hkey⟩ := List.mem_map.1 hmem
    cases hlookup : pairs.lookup key with
    | some value => exact ⟨value, rfl⟩
    | none =>
      have hne : key != pair.1 := List.lookup_eq_none_iff.1 hlookup pair hpair
      exact absurd hkey.symm (bne_iff_ne.1 hne)
  · rintro ⟨value, hlookup⟩
    obtain ⟨before, after, heq, -⟩ := List.lookup_eq_some_iff.1 hlookup
    rw [heq]
    exact List.mem_map.2 ⟨(key, value), List.mem_append_right _ List.mem_cons_self, rfl⟩

end SparqlScalar
