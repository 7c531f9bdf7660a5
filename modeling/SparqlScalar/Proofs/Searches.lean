import Mathlib.Data.List.TakeWhile
import SparqlScalar.Proofs.Threads

/-!
# Searches

    A search goes through a text once, with all open threads at the same place.  What it finds is
    told by the ways through the program:

      steps     -- at each place the threads are spread, the best match is improved, and the threads
                   that are preferred to it read the next character (`search_nil`, `search_cons`)
      searching -- as long as there is no match, the open threads are those from which one can come
                   (`exists_live_iff`), so a search finds a match exactly where there is one
                   (`search_ne_none_iff`, `isMatch_iff`)
      places    -- what is found lies within the text (`stop_le_of_find?`)
-/

namespace SparqlScalar.Pattern.Program

variable {p : Program} {before : Option Char} {threads : List Thread} {best : Option Match}
  {position : Nat} {text : List Char}

/-! ## Steps -/

/-- The threads at a place of a search: those that were open, and one that starts there as long as
there is no match, are spread. -/
def live (p : Program) (threads : List Thread) (best : Option Match) (before : Option Char)
    (position : Nat) (text : List Char) : List Thread :=
  let todo := if best.isNone then threads ++ [p.threadAt position] else threads
  p.spread ⟨before, text.head?, position⟩ (p.spreadSteps todo.length) todo 0

/-- The best match at a place, given the one so far. -/
def improve (p : Program) (position : Nat) (live : List Thread) (best : Option Match) :
    Option Match :=
  match live.find? p.accepts with
  | some t => some ⟨t.start, position - t.start, t.slots⟩
  | none => best

/-- The threads after a character is read, of those that are preferred to a match. -/
def running (p : Program) (c : Char) (live : List Thread) : List Thread :=
  (live.takeWhile fun t => !p.accepts t).filterMap (p.advance c)

/-- At the end of the text the threads that accept are looked at once more. -/
theorem search_nil (threads : List Thread) (best : Option Match) (before : Option Char)
    (position : Nat) :
    p.search threads best before position [] =
      p.improve position (p.live threads best before position []) best := rfl

/-- Before a character the search stops if a match is found and no thread is left to better it. -/
theorem search_cons (threads : List Thread) (best : Option Match) (before : Option Char)
    (position : Nat) (c : Char) (rest : List Char) :
    p.search threads best before position (c :: rest) =
      let live := p.live threads best before position (c :: rest)
      let best := p.improve position live best
      if best.isSome && (p.running c live).isEmpty then best
      else p.search (p.running c live) best (some c) (position + 1) rest := rfl

/-- A thread accepts if it stands at the end of the program. -/
theorem accepts_iff {t : Thread} : p.accepts t = true ↔ p.code[t.pc]? = some .accept := by
  unfold accepts
  split
  · next h => exact iff_of_true rfl h
  · next h => exact iff_of_false Bool.false_ne_true h

/-- A thread goes on over a character that it may take. -/
theorem advance_eq_some_iff {c : Char} {t t' : Thread} :
    p.advance c t = some t' ↔
      ∃ s next, p.code[t.pc]? = some (.take s next) ∧ s.contains c = true ∧
        t' = { t with pc := next } := by
  unfold advance
  split
  · next s next h =>
      by_cases hc : s.contains c = true
      · rw [if_pos hc, Option.some.injEq]
        constructor
        · rintro rfl
          exact ⟨s, next, h, hc, rfl⟩
        · rintro ⟨_, _, h', -, rfl⟩
          cases h.symm.trans h'
          rfl
      · rw [if_neg hc]
        refine iff_of_false nofun ?_
        rintro ⟨_, _, h', hc', -⟩
        cases h.symm.trans h'
        exact hc hc'
  · next h =>
      refine iff_of_false nofun ?_
      rintro ⟨s, next, h', -⟩
      exact h s next h'

/-- Without a match before there is one only if a thread accepts. -/
theorem improve_eq_none_iff {threads : List Thread} :
    p.improve position threads best = none ↔ best = none ∧ ∀ t ∈ threads, p.accepts t = false := by
  unfold improve
  split
  · next t h =>
      refine iff_of_false nofun ?_
      rintro ⟨-, hnone⟩
      exact Bool.false_ne_true ((hnone t (List.mem_of_find?_eq_some h)).symm.trans
        (List.find?_some h))
  · next h =>
      rw [List.find?_eq_none] at h
      exact ⟨fun hbest => ⟨hbest, fun t ht => Bool.eq_false_iff.mpr (h t ht)⟩, And.left⟩

/-- A match that was found is kept, or gives way to another one. -/
theorem search_ne_none_of_best (h : best ≠ none) :
    p.search threads best before position text ≠ none := by
  induction text generalizing threads best before position with
  | nil =>
      rw [search_nil]
      exact fun hnone => h (improve_eq_none_iff.mp hnone).1
  | cons c rest ih =>
      have hbest :
          p.improve position (p.live threads best before position (c :: rest)) best ≠ none :=
        fun hnone => h (improve_eq_none_iff.mp hnone).1
      rw [search_cons]
      dsimp only
      split
      · exact hbest
      · exact ih hbest

theorem improve_ne_none_iff (position : Nat) {live : List Thread} :
    p.improve position live none ≠ none ↔ ∃ t ∈ live, p.accepts t = true := by
  rw [ne_eq, improve_eq_none_iff, and_iff_right rfl]
  push Not
  simp only [ne_eq, Bool.not_eq_false]

/-- If none of the threads has come to the end, each of them reads or is closed. -/
theorem mem_running_iff {live : List Thread} {c : Char} {t : Thread}
    (h : ∀ t ∈ live, p.accepts t = false) :
    t ∈ p.running c live ↔ ∃ t₀ ∈ live, p.advance c t₀ = some t := by
  have hall : live.takeWhile (fun t => !p.accepts t) = live :=
    List.takeWhile_eq_self_iff.mpr fun t ht => by rw [h t ht]; rfl
  rw [running, hall, List.mem_filterMap]

/-! ## Searching -/

/-- A text starts with one that a way from an instruction reads. -/
def Starts (p : Program) (before : Option Char) (pc : Nat) (text : List Char) : Prop :=
  ∃ matched after, text = matched ++ after ∧ p.Reads after before pc matched

/-- A text starts with one that a way reads from its first instruction that reads or ends. -/
def StartsAt (p : Program) (text : List Char) (pc : Nat) : Prop :=
  ∃ matched after, text = matched ++ after ∧ p.Goes after pc matched

/-- In a text there is one that a way through the program reads. -/
def Occurs (p : Program) (before : Option Char) (text : List Char) : Prop :=
  ∃ skipped rest, text = skipped ++ rest ∧ p.Starts (skipped.getLast?.or before) p.start rest

/-- A match starts behind steps that read nothing. -/
theorem starts_iff {pc : Nat} :
    p.Starts before pc text ↔ ∃ pc', p.Reaches before text.head? pc pc' ∧ p.StartsAt text pc' := by
  constructor
  · rintro ⟨matched, after, rfl, hreads⟩
    obtain ⟨pc', hreach, hgoes⟩ := reads_iff_exists_reaches.mp hreads
    exact ⟨pc', hreach, matched, after, rfl, hgoes⟩
  · rintro ⟨pc', hreach, matched, after, rfl, hgoes⟩
    exact ⟨matched, after, rfl, reads_iff_exists_reaches.mpr ⟨pc', hreach, hgoes⟩⟩

/-- At the end of the program the empty text is matched. -/
theorem startsAt_of_accept {pc : Nat} (text : List Char) (h : p.code[pc]? = some .accept) :
    p.StartsAt text pc :=
  ⟨[], text, rfl, .accept h⟩

theorem startsAt_nil_iff {pc : Nat} : p.StartsAt [] pc ↔ p.code[pc]? = some .accept := by
  refine ⟨?_, startsAt_of_accept []⟩
  rintro ⟨matched, after, htext, hgoes⟩
  cases hgoes with
  | accept h => exact h
  | take _ _ _ => cases htext

/-- A match that does not end here takes the next character. -/
theorem startsAt_cons_iff {pc : Nat} {c : Char} {rest : List Char} :
    p.StartsAt (c :: rest) pc ↔ p.code[pc]? = some .accept ∨
      ∃ s next, p.code[pc]? = some (.take s next) ∧ s.contains c = true ∧
        p.Starts (some c) next rest := by
  constructor
  · rintro ⟨matched, after, htext, hgoes⟩
    cases hgoes with
    | accept h => exact Or.inl h
    | take h hc hreads =>
        obtain ⟨rfl, rfl⟩ := List.cons.inj htext
        exact Or.inr ⟨_, _, h, hc, _, after, rfl, hreads⟩
  · rintro (h | ⟨s, next, h, hc, matched, after, rfl, hreads⟩)
    · exact startsAt_of_accept _ h
    · exact ⟨c :: matched, after, rfl, .take h hc hreads⟩

theorem occurs_nil_iff : p.Occurs before [] ↔ p.Starts before p.start [] := by
  constructor
  · rintro ⟨skipped, rest, htext, hstarts⟩
    obtain ⟨rfl, rfl⟩ := List.append_eq_nil_iff.mp htext.symm
    exact hstarts
  · exact fun h => ⟨[], [], rfl, h⟩

/-- The last character of a text, where the one before it counts if the text is empty. -/
theorem getLast?_cons_or (c : Char) (rest : List Char) (before : Option Char) :
    (c :: rest).getLast?.or before = rest.getLast?.or (some c) := by
  rw [List.getLast?_cons]
  cases rest.getLast? <;> rfl

/-- A match starts at the front of a text, or in what follows the first character. -/
theorem occurs_cons_iff {c : Char} {rest : List Char} :
    p.Occurs before (c :: rest) ↔ p.Starts before p.start (c :: rest) ∨ p.Occurs (some c) rest := by
  constructor
  · rintro ⟨skipped, rest', htext, hstarts⟩
    cases skipped with
    | nil =>
        rw [List.nil_append] at htext
        subst htext
        exact Or.inl hstarts
    | cons d skipped =>
        obtain ⟨rfl, rfl⟩ := List.cons.inj htext
        rw [getLast?_cons_or] at hstarts
        exact Or.inr ⟨skipped, rest', rfl, hstarts⟩
  · rintro (hstarts | ⟨skipped, rest', rfl, hstarts⟩)
    · exact ⟨[], c :: rest, rfl, hstarts⟩
    · refine ⟨c :: skipped, rest', rfl, ?_⟩
      rwa [getLast?_cons_or]

/-- **THE OPEN THREADS ARE THOSE FROM WHICH A MATCH CAN COME**: of the threads that are spread at a
place one can go on if one of the given ones can, or one that starts there. -/
theorem exists_live_iff (position : Nat) :
    (∃ t ∈ p.live threads none before position text, p.StartsAt text t.pc) ↔
      (∃ t ∈ threads, p.Starts before t.pc text) ∨ p.Starts before p.start text := by
  simp only [starts_iff]
  constructor
  · rintro ⟨t, ht, hgoes⟩
    obtain ⟨t₀, ht₀, hreach, -⟩ := mem_spread ht
    rcases List.mem_append.mp ht₀ with hopen | hnew
    · exact Or.inl ⟨t₀, hopen, t.pc, hreach, hgoes⟩
    · obtain rfl := List.mem_singleton.mp hnew
      exact Or.inr ⟨t.pc, hreach, hgoes⟩
  · have hfound : ∀ {t : Thread} {pc : Nat}, t ∈ threads ++ [p.threadAt position] →
        p.Reaches before text.head? t.pc pc → p.StartsAt text pc →
        ∃ t ∈ p.live threads none before position text, p.StartsAt text t.pc :=
      fun ht hreach ⟨matched, after, htext, hgoes⟩ => by
        obtain ⟨t', ht', rfl⟩ :=
          exists_mem_spread ⟨before, text.head?, position⟩ ht hreach hgoes.stops
        exact ⟨t', ht', matched, after, htext, hgoes⟩
    rintro (⟨t, ht, pc, hreach, hgoes⟩ | ⟨pc, hreach, hgoes⟩)
    · exact hfound (List.mem_append_left _ ht) hreach hgoes
    · exact hfound (List.mem_append_right _ (List.mem_singleton_self (p.threadAt position))) hreach
        hgoes

/-- **A SEARCH FINDS A MATCH WHERE THERE IS ONE**: one that a thread is already on, or one that
starts in the rest of the text. -/
theorem search_ne_none_iff :
    p.search threads none before position text ≠ none ↔
      (∃ t ∈ threads, p.Starts before t.pc text) ∨ p.Occurs before text := by
  induction text generalizing threads before position with
  | nil =>
      rw [search_nil, improve_ne_none_iff, occurs_nil_iff, ← exists_live_iff position]
      simp only [startsAt_nil_iff, accepts_iff]
  | cons c rest ih =>
      rw [search_cons, occurs_cons_iff, ← or_assoc, ← exists_live_iff position]
      generalize p.live threads none before position (c :: rest) = live
      dsimp only
      by_cases hend : ∃ t ∈ live, p.accepts t = true
      · obtain ⟨t, ht, haccepts⟩ := hend
        have hfound := (improve_ne_none_iff position).mpr ⟨t, ht, haccepts⟩
        refine iff_of_true ?_ (Or.inl ⟨t, ht, startsAt_of_accept _ (accepts_iff.mp haccepts)⟩)
        split
        · exact hfound
        · exact search_ne_none_of_best hfound
      · have hopen : ∀ t ∈ live, p.accepts t = false := fun t ht =>
          Bool.eq_false_iff.mpr fun haccepts => hend ⟨t, ht, haccepts⟩
        have hnone : p.improve position live none = none :=
          improve_eq_none_iff.mpr ⟨rfl, hopen⟩
        rw [hnone, Option.isSome_none, Bool.false_and, if_neg Bool.false_ne_true, ih]
        refine or_congr_left ⟨?_, ?_⟩
        · rintro ⟨t, ht, hstarts⟩
          obtain ⟨t₀, ht₀, hadvance⟩ := (mem_running_iff hopen).mp ht
          obtain ⟨s, next, hcode, hc, rfl⟩ := advance_eq_some_iff.mp hadvance
          exact ⟨t₀, ht₀, startsAt_cons_iff.mpr (Or.inr ⟨s, next, hcode, hc, hstarts⟩)⟩
        · rintro ⟨t₀, ht₀, hstarts⟩
          rcases startsAt_cons_iff.mp hstarts with haccept | ⟨s, next, hcode, hc, hstarts⟩
          · exact absurd ⟨t₀, ht₀, accepts_iff.mpr haccept⟩ hend
          · exact ⟨_, (mem_running_iff hopen).mpr ⟨t₀, ht₀,
              advance_eq_some_iff.mpr ⟨s, next, hcode, hc, rfl⟩⟩, hstarts⟩

/-- **A PROGRAM MATCHES IN A TEXT IF A WAY THROUGH IT READS A PART OF THE TEXT**. -/
theorem isMatch_iff :
    p.isMatch text = true ↔
      ∃ skipped matched after, text = skipped ++ matched ++ after ∧
        p.Reads after skipped.getLast? p.start matched := by
  rw [isMatch, ← Option.ne_none_iff_isSome, find?, search_ne_none_iff]
  constructor
  · rintro (⟨t, ht, -⟩ | ⟨skipped, _, rfl, matched, after, rfl, hreads⟩)
    · cases ht
    · rw [Option.or_none] at hreads
      exact ⟨skipped, matched, after, (List.append_assoc _ _ _).symm, hreads⟩
  · rintro ⟨skipped, matched, after, rfl, hreads⟩
    refine Or.inr ⟨skipped, matched ++ after, List.append_assoc _ _ _, matched, after, rfl, ?_⟩
    rwa [Option.or_none]

/-! ## Places -/

/-- What is spread starts no later than the place. -/
theorem start_le_of_mem_live {t : Thread} (hopen : ∀ t ∈ threads, t.start ≤ position)
    (h : t ∈ p.live threads best before position text) : t.start ≤ position := by
  obtain ⟨t₀, ht₀, -, hstart⟩ := mem_spread h
  rw [hstart]
  split at ht₀
  · rcases List.mem_append.mp ht₀ with ht₀ | ht₀
    · exact hopen t₀ ht₀
    · rw [List.mem_singleton.mp ht₀]
      exact Nat.le_refl position
  · exact hopen t₀ ht₀

/-- A match ends where its thread is. -/
theorem stop_of_mem_improve {live : List Thread} {m : Match}
    (hopen : ∀ t ∈ live, t.start ≤ position) (h : p.improve position live best = some m) :
    m.stop = position ∨ best = some m := by
  unfold improve at h
  split at h
  · next t hfind =>
      obtain rfl := Option.some.inj h
      exact Or.inl (Nat.add_sub_cancel' (hopen t (List.mem_of_find?_eq_some hfind)))
  · exact Or.inr h

theorem stop_le_of_search {m : Match} (hopen : ∀ t ∈ threads, t.start ≤ position)
    (hbest : ∀ b, best = some b → b.stop ≤ position + text.length)
    (h : p.search threads best before position text = some m) :
    m.stop ≤ position + text.length := by
  induction text generalizing threads best before position with
  | nil =>
      rw [search_nil] at h
      rcases stop_of_mem_improve (fun t => start_le_of_mem_live hopen) h with hstop | hold
      · exact hstop.le
      · exact hbest m hold
  | cons c rest ih =>
      rw [search_cons] at h
      dsimp only at h
      have hlive : ∀ t ∈ p.live threads best before position (c :: rest), t.start ≤ position :=
        fun t => start_le_of_mem_live hopen
      have himproved : ∀ b,
          p.improve position (p.live threads best before position (c :: rest)) best = some b →
            b.stop ≤ position + (c :: rest).length := fun b hb => by
        rcases stop_of_mem_improve hlive hb with hstop | hold
        · exact hstop.le.trans (Nat.le_add_right _ _)
        · exact hbest b hold
      split at h
      · exact himproved m h
      · have hshift : position + (c :: rest).length = position + 1 + rest.length := by
          rw [List.length_cons]
          omega
        rw [hshift] at himproved ⊢
        refine ih (fun t ht => ?_) himproved h
        obtain ⟨t₀, ht₀, hadvance⟩ := List.mem_filterMap.mp ht
        obtain ⟨_, _, -, -, rfl⟩ := advance_eq_some_iff.mp hadvance
        exact (hlive t₀ ((List.takeWhile_prefix _).subset ht₀)).trans (Nat.le_succ _)

/-- **A MATCH LIES WITHIN THE TEXT**. -/
theorem stop_le_of_find? {m : Match} (h : p.find? before text = some m) :
    m.stop ≤ text.length := by
  have hopen : ∀ t ∈ ([] : List Thread), t.start ≤ 0 := nofun
  have hstop := stop_le_of_search hopen (fun _ hbest => by cases hbest) h
  rwa [Nat.zero_add] at hstop

end SparqlScalar.Pattern.Program
