import Mathlib.Data.Finset.Card
import Mathlib.Data.Finset.Range
import Mathlib.Data.Nat.Bitwise
import Mathlib.Data.Set.Insert
import Mathlib.Logic.Relation
import SparqlScalar.Pattern.Match

/-!
# Threads and ways through a program

    A program is run by threads that are spread over its instructions, each of which is visited once.
    Where they come is told here without threads, by the ways through the program:

      ways      -- a way from an instruction to the end of the program reads a text and looks at the
                   characters around its places (`Program.Reads`)
      spreading -- the threads that are spread are those that a way leads to (`mem_spread`), and all
                   of them, as the instructions that were visited are closed under the ways
                   (`Covers`) and the number of steps is enough to visit them (`exists_mem_spread`)
-/

namespace SparqlScalar.Pattern.Program

variable {p : Program} {place : Place} {before : Option Char} {after : List Char}

/-! ## Ways -/

/-- The instructions that come next where nothing is read, between two characters. -/
def next (p : Program) (before after : Option Char) (pc : Nat) : List Nat :=
  match p.code[pc]? with
  | some (.split first second) => [first, second]
  | some (.note _ next) => [next]
  | some (.look look next) => if look.holds before after then [next] else []
  | _ => []

/-- There is a way from one instruction to another on which nothing is read. -/
def Reaches (p : Program) (before after : Option Char) : Nat → Nat → Prop :=
  Relation.ReflTransGen fun pc pc' => pc' ∈ p.next before after pc

/-- There is a way from an instruction to the end of the program on which a text is read, given what
stands before it and after it. -/
inductive Reads (p : Program) (after : List Char) : Option Char → Nat → List Char → Prop where
  | accept {before : Option Char} {pc : Nat} (h : p.code[pc]? = some .accept) :
      Reads p after before pc []
  | free {before : Option Char} {pc pc' : Nat} {text : List Char}
      (h : pc' ∈ p.next before (text ++ after).head? pc) (rest : Reads p after before pc' text) :
      Reads p after before pc text
  | take {before : Option Char} {pc next : Nat} {s : CharSet} {c : Char} {text : List Char}
      (h : p.code[pc]? = some (.take s next)) (hc : s.contains c = true)
      (rest : Reads p after (some c) next text) : Reads p after before pc (c :: text)

/-- What a way does at the instruction where it first reads or ends. -/
inductive Goes (p : Program) (after : List Char) (pc : Nat) : List Char → Prop where
  | accept (h : p.code[pc]? = some .accept) : Goes p after pc []
  | take {next : Nat} {s : CharSet} {c : Char} {text : List Char}
      (h : p.code[pc]? = some (.take s next)) (hc : s.contains c = true)
      (rest : p.Reads after (some c) next text) : Goes p after pc (c :: text)

/-- **A WAY STARTS WITH STEPS THAT READ NOTHING**, up to an instruction that reads or ends. -/
theorem reads_iff_exists_reaches {pc : Nat} {text : List Char} :
    p.Reads after before pc text ↔
      ∃ pc', p.Reaches before (text ++ after).head? pc pc' ∧ p.Goes after pc' text := by
  constructor
  · intro h
    induction h with
    | accept h => exact ⟨_, .refl, .accept h⟩
    | free h _ ih =>
        obtain ⟨pc', hreach, hgoes⟩ := ih
        exact ⟨pc', hreach.head h, hgoes⟩
    | take h hc rest => exact ⟨_, .refl, .take h hc rest⟩
  · rintro ⟨pc', hreach, hgoes⟩
    induction hreach using Relation.ReflTransGen.head_induction_on with
    | refl =>
        cases hgoes with
        | accept h => exact .accept h
        | take h hc rest => exact .take h hc rest
    | head h _ ih => exact .free h ih

/-- From an instruction that reads, every way reads a character of its set. -/
theorem reads_take_iff {pc next : Nat} {s : CharSet} {text : List Char}
    (h : p.code[pc]? = some (.take s next)) :
    p.Reads after before pc text ↔
      ∃ c rest, text = c :: rest ∧ s.contains c = true ∧ p.Reads after (some c) next rest := by
  constructor
  · intro hreads
    cases hreads with
    | accept h' => cases h.symm.trans h'
    | free h' _ =>
        rw [Program.next, h] at h'
        cases h'
    | take h' hc rest =>
        cases h.symm.trans h'
        exact ⟨_, _, rfl, hc, rest⟩
  · rintro ⟨c, rest, rfl, hc, hreads⟩
    exact .take h hc hreads

/-- From the end of the program, every way reads nothing. -/
theorem reads_accept_iff {pc : Nat} {text : List Char} (h : p.code[pc]? = some .accept) :
    p.Reads after before pc text ↔ text = [] := by
  constructor
  · intro hreads
    cases hreads with
    | accept _ => rfl
    | free h' _ =>
        rw [Program.next, h] at h'
        cases h'
    | take h' _ _ => cases h.symm.trans h'
  · rintro rfl
    exact .accept h

/-! ## Spreading -/

/-- Whether an instruction reads a character or ends the program. -/
def stops (p : Program) (pc : Nat) : Bool :=
  match p.code[pc]? with
  | some (.take _ _) => true
  | some .accept => true
  | _ => false

theorem Goes.stops {pc : Nat} {text : List Char} (h : p.Goes after pc text) :
    p.stops pc = true := by
  cases h with
  | accept h => rw [Program.stops, h]
  | take h _ _ => rw [Program.stops, h]

/-- The threads that come next where nothing is read. -/
def successors (p : Program) (place : Place) (t : Thread) : List Thread :=
  match p.code[t.pc]? with
  | some (.split first second) => [{ t with pc := first }, { t with pc := second }]
  | some (.note slot next) =>
    [{ t with pc := next, slots := t.slots.set slot (some place.position) }]
  | some (.look look next) =>
    if look.holds place.before place.after then [{ t with pc := next }] else []
  | _ => []

theorem map_pc_successors (t : Thread) :
    (p.successors place t).map Thread.pc = p.next place.before place.after t.pc := by
  unfold successors next
  cases p.code[t.pc]? with
  | none => rfl
  | some i =>
      cases i with
      | look look next =>
          show (if _ then _ else _ : List Thread).map _ = if _ then _ else _
          split <;> rfl
      | _ => rfl

theorem start_of_mem_successors {t t' : Thread} (h : t' ∈ p.successors place t) :
    t'.start = t.start := by
  unfold successors at h
  split at h
  · simp only [List.mem_cons, List.not_mem_nil, or_false] at h
    rcases h with rfl | rfl <;> rfl
  · rw [List.mem_singleton.mp h]
  · split at h
    · rw [List.mem_singleton.mp h]
    · cases h
  · cases h

/-- What is visited, with one instruction more. -/
theorem testBit_visit (visited pc pc' : Nat) :
    (visited ||| 1 <<< pc).testBit pc' = (visited.testBit pc' || decide (pc' = pc)) := by
  rw [Nat.testBit_or, Nat.one_shiftLeft, Nat.testBit_two_pow, decide_eq_decide.mpr eq_comm]

/-- **ONE STEP OF SPREADING**: a thread at an instruction that was visited is passed over; another
one stays if its instruction reads or ends, and gives way to its successors if not. -/
theorem spread_cons (steps visited : Nat) (t : Thread) (rest : List Thread) :
    p.spread place (steps + 1) (t :: rest) visited =
      if visited.testBit t.pc then p.spread place steps rest visited
      else (if p.stops t.pc then [t] else []) ++
        p.spread place steps (p.successors place t ++ rest) (visited ||| 1 <<< t.pc) := by
  rw [spread]
  refine if_congr Iff.rfl rfl ?_
  unfold stops successors
  cases p.code[t.pc]? with
  | none => rfl
  | some i =>
      cases i with
      | look look next =>
          show (if _ then _ else _) = [] ++ p.spread place steps ((if _ then _ else _) ++ rest) _
          split <;> rfl
      | _ => rfl

/-- Each thread that is spread comes from a given one, and keeps where that one started. -/
theorem mem_spread {steps visited : Nat} {todo : List Thread} {t : Thread}
    (h : t ∈ p.spread place steps todo visited) :
    ∃ t₀ ∈ todo, p.Reaches place.before place.after t₀.pc t.pc ∧ t.start = t₀.start := by
  induction steps generalizing todo visited with
  | zero => cases h
  | succ steps ih =>
      cases todo with
      | nil => cases h
      | cons t₁ rest =>
          rw [spread_cons] at h
          split at h
          · obtain ⟨t₀, ht₀, hfrom⟩ := ih h
            exact ⟨t₀, List.mem_cons_of_mem _ ht₀, hfrom⟩
          · rcases List.mem_append.mp h with hself | hlater
            · split at hself
              · obtain rfl := List.mem_singleton.mp hself
                exact ⟨t, List.mem_cons_self, .refl, rfl⟩
              · cases hself
            · obtain ⟨t₀, ht₀, hreach, hstart⟩ := ih hlater
              rcases List.mem_append.mp ht₀ with hnext | hrest
              · have hpc : t₀.pc ∈ p.next place.before place.after t₁.pc := by
                  rw [← map_pc_successors]
                  exact List.mem_map_of_mem hnext
                exact ⟨t₁, List.mem_cons_self, hreach.head hpc,
                  hstart.trans (start_of_mem_successors hnext)⟩
              · exact ⟨t₀, List.mem_cons_of_mem _ hrest, hreach, hstart⟩

/-- The instructions are those that have been visited when all threads are spread: they hold those
that were visited before and those where the threads stand, each newly visited one is followed by
its successors, and has a thread if it reads or ends. -/
structure Covers (p : Program) (place : Place) (visited : Nat) (todo live : List Thread)
    (seen : Set Nat) : Prop where
  kept : ∀ pc, visited.testBit pc = true → pc ∈ seen
  given : ∀ t ∈ todo, t.pc ∈ seen
  closed : ∀ pc ∈ seen, visited.testBit pc = false →
    ∀ pc' ∈ p.next place.before place.after pc, pc' ∈ seen
  found : ∀ pc ∈ seen, visited.testBit pc = false → p.stops pc = true → ∃ t ∈ live, t.pc = pc

/-- How many instructions have not been visited. -/
def unvisited (p : Program) (visited : Nat) : Nat :=
  ((Finset.range p.code.size).filter fun pc => visited.testBit pc = false).card

theorem unvisited_visit (visited pc : Nat) :
    p.unvisited (visited ||| 1 <<< pc) =
      (((Finset.range p.code.size).filter fun pc => visited.testBit pc = false).erase pc).card := by
  unfold unvisited
  congr 1
  ext pc'
  simp only [Finset.mem_filter, Finset.mem_erase, testBit_visit, Bool.or_eq_false_iff,
    decide_eq_false_iff_not]
  exact ⟨fun ⟨hsize, hvisited, hne⟩ => ⟨hne, hsize, hvisited⟩,
    fun ⟨hne, hsize, hvisited⟩ => ⟨hsize, hvisited, hne⟩⟩

/-- A visit pays for the threads that come next: they are two at most, and none where there is no
instruction. -/
theorem successors_paid (p : Program) (place : Place) {visited : Nat} {t : Thread}
    (h : visited.testBit t.pc = false) :
    (p.successors place t).length + 2 * p.unvisited (visited ||| 1 <<< t.pc) ≤
      2 * p.unvisited visited := by
  rw [unvisited_visit]
  by_cases hsize : t.pc < p.code.size
  · have hmem : t.pc ∈ (Finset.range p.code.size).filter fun pc => visited.testBit pc = false :=
      Finset.mem_filter.mpr ⟨Finset.mem_range.mpr hsize, h⟩
    have hcard := Finset.card_erase_add_one hmem
    have hlength : (p.successors place t).length ≤ 2 := by
      rw [← List.length_map Thread.pc, map_pc_successors, next]
      split
      · exact Nat.le_refl 2
      · exact Nat.le_succ 1
      · split
        · exact Nat.le_succ 1
        · exact Nat.zero_le 2
      · exact Nat.zero_le 2
    unfold unvisited
    omega
  · have hnone : p.successors place t = [] := by
      unfold successors
      rw [Array.getElem?_eq_none (Nat.not_lt.mp hsize)]
    rw [hnone, List.length_nil, Nat.zero_add]
    exact Nat.mul_le_mul_left 2 Finset.card_erase_le

/-- Nothing is left to be spread. -/
theorem covers_nil (p : Program) (place : Place) (visited : Nat) (live : List Thread) :
    p.Covers place visited [] live {pc | visited.testBit pc = true} where
  kept := fun _ h => h
  given := nofun
  closed := fun pc hpc hnot => absurd (hpc.symm.trans hnot) (by decide)
  found := fun pc hpc hnot => absurd (hpc.symm.trans hnot) (by decide)

/-- **ALL INSTRUCTIONS ARE VISITED** that the threads come to, if there are enough steps. -/
theorem exists_covers (place : Place) {steps visited : Nat} {todo : List Thread}
    (h : todo.length + 2 * p.unvisited visited ≤ steps) :
    ∃ seen, p.Covers place visited todo (p.spread place steps todo visited) seen := by
  induction steps generalizing todo visited with
  | zero =>
      obtain rfl : todo = [] := List.length_eq_zero_iff.mp (by omega)
      exact ⟨_, covers_nil p place visited _⟩
  | succ steps ih =>
      cases todo with
      | nil => exact ⟨_, covers_nil p place visited _⟩
      | cons t rest =>
          rw [List.length_cons] at h
          rw [spread_cons]
          split
          case isTrue hvisited =>
            have hrest : rest.length + 2 * p.unvisited visited ≤ steps := by omega
            obtain ⟨seen, hkept, hgiven, hclosed, hfound⟩ := ih hrest
            exact ⟨seen, hkept, List.forall_mem_cons.mpr ⟨hkept _ hvisited, hgiven⟩, hclosed,
              hfound⟩
          case isFalse hvisited =>
            rw [Bool.not_eq_true] at hvisited
            have hpaid := successors_paid p place hvisited
            have hnext : (p.successors place t ++ rest).length +
                2 * p.unvisited (visited ||| 1 <<< t.pc) ≤ steps := by
              rw [List.length_append]
              omega
            obtain ⟨seen, hkept, hgiven, hclosed, hfound⟩ := ih hnext
            have hself : t.pc ∈ seen :=
              hkept _ (by rw [testBit_visit, decide_eq_true rfl, Bool.or_true])
            have hstill : ∀ pc, visited.testBit pc = false → pc ≠ t.pc →
                (visited ||| 1 <<< t.pc).testBit pc = false := fun pc hpc hne => by
              rw [testBit_visit, hpc, decide_eq_false hne, Bool.or_false]
            refine ⟨seen, fun pc hpc => hkept pc ?_, ?_, fun pc hseen hpc => ?_,
              fun pc hseen hpc hstops => ?_⟩
            · rw [testBit_visit, hpc, Bool.true_or]
            · exact List.forall_mem_cons.mpr
                ⟨hself, fun t' ht' => hgiven t' (List.mem_append_right _ ht')⟩
            · by_cases hpcs : pc = t.pc
              · subst hpcs
                intro pc' hpc'
                rw [← map_pc_successors] at hpc'
                obtain ⟨t', ht', rfl⟩ := List.mem_map.mp hpc'
                exact hgiven t' (List.mem_append_left _ ht')
              · exact hclosed pc hseen (hstill pc hpc hpcs)
            · by_cases hpcs : pc = t.pc
              · subst hpcs
                rw [if_pos hstops]
                exact ⟨t, List.mem_append_left _ List.mem_cons_self, rfl⟩
              · obtain ⟨t', ht', heq⟩ := hfound pc hseen (hstill pc hpc hpcs) hstops
                exact ⟨t', List.mem_append_right _ ht', heq⟩

/-- **SPREADING MISSES NOTHING**: where a way leads from a given thread to an instruction that reads
or ends, there is a thread. -/
theorem exists_mem_spread (place : Place) {todo : List Thread} {t : Thread} {pc : Nat}
    (ht : t ∈ todo) (hreach : p.Reaches place.before place.after t.pc pc) (hstops : p.stops pc = true) :
    ∃ t' ∈ p.spread place (p.spreadSteps todo.length) todo 0, t'.pc = pc := by
  have hsteps : todo.length + 2 * p.unvisited 0 ≤ p.spreadSteps todo.length := by
    have hcard : p.unvisited 0 ≤ p.code.size :=
      (Finset.card_filter_le _ _).trans_eq (Finset.card_range _)
    unfold spreadSteps
    omega
  obtain ⟨seen, -, hgiven, hclosed, hfound⟩ := exists_covers place hsteps
  have hseen : ∀ {pc'}, p.Reaches place.before place.after t.pc pc' → pc' ∈ seen := fun hreach => by
    induction hreach with
    | refl => exact hgiven t ht
    | tail _ hstep ih => exact hclosed _ ih (Nat.zero_testBit _) _ hstep
  exact hfound pc (hseen hreach) (Nat.zero_testBit _) hstops

end SparqlScalar.Pattern.Program
