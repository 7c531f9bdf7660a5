import SparqlScalar.Pattern.Program

/-!
# Matches

A program is run by threads that all read the same character at a time, in order of preference. Of
two threads at the same instruction only the preferred one goes on, so the time is bounded by the
product of the lengths of program and text. The first match from the left wins, and of those that
start there the preferred one.
-/

namespace SparqlScalar.Pattern

/-- Where a match starts and how many characters it has, and where its groups start and end. All
places count from the start of the text that was searched. -/
structure Match where
  start : Nat
  width : Nat
  slots : List (Option Nat)
deriving DecidableEq, Repr

namespace Match

/-- Where a match ends. -/
def stop (m : Match) : Nat := m.start + m.width

/-- The part of a text from one place to another. -/
def slice (text : List Char) (start stop : Nat) : List Char := (text.drop start).take (stop - start)

/-- The text of a group, if it took part in the match. Group zero is the whole match. -/
def group? (m : Match) (text : List Char) : Nat → Option (List Char)
  | 0 => some ((text.drop m.start).take m.width)
  | n + 1 =>
    match m.slots[2 * n]?, m.slots[2 * n + 1]? with
    | some (some start), some (some stop) => some (slice text start stop)
    | _, _ => none

end Match

/-- A way through a program that is still open. -/
structure Thread where
  pc : Nat
  start : Nat
  slots : List (Option Nat)

/-- A place in a text, by its number and the characters beside it. -/
structure Place where
  before : Option Char
  after : Option Char
  position : Nat

namespace Program

/-- The threads that are reached from the given ones without reading a character, in order of
preference. Of each instruction only the first visit counts. -/
def spread (p : Program) (place : Place) : Nat → List Thread → Nat → List Thread
  | 0, _, _ => []
  | _, [], _ => []
  | steps + 1, t :: rest, visited =>
    if visited.testBit t.pc then p.spread place steps rest visited
    else
      let visited := visited ||| 1 <<< t.pc
      match p.code[t.pc]? with
      | none => p.spread place steps rest visited
      | some (.take _ _) => t :: p.spread place steps rest visited
      | some .accept => t :: p.spread place steps rest visited
      | some (.split first second) =>
        p.spread place steps ({ t with pc := first } :: { t with pc := second } :: rest) visited
      | some (.note slot next) =>
        p.spread place steps
          ({ t with pc := next, slots := t.slots.set slot (some place.position) } :: rest) visited
      | some (.look look next) =>
        if look.holds place.before place.after then
          p.spread place steps ({ t with pc := next } :: rest) visited
        else p.spread place steps rest visited

/-- How many steps are enough to spread a number of threads: no instruction is visited twice, and
none leads to more than two. -/
def spreadSteps (p : Program) (threads : Nat) : Nat := threads + 2 * p.code.size + 1

/-- Whether a thread is at the end of the program. -/
def accepts (p : Program) (t : Thread) : Bool :=
  match p.code[t.pc]? with
  | some .accept => true
  | _ => false

/-- A thread after it has read a character, if it can. -/
def advance (p : Program) (c : Char) (t : Thread) : Option Thread :=
  match p.code[t.pc]? with
  | some (.take s next) => if s.contains c then some { t with pc := next } else none
  | _ => none

/-- A thread that starts at a place. -/
def threadAt (p : Program) (position : Nat) : Thread :=
  ⟨p.start, position, List.replicate p.slots none⟩

/-- Searches the rest of a text, given the open threads, the best match so far, and the character
and the number of characters before. A thread starts at each place until there is a match; a match
closes all threads that are less preferred. -/
def search (p : Program) (threads : List Thread) (best : Option Match) (before : Option Char)
    (position : Nat) (text : List Char) : Option Match :=
  let todo := if best.isNone then threads ++ [p.threadAt position] else threads
  let live := p.spread ⟨before, text.head?, position⟩ (p.spreadSteps todo.length) todo 0
  let best :=
    match live.find? p.accepts with
    | some t => some ⟨t.start, position - t.start, t.slots⟩
    | none => best
  match text with
  | [] => best
  | c :: rest =>
    let running := (live.takeWhile fun t => !p.accepts t).filterMap (p.advance c)
    if best.isSome && running.isEmpty then best
    else p.search running best (some c) (position + 1) rest

/-- The first match in a text, given the character before it. -/
def find? (p : Program) (before : Option Char) (text : List Char) : Option Match :=
  p.search [] none before 0 text

/-- Whether there is a match in a text. -/
def isMatch (p : Program) (text : List Char) : Bool := (p.find? none text).isSome

/-- A text with each match replaced, given the character before it and whether a match has just
ended there. An empty match does not count right after another match. -/
def replaceFrom (p : Program) (replacement : List Char → Match → List Char) :
    Nat → Option Char → Bool → List Char → List Char
  | 0, _, _, text => text
  | steps + 1, before, matched, text =>
    match p.find? before text with
    | none => text
    | some m =>
      if m.stop = 0 ∧ matched then
        match text with
        | [] => []
        | c :: rest => c :: p.replaceFrom replacement steps (some c) false rest
      else
        text.take m.start ++ replacement text m ++
          p.replaceFrom replacement steps ((text.take m.stop).getLast?.or before) true
            (text.drop m.stop)

/-- A text with each match replaced. Each character is passed at most twice. -/
def replaceAll (p : Program) (replacement : List Char → Match → List Char) (text : List Char) :
    List Char :=
  p.replaceFrom replacement (2 * text.length + 2) none false text

end Program

end SparqlScalar.Pattern
