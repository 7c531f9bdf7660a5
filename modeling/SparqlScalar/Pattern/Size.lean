import Std.Data.HashMap
import SparqlScalar.Pattern.Opening

/-!
# The size of a pattern

A pattern that takes too much memory is refused. What counts is the memory of the two automata over
bytes that match it, one that reads forward and one that reads backward. They are not built: it is
enough to count their states and what the states list. A pattern that is searched for by a few texts
alone takes no memory.
-/

namespace SparqlScalar.Pattern

/-- An automaton as far as its size goes: the number of its states, and how many bytes they list. -/
structure Tally where
  states : Nat
  listed : Nat
deriving DecidableEq, Repr

namespace Tally

/-- The bytes that a state takes besides what it lists. -/
def stateSize : Nat := 32

/-- The bytes of a listed range of bytes with the state that it leads to. -/
def spanSize : Nat := 8

/-- The bytes of a listed state. -/
def branchSize : Nat := 4

/-- The bytes that an automaton takes. -/
def size (t : Tally) : Nat := stateSize * t.states + t.listed

/-- An automaton with more states and more that they list, if it is small enough. -/
def add? (limit states listed : Nat) (t : Tally) : Option Tally :=
  let t : Tally := ⟨t.states + states, t.listed + listed⟩
  if t.size ≤ limit then some t else none

end Tally

/-- A way to make a part of an automaton. A part that ends at a state with branches takes one branch
more to be left. -/
abbrev Growth := Tally → Option (Tally × Bool)

namespace Growth

open Tally

/-- Adds states that list some bytes. -/
def states (limit count listed : Nat) : Growth := fun t =>
  (t.add? limit count listed).map fun t => (t, false)

/-- Leaves a part. -/
def leave (limit : Nat) (branching : Bool) (t : Tally) : Option Tally :=
  if branching then t.add? limit 0 branchSize else some t

/-- Adds a part after another one. -/
def after (limit : Nat) (part : Growth) (before : Tally × Bool) : Option (Tally × Bool) := do
  let (t, branching) ← part before.1
  return (← leave limit before.2 t, branching)

/-- Adds a number of copies of a part after another one. -/
def copiesAfter (limit : Nat) (part : Growth) : Nat → Tally × Bool → Option (Tally × Bool)
  | 0, before => some before
  | n + 1, before =>
    match after limit part before with
    | none => none
    | some done => copiesAfter limit part n done

/-- Parts one after the other. -/
def chain (limit : Nat) : List Growth → Growth
  | [] => states limit 1 0
  | first :: rest => fun t => do
    rest.foldlM (fun before part => after limit part before) (← first t)

/-- A number of copies of a part. -/
def copies (limit : Nat) (part : Growth) : Nat → Growth
  | 0 => states limit 1 0
  | n + 1 => fun t => do copiesAfter limit part n (← part t)

/-- A part that is a branch of a choice: the choice lists it, and it is left for the end. -/
def branch (limit : Nat) (part : Growth) (t : Tally) : Option Tally := do
  let (t, branching) ← part t
  leave limit branching (← t.add? limit 0 branchSize)

/-- Parts to choose from. The choice and its end are made after the first two. -/
def choice (limit : Nat) : List Growth → Growth
  | [] => states limit 1 0
  | [part] => part
  | first :: second :: rest => fun t => do
    let t ← branch limit first t
    let t ← branch limit second t
    let t ← t.add? limit 2 0
    return (← rest.foldlM (fun t part => branch limit part t) t, false)

/-- A part that may be left out. -/
def optional (limit : Nat) (part : Growth) : Growth := fun t => do
  let t ← t.add? limit 1 branchSize
  let t ← branch limit part t
  return (← t.add? limit 1 0, false)

/-- Up to a number of copies of a part, each of which can be the last, after a part. -/
def upToAfter (limit : Nat) (part : Growth) : Nat → Tally × Bool → Option (Tally × Bool)
  | 0, before => some before
  | n + 1, before =>
    match (before.1.add? limit 1 (2 * branchSize)).bind part with
    | none => none
    | some (t, branching) =>
      match leave limit before.2 t with
      | none => none
      | some t => upToAfter limit part n (t, branching)

/-- Any number of copies of a part, given whether each of them has characters. -/
def star (limit : Nat) (consuming : Bool) (part : Growth) : Growth := fun t => do
  if consuming then
    let t ← t.add? limit 1 0
    return (← branch limit part t, true)
  else
    let t ← branch limit part t
    return (← t.add? limit 3 (3 * branchSize), false)

/-- A number of copies of a part and any number more. -/
def plus (limit : Nat) (part : Growth) (count : Nat) : Growth := fun t => do
  let before ← copiesAfter limit part (count - 1) (← part t)
  let t ← leave limit before.2 before.1
  return (← t.add? limit 1 branchSize, true)

/-- Copies of a part between two numbers. -/
def repeated (limit : Nat) (consuming : Bool) (part : Growth) (least : Nat) (most : Option Nat) :
    Growth :=
  match most with
  | none => if least = 0 then star limit consuming part else plus limit part least
  | some most =>
    if least = 0 ∧ most = 1 then optional limit part
    else if least = most then copies limit part least
    else fun t => do
      let before ← copies limit part least t
      let t ← before.1.add? limit 1 0
      let (t, branching) ← upToAfter limit part (most - least) (t, before.2)
      return (← leave limit branching t, false)

end Growth

/-! ## Sets -/

namespace Growth

open Tally

/-- A number for a list of numbers that tells most lists apart. -/
def digest (numbers : List UInt64) : UInt64 :=
  numbers.foldl (fun h n => (h ^^^ n) * 1099511628211) 14695981039346656037

/-- States that were made for a set, each with what it was made for. There are only so many places,
and a new state takes the place of an old one. -/
structure Known (α : Type) where
  places : Std.HashMap UInt64 (α × Nat)

/-- A range of bytes with the state that it leads to. -/
structure Arrow where
  span : Utf8.Span
  target : Nat
deriving DecidableEq

/-- The place of a state that lists arrows. -/
def placeOfArrows (arrows : List Arrow) : UInt64 :=
  digest (arrows.flatMap fun a =>
    [a.span.low.toUInt64, a.span.high.toUInt64, UInt64.ofNat a.target]) % 10000

/-- The place of a state before another one. -/
def placeOfArrow (a : Arrow) : UInt64 :=
  digest [UInt64.ofNat a.target, a.span.low.toUInt64, a.span.high.toUInt64] % 1000

/-- An automaton with the states that are known in it. -/
abbrev Knowing (α : Type) := Tally × Known α

/-- The state for something, which is a new one if none is known. -/
def stateFor? {α : Type} [DecidableEq α] (limit listed : Nat) (place : UInt64) (purpose : α)
    (k : Knowing α) : Option (Nat × Knowing α) :=
  let (t, known) := k
  let found :=
    known.places[place]?.bind fun (other, state) => if other = purpose then some state else none
  match found with
  | some state => some (state, k)
  | none =>
    (t.add? limit 1 listed).map fun grown =>
      (t.states, grown, ⟨known.places.insert place (purpose, t.states)⟩)

/-- The first bytes of blocks that are still open: what is listed already, and the range that leads
on to the next one. -/
structure Open where
  arrows : List Arrow
  last : Option Utf8.Span

/-- A list that is open for the first time. -/
def Open.start (span : Utf8.Span) : Open := ⟨[], some span⟩

/-- What is listed once it is known where the last range leads. -/
def Open.closed (o : Open) (target : Nat) : List Arrow :=
  o.arrows ++ (o.last.map fun span => ⟨span, target⟩).toList

/-- Closes open lists, of which the first leads to the second and so on; gives the state of the
first. -/
def close? (limit target : Nat) : List Open → Knowing (List Arrow) →
    Option (Nat × Knowing (List Arrow))
  | [], k => some (target, k)
  | o :: deeper, k => do
    let (next, k) ← close? limit target deeper k
    let arrows := o.closed next
    stateFor? limit (spanSize * arrows.length) (placeOfArrows arrows) arrows k

/-- Adds a block. It shares the open lists that its first bytes have in common with the block
before; the others are closed. -/
def addBlock? (limit target : Nat) : List Utf8.Span → List Open → Knowing (List Arrow) →
    Option (List Open × Knowing (List Arrow))
  | [], opened, k => some (opened, k)
  | spans, [], k => some (spans.map Open.start, k)
  | span :: spans, o :: deeper, k =>
    if o.last = some span then do
      let (deeper, k) ← addBlock? limit target spans deeper k
      return (o :: deeper, k)
    else do
      let (next, k) ← close? limit target deeper k
      return (⟨o.closed next, some span⟩ :: spans.map Open.start, k)

/-- The states that match a character of a set forward. -/
def setForward (limit : Nat) (blocks : List (List Utf8.Span)) : Growth := fun t => do
  let target := t.states
  let t ← t.add? limit 1 0
  let (opened, k) ← blocks.foldlM
    (fun (opened, k) spans => addBlock? limit target spans opened k) ([⟨[], none⟩], (t, ⟨∅⟩))
  let (_, t, _) ← close? limit target opened k
  return (t, false)

/-- The states that match a block backward, before a state; gives the one to start at. -/
def blockBackward? (limit : Nat) : List Utf8.Span → Nat → Knowing Arrow →
    Option (Nat × Knowing Arrow)
  | [], target, k => some (target, k)
  | span :: spans, target, k => do
    let arrow : Arrow := ⟨span, target⟩
    let (state, k) ← stateFor? limit 0 (placeOfArrow arrow) arrow k
    blockBackward? limit spans state k

/-- The states that match a character of a set backward: a choice between its blocks. -/
def setBackward (limit : Nat) (blocks : List (List Utf8.Span)) : Growth := fun t => do
  let target := t.states + 1
  let t ← t.add? limit 2 (branchSize * blocks.length)
  let (t, _) ← blocks.foldlM
    (fun k spans => (blockBackward? limit spans target k).map Prod.snd) (t, ⟨∅⟩)
  return (t, false)

/-- The states that match a character of a set. ASCII characters need one state for all. -/
def set (limit : Nat) (backward : Bool) (s : CharSet) : Growth :=
  if s.isAscii then states limit 2 (spanSize * s.ranges.length)
  else
    let blocks := s.ranges.flatMap Utf8.sequences
    if backward then setBackward limit blocks else setForward limit blocks

end Growth

/-! ## Choices of texts -/

namespace Growth

open Tally

/-- Texts by their first bytes, each with what follows them. -/
def byFirst (texts : List (List UInt8)) : List (UInt8 × List (List UInt8)) :=
  texts.foldl (fun groups text =>
    match text with
    | [] => groups
    | b :: rest =>
      if groups.any fun group => group.1 = b then
        groups.map fun group => if group.1 = b then (b, group.2 ++ [rest]) else group
      else groups ++ [(b, [rest])]) []

/-- The texts between empty ones. -/
def runs : List (List UInt8) → List (List (List UInt8))
  | [] => [[]]
  | text :: rest =>
    match runs rest with
    | [] => [[text]]
    | run :: later => if text.isEmpty then [] :: run :: later else (text :: run) :: later

/-- The states that match one of some texts, where texts that start equally share states, as a
number with what they list. No text is longer than a number. An empty text ends the match; after it
those that come later are kept apart. -/
def shared : Nat → List (List UInt8) → Nat × Nat
  | 0, _ => (0, 0)
  | depth + 1, texts =>
    let groups := (runs texts).map byFirst
    let ends := (runs (texts.dropWhile List.isEmpty)).length - 1
      + (if texts.head?.any List.isEmpty then 1 else 0)
    let full := groups.filter fun group => !group.isEmpty
    let own := full.foldl
      (fun listed group => listed + if group.length = 1 then 0 else spanSize * group.length) 0
    let deeper := (full.flatten.map Prod.snd).filter fun texts => !texts.all List.isEmpty
    deeper.foldl
      (fun (states, listed) texts =>
        let (states', listed') := shared depth texts
        (states + states', listed + listed'))
      (full.length + 1, own + branchSize * (full.length + ends))

/-- The states that match one of some texts. -/
def texts (limit : Nat) (backward : Bool) (choices : List (List Char)) : Growth :=
  let choices := choices.map fun chars =>
    if backward then (Utf8.bytes chars).reverse else Utf8.bytes chars
  let longest := choices.foldl (fun n text => max n text.length) 0
  let (count, listed) := shared (longest + 1) choices
  states limit (count + 1) listed

end Growth

namespace Regex

mutual

/-- The least number of characters of a match. It is missing where the expression has a part that
matches nothing. -/
def leastWidth? : Regex → Option Nat
  | .empty => some 0
  | .text chars => some chars.length
  | .set s => if s.ranges.isEmpty then none else some 1
  | .look _ => some 0
  | .group _ inner => inner.leastWidth?
  | .repeated inner least _ _ => inner.leastWidth?.map (least * ·)
  | .seq items => leastWidthOfAll? items
  | .alt branches => leastWidthOfAny? branches

/-- The least number of characters of matches of some expressions in a row. -/
def leastWidthOfAll? : List Regex → Option Nat
  | [] => some 0
  | r :: rest => do return (← r.leastWidth?) + (← leastWidthOfAll? rest)

/-- The least number of characters of a match of one of some expressions. -/
def leastWidthOfAny? : List Regex → Option Nat
  | [] => none
  | [r] => r.leastWidth?
  | r :: rest => do return min (← r.leastWidth?) (← leastWidthOfAny? rest)

end

/-- Whether every match has characters, as far as is known. -/
def alwaysConsumes (r : Regex) : Bool := r.leastWidth?.any (0 < ·)

mutual

/-- Whether every match starts where an assertion holds, or ends there. -/
def isBoundBy (look : Look) (atEnd : Bool) : Regex → Bool
  | .empty => false
  | .text _ => false
  | .set _ => false
  | .look l => l == look
  | .group _ inner => isBoundBy look atEnd inner
  | .repeated inner least _ _ => least ≠ 0 && isBoundBy look atEnd inner
  | .seq items =>
    if atEnd then isLastBoundBy look items else isFirstBoundBy look items
  | .alt branches => areBoundBy look atEnd branches

/-- Whether matches in a row start where an assertion holds. -/
def isFirstBoundBy (look : Look) : List Regex → Bool
  | [] => false
  | r :: rest => isBoundBy look false r || (!r.consumes && isFirstBoundBy look rest)

/-- Whether matches in a row end where an assertion holds. -/
def isLastBoundBy (look : Look) : List Regex → Bool
  | [] => false
  | r :: rest =>
    isLastBoundBy look rest || (!anyConsumes rest && isBoundBy look true r)

/-- Whether the matches of each of some expressions start where an assertion holds, or end there. -/
def areBoundBy (look : Look) (atEnd : Bool) : List Regex → Bool
  | [] => true
  | r :: rest => isBoundBy look atEnd r && areBoundBy look atEnd rest

end

mutual

/-- The part of an automaton for an expression. Groups are kept forward only. -/
def growth (limit : Nat) (backward : Bool) : Regex → Growth
  | .empty => Growth.states limit 1 0
  | .text chars => Growth.states limit (Utf8.width chars) 0
  | .set s => Growth.set limit backward s
  | .look _ => Growth.states limit 1 0
  | .group _ inner =>
    if backward then inner.growth limit backward
    else Growth.chain limit
      [Growth.states limit 1 0, inner.growth limit backward, Growth.states limit 1 0]
  | .repeated inner least most _ =>
    Growth.repeated limit inner.alwaysConsumes (inner.growth limit backward) least most
  | .seq items =>
    let parts := growths limit backward items
    Growth.chain limit (if backward then parts.reverse else parts)
  | .alt branches =>
    match branches.mapM text? with
    | some choices => Growth.texts limit backward choices
    | none => Growth.choice limit (growths limit backward branches)

/-- The parts of an automaton for some expressions. -/
def growths (limit : Nat) (backward : Bool) : List Regex → List Growth
  | [] => []
  | r :: rest => r.growth limit backward :: growths limit backward rest

end

/-- The automaton of a pattern that reads forward or backward, if it is small enough. Where a match
need not be at the bound of the text it reads anything before the match. -/
def automaton? (limit : Nat) (backward : Bool) (r : Regex) : Option Tally := do
  let bound := if backward then r.isBoundBy .textEnd true else r.isBoundBy .textStart false
  let t : Tally := ⟨0, 0⟩
  let t ←
    if bound then t.add? limit 1 0
    else t.add? limit 3 (Tally.spanSize + 2 * Tally.branchSize)
  let whole := if backward then r else .group 0 r
  let (t, _) ← Growth.chain limit [whole.growth limit backward, Growth.states limit 1 0] t
  return t

/-- Whether a pattern can be used under a limit in bytes. -/
def fits (r : Regex) (limit : Nat) : Bool :=
  r.isPlain || ((r.automaton? limit false).isSome && (r.automaton? limit true).isSome)

end Regex

end SparqlScalar.Pattern
