import SparqlScalar.Pattern.Regex
import SparqlScalar.Text.Commonness
import SparqlScalar.Text.Utf8

/-!
# Openings

What matches of an expression start with, as a list of texts in order of preference, as far as these
are few. Some openings are whole matches. A pattern whose matches are a few texts is searched for by
these alone (`Regex.isPlain`), unless it pays more to search for what they start with.
-/

namespace SparqlScalar.Pattern

/-- The bytes that a match starts with, and whether there are no more. -/
structure Opening where
  bytes : List UInt8
  whole : Bool
deriving DecidableEq, Repr

/-- The openings of an expression in order of preference. They are missing if there are too many. -/
abbrev Openings := Option (List Opening)

namespace Opening

/-- The most members of a set that are listed. -/
def setLimit : Nat := 10

/-- The most repetitions that are followed. -/
def repetitionLimit : Nat := 10

/-- The most bytes of an opening. -/
def lengthLimit : Nat := 100

/-- The most openings of an expression. -/
def choiceLimit : Nat := 250

/-- The opening that every text has. -/
def nothing : Opening := ⟨[], true⟩

/-- An opening that may have more after it. -/
def partly (o : Opening) : Opening := { o with whole := false }

/-- An opening cut after a number of bytes. -/
def cut (n : Nat) (o : Opening) : Opening :=
  if o.bytes.length ≤ n then o else ⟨o.bytes.take n, false⟩

/-- Openings without those that come right after the same bytes. Of two such openings what is left
is whole if both are. -/
def squeeze : List Opening → List Opening
  | [] => []
  | o :: rest =>
    match squeeze rest with
    | [] => [o]
    | next :: later =>
      if o.bytes = next.bytes then ⟨o.bytes, o.whole && next.whole⟩ :: later
      else o :: next :: later

/-- Each opening of the first list with each of the second after it. -/
def cross (firsts seconds : List Opening) : List Opening :=
  squeeze (firsts.flatMap fun a =>
    if a.whole then seconds.map fun b => ⟨a.bytes ++ b.bytes, b.whole⟩ else [a])

/-- Openings without those before which another one already comes that starts them. -/
def undominated (kept : List Opening) : List Opening → List Opening
  | [] => []
  | o :: rest =>
    if kept.any fun k => k.bytes.isPrefixOf o.bytes then undominated kept rest
    else o :: undominated (o :: kept) rest

/-- The number of bytes of the shortest opening. -/
def shortest? (os : List Opening) : Option Nat := (os.map fun o => o.bytes.length).min?

/-- How many bytes two texts have in common at their start. -/
def commonBytes : List UInt8 → List UInt8 → Nat
  | a :: as, b :: bs => if a = b then commonBytes as bs + 1 else 0
  | _, _ => 0

/-- What all openings start with. -/
def shared : List Opening → List UInt8
  | [] => []
  | o :: rest =>
    o.bytes.take (rest.foldl (fun n next => min n (commonBytes o.bytes next.bytes)) o.bytes.length)

/-- An opening that is found almost everywhere. -/
def isPoor (o : Opening) : Bool :=
  match o.bytes with
  | [] => true
  | [b] => 250 ≤ commonness b
  | _ => false

/-- Openings cut to fewer bytes for as long as they are too many. -/
def shorten (os : List Opening) : List Opening :=
  let steps := [(5, 10), (4, 10), (3, 64), (2, 64), (1, 10)]
  (steps.foldl (fun (os, busy) (keep, limit) =>
    if busy && limit < os.length then (undominated [] (os.map (cut keep)), true)
    else (os, false)) (os, true)).1

/-- What to search for in place of openings: what they all start with if that is rare or long, or
less of each if they are many. Whole matches stay as they are where this would leave short texts,
poor ones or too many. Nothing is left to search for where an opening is empty or poor. -/
def sought (os : List Opening) : Openings :=
  if os.any fun o => o.bytes.isEmpty then none
  else
    let count := os.length
    let os := undominated [] os
    let shared := shared os
    let length := shared.length
    let fast := os.length ≤ 16 && os.all Opening.whole
    if 1 < count && length ≤ 3 && shared.head?.any fun b => commonness b < 200 then
      some (squeeze (os.map (cut 1)))
    else
      let os :=
        if 4 < length || (1 < length && !fast) then squeeze (os.map (cut length)) else os
      let short := shorten os
      if os.all Opening.whole && ((shortest? short).all (· ≤ 2) || 64 < short.length
          || short.any isPoor) then some os
      else if short.any isPoor then none
      else some short

end Opening

namespace Openings

open Opening

/-- Whether no opening is whole, so that nothing can be added after one. -/
def isClosed (os : Openings) : Bool := os.all fun os => os.all fun o => !o.whole

/-- All openings as openings that may have more after them. -/
def partly (os : Openings) : Openings := os.map fun os => os.map Opening.partly

/-- Openings with others after them. -/
def followedBy (firsts seconds : Openings) : Openings :=
  match firsts with
  | none => none
  | some firsts =>
    let seconds := seconds.filter fun seconds => firsts.length * seconds.length ≤ choiceLimit
    match seconds with
    | some seconds => some ((cross firsts seconds).map (cut lengthLimit))
    | none =>
      if shortest? firsts = some 0 then none
      else some (firsts.map fun o => cut lengthLimit o.partly)

/-- The openings of either of two expressions, of which the first is preferred. If they are too
many, only their first bytes are kept. -/
def or (firsts seconds : Openings) : Openings := do
  let firsts ← firsts
  let seconds ← seconds
  if firsts.length + seconds.length ≤ choiceLimit then return squeeze (firsts ++ seconds)
  else
    let firsts := squeeze (firsts.map (cut 4))
    let seconds := squeeze (seconds.map (cut 4))
    if firsts.length + seconds.length ≤ choiceLimit then return squeeze (firsts ++ seconds)
    else none

/-- Openings after which the same openings come again, a number of times. -/
def again (os : Openings) : Nat → Openings → Openings
  | 0, before => before
  | n + 1, before => if before.isClosed then before else again os n (before.followedBy os)

end Openings

namespace Regex

mutual

/-- The openings of an expression. -/
def openings : Regex → Openings
  | .empty => some [.nothing]
  | .text chars => some [.cut Opening.lengthLimit ⟨Utf8.bytes chars, true⟩]
  | .set s => (s.few? Opening.setLimit).map fun chars => chars.map fun c => ⟨Utf8.bytes [c], true⟩
  | .look _ => some [.nothing]
  | .group _ inner => inner.openings
  | .repeated inner least most greedy =>
    let once := inner.openings
    if least = 0 then
      let once := if most = some 1 then once else once.partly
      if greedy then once.or (some [.nothing]) else (some [.nothing] : Openings).or once
    else
      let all := once.again (min least Opening.repetitionLimit) (some [.nothing])
      if most = some least ∧ least ≤ Opening.repetitionLimit then all else all.partly
  | .seq items => openingsOfAll items (some [.nothing])
  | .alt branches => openingsOfAny branches (some [])

/-- The openings of expressions one after the other, after given ones. -/
def openingsOfAll : List Regex → Openings → Openings
  | [], before => before
  | r :: rest, before =>
    if before.isClosed then before else openingsOfAll rest (before.followedBy r.openings)

/-- The openings of expressions to choose from, after given ones. -/
def openingsOfAny : List Regex → Openings → Openings
  | [], before => before
  | r :: rest, before => if before.isNone then none else openingsOfAny rest (before.or r.openings)

end

mutual

/-- Whether an expression has neither groups nor assertions. -/
def isBare : Regex → Bool
  | .empty => true
  | .text _ => true
  | .set _ => true
  | .look _ => false
  | .group _ _ => false
  | .repeated inner _ _ _ => inner.isBare
  | .seq items => areBare items
  | .alt branches => areBare branches

/-- Whether some expressions have neither groups nor assertions. -/
def areBare : List Regex → Bool
  | [] => true
  | r :: rest => r.isBare && areBare rest

end

/-- The text of an expression that is one. -/
def text? : Regex → Option (List Char)
  | .text chars => some chars
  | _ => none

/-- How many texts to choose from are always searched for alone. -/
def manyTexts : Nat := 3000

/-- Whether an expression is a choice of many texts. -/
def isManyTexts : Regex → Bool
  | .alt branches => manyTexts ≤ branches.length && branches.all fun r => r.text?.isSome
  | _ => false

/-- Whether the matches of an expression are found by a few texts alone. -/
def isPlain (r : Regex) : Bool :=
  r.isBare &&
    (r.isManyTexts ||
      match r.openings.bind fun openings => Opening.sought (Opening.squeeze openings) with
      | none => false
      | some sought => !sought.isEmpty && sought.all Opening.whole)

end Regex

end SparqlScalar.Pattern
