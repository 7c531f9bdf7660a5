import SparqlScalar.Pattern.Tree.Basic

/-!
# Regular expressions

A pattern after its flags are applied: texts, sets of characters, assertions about places,
repetitions, numbered groups, sequences and choices. All that a flag decides is decided when the
tree of a pattern is turned into one of these. They are built in a simple form: no sequence stands
in a sequence and no choice in a choice, texts that meet are one text, sets to choose from are one
set, and what all branches of a choice start with stands before it.
-/

namespace SparqlScalar.Pattern

/-- What the word characters beside a place have to be. -/
inductive WordPlace where
  | boundary
  | noBoundary
  | start
  | stop
  | halfStart
  | halfStop
deriving DecidableEq, Repr

/-- Whether a place is as asked for, given whether there are word characters before and after it. -/
def WordPlace.holds : WordPlace → Bool → Bool → Bool
  | .boundary, before, after => before != after
  | .noBoundary, before, after => before == after
  | .start, before, after => !before && after
  | .stop, before, after => before && !after
  | .halfStart, before, _ => !before
  | .halfStop, _, after => !after

/-- What the characters beside a place have to be. -/
inductive Look where
  | textStart
  | textEnd
  | lineStart (carriageReturn : Bool)
  | lineEnd (carriageReturn : Bool)
  /-- The word characters are those of all scripts or of ASCII. -/
  | word (place : WordPlace) (unicode : Bool)
deriving DecidableEq, Repr

namespace Look

/-- Whether a place between two characters, of which either may be missing, is as asked for. -/
def holds (look : Look) (before after : Option Char) : Bool :=
  match look with
  | .textStart => before.isNone
  | .textEnd => after.isNone
  | .lineStart false => before.all (· == '\n')
  | .lineStart true =>
    before.all fun c => c == '\n' || (c == '\r' && after != some '\n')
  | .lineEnd false => after.all (· == '\n')
  | .lineEnd true =>
    after.all fun c => c == '\r' || (c == '\n' && before != some '\r')
  | .word place unicode =>
    let words := if unicode then LetterClass.word.set else LetterClass.word.asciiSet
    place.holds (before.any words.contains) (after.any words.contains)

end Look

/-- A regular expression. -/
inductive Regex where
  | empty
  /-- One text of at least one character. -/
  | text (chars : List Char)
  | set (s : CharSet)
  | look (look : Look)
  | group (index : Nat) (inner : Regex)
  | repeated (inner : Regex) (least : Nat) (most : Option Nat) (greedy : Bool)
  | seq (items : List Regex)
  | alt (branches : List Regex)

namespace Regex

mutual

/-- Whether two expressions are written equally. -/
def same : Regex → Regex → Bool
  | .empty, .empty => true
  | .text a, .text b => a == b
  | .set a, .set b => a == b
  | .look a, .look b => a == b
  | .group i a, .group j b => i == j && same a b
  | .repeated a least most greedy, .repeated b least' most' greedy' =>
    least == least' && most == most' && greedy == greedy' && same a b
  | .seq as, .seq bs => sameAll as bs
  | .alt as, .alt bs => sameAll as bs
  | _, _ => false

/-- Whether the expressions of two lists are written equally. -/
def sameAll : List Regex → List Regex → Bool
  | [], [] => true
  | a :: as, b :: bs => same a b && sameAll as bs
  | _, _ => false

end

mutual

/-- Whether a match can have characters. -/
def consumes : Regex → Bool
  | .empty => false
  | .text _ => true
  | .set _ => true
  | .look _ => false
  | .group _ inner => inner.consumes
  | .repeated inner _ _ _ => inner.consumes
  | .seq items => anyConsumes items
  | .alt branches => anyConsumes branches

/-- Whether a match of one of them can have characters. -/
def anyConsumes : List Regex → Bool
  | [] => false
  | r :: rest => r.consumes || anyConsumes rest

end

/-- The expression for the characters of a set. -/
def ofSet (s : CharSet) : Regex :=
  match s.only? with
  | some c => .text [c]
  | none => .set s

/-- A repetition. What matches no character is not repeated more than once, nothing is left of what
is repeated zero times, and what is repeated once stands for itself. -/
def times (inner : Regex) (least : Nat) (most : Option Nat) (greedy : Bool) : Regex :=
  let (least, most) :=
    if inner.consumes then (least, most) else (min least 1, some (min (most.getD 1) 1))
  if most = some 0 then .empty
  else if least = 1 ∧ most = some 1 then inner
  else .repeated inner least most greedy

/-- The items of an expression as a sequence. -/
def items : Regex → List Regex
  | .empty => []
  | .seq items => items
  | r => [r]

/-- An item before others, with which it is joined if both it and the first of them are texts. -/
def consItem (item : Regex) (later : List Regex) : List Regex :=
  match item, later with
  | .text a, .text b :: rest => .text (a ++ b) :: rest
  | item, later => item :: later

/-- Expressions one after the other. -/
def sequence (rs : List Regex) : Regex :=
  match (rs.flatMap items).foldr consItem [] with
  | [] => .empty
  | [r] => r
  | rs => .seq rs

/-- The branches of an expression as a choice. -/
def branches : Regex → List Regex
  | .alt branches => branches
  | r => [r]

/-- The character of an expression that stands for just one. -/
def char? : Regex → Option Char
  | .text [c] => some c
  | _ => none

/-- The set of an expression that is one. -/
def set? : Regex → Option CharSet
  | .set s => some s
  | _ => none

/-- Branches to choose from, of which none is a choice. Characters, and sets, make one set. -/
def gather (rs : List Regex) : Regex :=
  match rs with
  | [r] => r
  | rs =>
    match rs.mapM char? with
    | some chars => ofSet (.ofList chars)
    | none =>
      match rs.mapM set? with
      | some sets => ofSet (.ofRanges (sets.flatMap CharSet.ranges))
      | none => .alt rs

/-- How many items two sequences have in common at their start. -/
def commonItems : List Regex → List Regex → Nat
  | a :: as, b :: bs => if a.same b then commonItems as bs + 1 else 0
  | _, _ => 0

/-- The items of an expression that is a sequence of at least two. -/
def sequenceItems? : Regex → Option (List Regex)
  | .seq items => some items
  | _ => none

/-- A choice of sequences as what they have in common at their start and a choice of the rests. -/
def liftCommon? (rs : List Regex) : Option Regex :=
  match rs.mapM sequenceItems? with
  | some (first :: others) =>
    let shared := others.foldl (fun shared items => shared.take (commonItems shared items)) first
    if shared.isEmpty then none
    else
      let rests := (first :: others).map fun items => sequence (items.drop shared.length)
      some (sequence (shared ++ [gather (rests.flatMap branches)]))
  | _ => none

/-- Branches of which the first that matches is preferred. -/
def choice (rs : List Regex) : Regex :=
  match gather (rs.flatMap branches) with
  | .alt rs => (liftCommon? rs).getD (.alt rs)
  | r => r

end Regex

/-- The flags that are on. -/
abbrev Flags := List Flag

namespace Flags

/-- The flags after a change. -/
def change (flags : Flags) (change : FlagChange) : Flags :=
  change.on ++ flags.filter fun flag => !change.off.contains flag

/-- All characters like a member but for their case, if case is ignored. -/
def fold (flags : Flags) (s : CharSet) : CharSet :=
  if !flags.contains .ignoreCase then s
  else if flags.contains .unicode then .folded s
  else .foldedAscii s

/-- The set of a character as written. Without Unicode a byte beyond ASCII is none. -/
def charSet? (flags : Flags) (c : Written) : Option CharSet :=
  let beyondAscii := 128 ≤ c.char.toNat
  if flags.contains .unicode then
    some (if flags.contains .ignoreCase then .ofList (Case.alike c.char) else .single c.char)
  else if c.asByte && beyondAscii then none
  else
    some (if flags.contains .ignoreCase then .ofList (Case.alikeAscii c.char) else .single c.char)

/-- A set or its complement. Without Unicode a complement would have bytes that are no character. -/
def complementIf? (flags : Flags) (negated : Bool) (s : CharSet) : Option CharSet :=
  if negated && !flags.contains .unicode then none else some (s.complementIf negated)

/-- The set of a letter or its complement. -/
def letterSet? (flags : Flags) (negated : Bool) (letter : LetterClass) : Option CharSet :=
  flags.complementIf? negated (if flags.contains .unicode then letter.set else letter.asciiSet)

/-- The set of a property or its complement. Properties need Unicode. -/
def propertySet? (flags : Flags) (negated : Bool) (written : WrittenProperty) : Option CharSet := do
  if !flags.contains .unicode then none
  let s ← match written.value with
    | none => property? written.name
    | some value => propertyValue? written.name value
  return (flags.fold s).complementIf negated

/-- Whether a character can stand in a class. Without Unicode it has to be an ASCII one. -/
def allowsInClass (flags : Flags) (c : Written) : Bool :=
  flags.contains .unicode || c.char.toNat < 128

/-- The set of the contents of a class. -/
def classSet? (flags : Flags) : ClassTree → Option CharSet
  | .empty => some .empty
  | .char c => if flags.allowsInClass c then some (.single c.char) else none
  | .range low high =>
    if flags.allowsInClass low && flags.allowsInClass high then
      some (.between low.char high.char)
    else none
  | .ascii negated ranges => flags.complementIf? negated (flags.fold (.ofRanges ranges))
  | .letter negated letter => flags.letterSet? negated letter
  | .property negated written => flags.propertySet? negated written
  | .nested negated inner => do
    let s ← flags.classSet? inner
    flags.complementIf? negated (flags.fold s)
  | .both left right => do
    let s ← flags.classSet? left
    let t ← flags.classSet? right
    return s.union t
  | .combined operator left right => do
    let s := flags.fold (← flags.classSet? left)
    let t := flags.fold (← flags.classSet? right)
    return match operator with
      | .meet => s.meet t
      | .difference => s.difference t
      | .symmetricDifference => s.symmetricDifference t

/-- The characters that a dot stands for. Without Unicode it would stand for bytes. -/
def dotSet? (flags : Flags) : Option CharSet :=
  if !flags.contains .unicode then none
  else if flags.contains .dotAll then some .all
  else if flags.contains .carriageReturn then some (.complement (.ofRanges [(10, 10), (13, 13)]))
  else some (.complement (.single '\n'))

/-- What an assertion asks of a place. -/
def look (flags : Flags) (assertion : Assertion) : Look :=
  let word (place : WordPlace) : Look := .word place (flags.contains .unicode)
  let lines := flags.contains .multiLine
  let carriageReturn := flags.contains .carriageReturn
  match assertion with
  | .lineStart => if lines then .lineStart carriageReturn else .textStart
  | .lineEnd => if lines then .lineEnd carriageReturn else .textEnd
  | .textStart => .textStart
  | .textEnd => .textEnd
  | .wordBoundary => word .boundary
  | .notWordBoundary => word .noBoundary
  | .wordStart => word .start
  | .wordEnd => word .stop
  | .halfStart => word .halfStart
  | .halfEnd => word .halfStop

end Flags

/-- The flags at a place of a pattern, and how many groups are kept before it. -/
structure Scope where
  flags : Flags
  groups : Nat

mutual

/-- The regular expression of a tree, and the scope after it. -/
def Regex.ofTree? : Tree → Scope → Option (Regex × Scope)
  | .char c, scope => (scope.flags.charSet? c).map fun s => (.ofSet s, scope)
  | .dot, scope => scope.flags.dotSet?.map fun s => (.ofSet s, scope)
  | .assertion assertion, scope => some (.look (scope.flags.look assertion), scope)
  | .letter negated letter, scope =>
    (scope.flags.letterSet? negated letter).map fun s => (.ofSet s, scope)
  | .property negated written, scope =>
    (scope.flags.propertySet? negated written).map fun s => (.ofSet s, scope)
  | .bracketed negated inner, scope => do
    let s ← scope.flags.classSet? inner
    let s ← scope.flags.complementIf? negated (scope.flags.fold s)
    return (.ofSet s, scope)
  | .flags change, scope => some (.empty, { scope with flags := scope.flags.change change })
  | .group .kept inner, scope => do
    let index := scope.groups + 1
    let (r, after) ← Regex.ofTree? inner { scope with groups := index }
    return (.group index r, { after with flags := scope.flags })
  | .group (.changed change) inner, scope => do
    let (r, after) ← Regex.ofTree? inner { scope with flags := scope.flags.change change }
    return (r, { after with flags := scope.flags })
  | .repeated inner least most greedy, scope => do
    let (r, after) ← Regex.ofTree? inner scope
    return (r.times least most (greedy != scope.flags.contains .swapGreed), after)
  | .seq items, scope => do
    let (rs, after) ← Regex.ofTrees? items scope
    return (.sequence rs, after)
  | .alt branches, scope => do
    let (rs, after) ← Regex.ofTrees? branches scope
    return (.choice rs, after)

/-- The regular expressions of trees that stand one after the other. -/
def Regex.ofTrees? : List Tree → Scope → Option (List Regex × Scope)
  | [], scope => some ([], scope)
  | tree :: rest, scope => do
    let (r, scope) ← Regex.ofTree? tree scope
    let (rs, scope) ← Regex.ofTrees? rest scope
    return (r :: rs, scope)

end

end SparqlScalar.Pattern
