import SparqlScalar.Pattern.Named

/-!
# Patterns as written

The tree of a pattern as its text gives it, before its flags are applied: a class is still a list of
what stands in its brackets, and a setting of flags is an item among others.
-/

namespace SparqlScalar.Pattern

/-- A switch that changes what the text after it means. -/
inductive Flag where
  | ignoreCase
  | multiLine
  | dotAll
  | swapGreed
  | unicode
  | carriageReturn
  | ignoreBlank
deriving DecidableEq, Repr

namespace Flag

/-- The flag of a letter. -/
def ofChar? : Char → Option Flag
  | 'i' => some .ignoreCase
  | 'm' => some .multiLine
  | 's' => some .dotAll
  | 'U' => some .swapGreed
  | 'u' => some .unicode
  | 'R' => some .carriageReturn
  | 'x' => some .ignoreBlank
  | _ => none

end Flag

/-- Flags that are switched on, and flags that are switched off. -/
structure FlagChange where
  on : List Flag
  off : List Flag
deriving DecidableEq, Repr

/-- The state of a flag after a change, given the state before it. -/
def FlagChange.apply (change : FlagChange) (flag : Flag) (before : Bool) : Bool :=
  if change.on.contains flag then true
  else if change.off.contains flag then false
  else before

/-- What a place in a text has to be. -/
inductive Assertion where
  | lineStart
  | lineEnd
  | textStart
  | textEnd
  | wordBoundary
  | notWordBoundary
  | wordStart
  | wordEnd
  | halfStart
  | halfEnd
deriving DecidableEq, Repr

/-- A character as written. -/
structure Written where
  char : Char
  /-- Written with two hexadecimal digits, so that it can also mean a byte. -/
  asByte : Bool
deriving DecidableEq, Repr

/-- The operations on the contents of a class. -/
inductive SetOperator where
  | meet
  | difference
  | symmetricDifference
deriving DecidableEq, Repr

/-- A property as written: by one name, or by a name and a value. -/
structure WrittenProperty where
  name : List Char
  value : Option (List Char)
deriving DecidableEq, Repr

/-- The contents of a class. -/
inductive ClassTree where
  | empty
  | char (c : Written)
  | range (low high : Written)
  | ascii (negated : Bool) (ranges : Property.Ranges)
  | letter (negated : Bool) (letter : LetterClass)
  | property (negated : Bool) (property : WrittenProperty)
  | nested (negated : Bool) (inner : ClassTree)
  | both (left right : ClassTree)
  | combined (operator : SetOperator) (left right : ClassTree)

/-- How many levels a class adds: each pair of brackets, each operator, and each list of more than
one item. -/
def ClassTree.depth : ClassTree → Nat
  | .nested _ inner => inner.depth + 1
  | .both .empty item => item.depth
  | .both (.both .empty first) item => max first.depth item.depth + 1
  | .both items item => max items.depth (item.depth + 1)
  | .combined _ left right => max left.depth right.depth + 1
  | _ => 0

/-- What the brackets of a group do. -/
inductive Grouping where
  /-- What the group matches is kept. -/
  | kept
  /-- The group has flags of its own. -/
  | changed (change : FlagChange)

/-- A pattern as written. -/
inductive Tree where
  | char (c : Written)
  | dot
  | assertion (assertion : Assertion)
  | letter (negated : Bool) (letter : LetterClass)
  | property (negated : Bool) (property : WrittenProperty)
  | bracketed (negated : Bool) (inner : ClassTree)
  | flags (change : FlagChange)
  | group (grouping : Grouping) (inner : Tree)
  | repeated (inner : Tree) (least : Nat) (most : Option Nat) (greedy : Bool)
  | seq (items : List Tree)
  | alt (branches : List Tree)

/-- Items one after the other; a single one stands for itself. -/
def Tree.ofItems : List Tree → Tree
  | [item] => item
  | items => .seq items

/-- Branches to choose from; a single one stands for itself. -/
def Tree.ofBranches : List Tree → Tree
  | [branch] => branch
  | branches => .alt branches

mutual

/-- How many levels of groups, repetitions, sequences, choices and classes a pattern has. -/
def Tree.depth : Tree → Nat
  | .bracketed _ inner => inner.depth + 1
  | .group _ inner => inner.depth + 1
  | .repeated inner _ _ _ => inner.depth + 1
  | .seq items => if items.isEmpty then 0 else Tree.depthOfAll items + 1
  | .alt branches => Tree.depthOfAll branches + 1
  | _ => 0

/-- The depth of the deepest of some patterns. -/
def Tree.depthOfAll : List Tree → Nat
  | [] => 0
  | tree :: rest => max tree.depth (Tree.depthOfAll rest)

end

/-- How many levels a pattern may have. -/
def depthLimit : Nat := 250

end SparqlScalar.Pattern
