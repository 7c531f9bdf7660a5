import SparqlScalar.Pattern.Tree.Bracket
import SparqlScalar.Text.Property.Later

/-!
# Reading patterns

The tree of a pattern is read from left to right. The open groups are kept on a list, each with what
stands before it, so that a step reads one part of the pattern and changes the innermost group only.
A text that is no pattern has no tree.
-/

namespace SparqlScalar.Pattern

/-- The branches of an open group, the latest one first, of which the last is still being read. -/
structure OpenBranches where
  finished : List Tree
  items : List Tree

namespace OpenBranches

/-- A group of which nothing has been read. -/
def start : OpenBranches := ⟨[], []⟩

/-- The same branches with one item more. -/
def add (level : OpenBranches) (item : Tree) : OpenBranches :=
  { level with items := item :: level.items }

/-- The same branches with the last one finished. -/
def branch (level : OpenBranches) : OpenBranches :=
  ⟨Tree.ofItems level.items.reverse :: level.finished, []⟩

/-- The tree of all branches. -/
def tree (level : OpenBranches) : Tree := Tree.ofBranches level.branch.finished.reverse

/-- The same branches with the last item repeated. Nothing can be repeated where there is no item,
or only a setting of flags. -/
def repeatLast? (level : OpenBranches) (least : Nat) (most : Option Nat) (greedy : Bool) :
    Option OpenBranches :=
  match level.items with
  | [] => none
  | .flags _ :: _ => none
  | item :: items => some { level with items := .repeated item least most greedy :: items }

end OpenBranches

/-- An open group: what it does, whether blanks count outside, and what stands before it. -/
structure OpenGroup where
  grouping : Grouping
  ignoringOutside : Bool
  outside : OpenBranches

/-- A pattern that is read in part. -/
structure Reading where
  level : OpenBranches
  groups : List OpenGroup
  ignoring : Bool
  names : List (List Char)

namespace Reading

/-- The same with one item more. -/
def add (r : Reading) (item : Tree) : Reading := { r with level := r.level.add item }

/-- The same within a new group. -/
def openGroup (r : Reading) (grouping : Grouping) (ignoring : Bool) : Reading :=
  { r with level := .start, groups := ⟨grouping, r.ignoring, r.level⟩ :: r.groups, ignoring }

/-- The same after the innermost group, if one is open. -/
def closeGroup? (r : Reading) : Option Reading :=
  match r.groups with
  | [] => none
  | group :: groups =>
    some { r with
      level := group.outside.add (.group group.grouping r.level.tree)
      groups, ignoring := group.ignoringOutside }

end Reading

/-- Reads flags up to a colon or a closing bracket, and tells whether it was a colon. No flag stands
twice, and a hyphen is followed by a flag. -/
def readFlags (change : FlagChange) (negating dangling : Bool) :
    List Char → Option (FlagChange × Bool × List Char)
  | [] => none
  | c :: rest =>
    if c = ':' ∨ c = ')' then
      if dangling then none else some (change, c == ':', rest)
    else if c = '-' then
      if negating then none else readFlags change true true rest
    else
      match Flag.ofChar? c with
      | none => none
      | some flag =>
        if change.on.contains flag || change.off.contains flag then none
        else if negating then
          readFlags { change with off := flag :: change.off } negating false rest
        else readFlags { change with on := flag :: change.on } negating false rest

/-- Whether a character can start the name of a group. -/
def startsGroupName (c : Char) : Bool :=
  c == '_' || Property.within
    (Property.ranges (Property.Has.alphabetic ++ Property.Later.alphabetic)) c.toNat

/-- Whether a character can be in the name of a group after its start. -/
def continuesGroupName (c : Char) : Bool :=
  startsGroupName c || c == '.' || c == '[' || c == ']'
    || Property.within (Property.ranges
      (Property.Category.decimalNumber ++ Property.Category.letterNumber
        ++ Property.Category.otherNumber ++ Property.Later.numeric)) c.toNat

/-- Reads the name of a group up to the bracket that closes it. -/
def readGroupName (text : List Char) : Option (List Char × List Char) :=
  match text.takeWhile (· != '>'), text.dropWhile (· != '>') with
  | c :: name, _ :: rest =>
    if startsGroupName c && name.all continuesGroupName then some (c :: name, rest) else none
  | _, _ => none

namespace Reading

/-- Opens a group with a name that no other group has. -/
def openNamed (r : Reading) (text : List Char) : Option (Reading × List Char) := do
  let (name, rest) ← readGroupName text
  if r.names.contains name then none
  else return ({ r.openGroup .kept r.ignoring with names := name :: r.names }, rest)

/-- Reads what follows an opening bracket: a group or a setting of flags. -/
def stepGroup (r : Reading) (text : List Char) : Option (Reading × List Char) :=
  match skip r.ignoring text with
  | '?' :: 'P' :: '<' :: rest => r.openNamed rest
  | '?' :: '<' :: rest => r.openNamed rest
  | '?' :: rest =>
    match readFlags ⟨[], []⟩ false false rest with
    | none => none
    | some (change, grouping, rest) =>
      let ignoring := change.apply .ignoreBlank r.ignoring
      if grouping then some (r.openGroup (.changed change) ignoring, rest)
      else if change = ⟨[], []⟩ then none
      else some ({ r.add (.flags change) with ignoring }, rest)
  | text => some (r.openGroup .kept r.ignoring, text)

/-- Repeats the last item; a question mark makes it match as little as possible. -/
def stepRepeat (r : Reading) (least : Nat) (most : Option Nat) (text : List Char) :
    Option (Reading × List Char) :=
  let (greedy, rest) :=
    match text with
    | '?' :: rest => (false, rest)
    | text => (true, text)
  (r.level.repeatLast? least most greedy).map fun level => ({ r with level }, rest)

/-- Reads one part of a pattern that starts with a character. -/
def step (r : Reading) (c : Char) (rest : List Char) : Option (Reading × List Char) :=
  match c with
  | '(' => r.stepGroup rest
  | ')' => r.closeGroup?.map fun r => (r, rest)
  | '|' => some ({ r with level := r.level.branch }, rest)
  | '[' => (readClass r.ignoring rest).map fun (tree, rest) => (r.add tree, rest)
  | '?' => r.stepRepeat 0 (some 1) rest
  | '*' => r.stepRepeat 0 none rest
  | '+' => r.stepRepeat 1 none rest
  | '{' =>
    match readBounds r.ignoring rest with
    | some ((least, most), rest) => r.stepRepeat least most (skip r.ignoring rest)
    | none => none
  | '\\' => (readEscape r.ignoring rest).map fun (atom, rest) => (r.add atom.toTree, rest)
  | '.' => some (r.add .dot, rest)
  | '^' => some (r.add (.assertion .lineStart), rest)
  | '$' => some (r.add (.assertion .lineEnd), rest)
  | c => some (r.add (.char ⟨c, false⟩), rest)

/-- Reads the rest of a pattern. Each step reads at least one character, so their number is
enough. -/
def finish? : Nat → Reading → List Char → Option Tree
  | 0, _, _ => none
  | steps + 1, r, text =>
    match skip r.ignoring text with
    | [] => if r.groups.isEmpty then some r.level.tree else none
    | c :: rest =>
      match r.step c rest with
      | some (r, rest) => finish? steps r rest
      | none => none

end Reading

/-- The tree of a pattern, if the text is one and is not too deep. Whether blanks count at its start
is given. -/
def Tree.ofText? (ignoring : Bool) (text : List Char) : Option Tree := do
  let tree ← Reading.finish? (text.length + 1) ⟨.start, [], ignoring, []⟩ text
  if tree.depth ≤ depthLimit then return tree else none

end SparqlScalar.Pattern
