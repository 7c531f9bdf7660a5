import SparqlScalar.Pattern.Tree.Escape

/-!
# Classes in brackets

A class is a list of characters, ranges and named sets in brackets. It may hold classes, and its
contents may be combined by operators of equal rank. The reader keeps the open brackets on a list,
innermost first.
-/

namespace SparqlScalar.Pattern

/-- An open bracket: what stands before an operator, and what was read since. -/
structure OpenClass where
  negated : Bool
  before : Option (SetOperator × ClassTree)
  items : ClassTree

namespace OpenClass

/-- The same bracket with one item more. -/
def add (level : OpenClass) (item : ClassTree) : OpenClass :=
  { level with items := .both level.items item }

/-- All that was read in a bracket. -/
def contents (level : OpenClass) : ClassTree :=
  match level.before with
  | some (operator, left) => .combined operator left level.items
  | none => level.items

/-- The same bracket after an operator. -/
def operate (level : OpenClass) (operator : SetOperator) : OpenClass :=
  ⟨level.negated, some (operator, level.contents), .empty⟩

end OpenClass

/-- Reads the start of a class after its bracket: a negation, hyphens that stand for themselves, and
a closing bracket that does, since no class is written empty. -/
def readOpening (ignoring : Bool) (text : List Char) : Option (OpenClass × List Char) :=
  let (negated, text) :=
    match skip ignoring text with
    | '^' :: rest => (true, skip ignoring rest)
    | text => (false, text)
  let (hyphens, text) := gatherAll ignoring (· == '-') text
  let level : OpenClass :=
    hyphens.foldl (fun level c => level.add (.char ⟨c, false⟩)) ⟨negated, none, .empty⟩
  match hyphens, text with
  | _, [] => none
  | [], ']' :: rest => some (level.add (.char ⟨']', false⟩), rest)
  | _, text => some (level, text)

/-- Reads a class of ASCII characters after its first bracket. -/
def readAsciiClass : List Char → Option (ClassTree × List Char)
  | ':' :: rest =>
    let (negated, rest) :=
      match rest with
      | '^' :: rest => (true, rest)
      | rest => (false, rest)
    match rest.dropWhile (· != ':') with
    | ':' :: ']' :: after =>
      (asciiClass? (rest.takeWhile (· != ':'))).map fun ranges => (.ascii negated ranges, after)
    | _ => none
  | _ => none

/-- Reads one character or named set in a class. -/
def readMember (ignoring : Bool) : List Char → Option (Atom × List Char)
  | '\\' :: rest => readEscape ignoring rest
  | c :: rest => some (.plain c, rest)
  | [] => none

/-- The first character after a hyphen that counts. -/
def afterHyphen (ignoring : Bool) (text : List Char) : Option Char :=
  if ignoring then
    match text.dropWhile isBlankChar with
    | '#' :: rest => (rest.dropWhile isBlankChar).head?
    | text => text.head?
  else text.head?

/-- Reads a member of a class, or a range of characters. A hyphen before the closing bracket or
before another hyphen makes no range. -/
def readRange (ignoring : Bool) (text : List Char) : Option (ClassTree × List Char) := do
  let (first, text) ← readMember ignoring text
  match skip ignoring text with
  | '-' :: rest =>
    let next := afterHyphen ignoring rest
    if next = some ']' ∨ next = some '-' then
      return (← first.toClass?, '-' :: rest)
    else
      let (last, rest) ← readMember ignoring (skip ignoring rest)
      let low ← first.char?
      let high ← last.char?
      if low.char ≤ high.char then return (.range low high, rest) else none
  | text => return (← first.toClass?, text)

/-- The operator that a text starts with, and the rest. -/
def setOperator? : List Char → Option (SetOperator × List Char)
  | '&' :: '&' :: rest => some (.meet, rest)
  | '-' :: '-' :: rest => some (.difference, rest)
  | '~' :: '~' :: rest => some (.symmetricDifference, rest)
  | _ => none

/-- Reads the rest of a class whose open brackets are on a list, innermost first. Each step reads at
least one character, so their number is enough. -/
def readClassFrom (ignoring : Bool) :
    Nat → OpenClass → List OpenClass → List Char → Option (Tree × List Char)
  | 0, _, _, _ => none
  | steps + 1, level, outer, text =>
    match skip ignoring text with
    | [] => none
    | '[' :: rest =>
      match readAsciiClass rest with
      | some (item, rest) => readClassFrom ignoring steps (level.add item) outer rest
      | none =>
        match readOpening ignoring rest with
        | some (inner, rest) => readClassFrom ignoring steps inner (level :: outer) rest
        | none => none
    | ']' :: rest =>
      match outer with
      | [] => some (.bracketed level.negated level.contents, rest)
      | next :: outer =>
        readClassFrom ignoring steps (next.add (.nested level.negated level.contents)) outer rest
    | text =>
      match setOperator? text with
      | some (operator, rest) => readClassFrom ignoring steps (level.operate operator) outer rest
      | none =>
        match readRange ignoring text with
        | some (item, rest) => readClassFrom ignoring steps (level.add item) outer rest
        | none => none

/-- Reads a class after its first bracket. -/
def readClass (ignoring : Bool) (text : List Char) : Option (Tree × List Char) := do
  let (level, rest) ← readOpening ignoring text
  readClassFrom ignoring (rest.length + 1) level [] rest

end SparqlScalar.Pattern
