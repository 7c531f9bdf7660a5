import SparqlScalar.Pattern.Regex

/-!
# Matching programs

A regular expression as a list of instructions, each of which names those that come next. Of two
ways to go on, the first is tried first, so the program also says which match is preferred.
-/

namespace SparqlScalar.Pattern

/-- One instruction. -/
inductive Instruction where
  /-- Takes a character of a set. -/
  | take (s : CharSet) (next : Nat)
  | split (first second : Nat)
  /-- Notes the place where a group starts or ends. -/
  | note (slot next : Nat)
  | look (look : Look) (next : Nat)
  | accept

/-- The instructions of a program so far. -/
abbrev Instructions := Array Instruction

namespace Instructions

/-- Adds an instruction; gives its place. -/
def add (code : Instructions) (i : Instruction) : Nat × Instructions := (code.size, code.push i)

/-- A choice whose preferred way is the first when it is greedy. -/
def choice (greedy : Bool) (inside after : Nat) : Instruction :=
  if greedy then .split inside after else .split after inside

/-- Code in front of the instruction at a place; gives the place where it starts. -/
abbrev Block := Nat → Instructions → Nat × Instructions

/-- A number of copies of a block in a row. -/
def copies (block : Block) : Nat → Block
  | 0, next, code => (next, code)
  | n + 1, next, code =>
    let (next, code) := copies block n next code
    block next code

/-- Up to a number of copies of a block, each of which can be the last. -/
def upTo (block : Block) (greedy : Bool) : Nat → Block
  | 0, next, code => (next, code)
  | n + 1, next, code =>
    let (more, code) := upTo block greedy n next code
    let (inside, code) := block more code
    add code (choice greedy inside next)

/-- A text: each of its characters takes one. -/
def textBlock : List Char → Block
  | [], next, code => (next, code)
  | c :: rest, next, code =>
    let (next, code) := textBlock rest next code
    add code (.take (.single c) next)

/-- One or more runs of a block. -/
def atLeastOnce (block : Block) (greedy : Bool) (next : Nat) (code : Instructions) :
    Nat × Instructions :=
  let (again, code) := add code .accept
  let (inside, code) := block again code
  (inside, code.setIfInBounds again (choice greedy inside next))

/-- Runs of a block between two numbers. Any number of runs is no run or at least one. -/
def runs (block : Block) (least : Nat) (most : Option Nat) (greedy : Bool) : Block :=
  fun next code =>
    match most, least with
    | some most, least =>
      let (next', code) := upTo block greedy (most - least) next code
      copies block least next' code
    | none, 0 =>
      let (inside, code) := atLeastOnce block greedy next code
      add code (choice greedy inside next)
    | none, least + 1 =>
      let (next, code) := atLeastOnce block greedy next code
      copies block least next code

end Instructions

open Instructions in
mutual

/-- The code of an expression. -/
def Regex.block : Regex → Block
  | .empty => fun next code => (next, code)
  | .text chars => textBlock chars
  | .set s => fun next code => add code (.take s next)
  | .look l => fun next code => add code (.look l next)
  | .group index inner => fun next code =>
    let (next, code) := add code (.note (2 * index - 1) next)
    let (next, code) := inner.block next code
    add code (.note (2 * index - 2) next)
  | .repeated inner least most greedy => runs inner.block least most greedy
  | .seq items => Regex.blockOfAll items
  | .alt branches => Regex.blockOfEach branches

/-- The code of expressions one after the other. -/
def Regex.blockOfAll : List Regex → Block
  | [] => fun next code => (next, code)
  | r :: rest => fun next code =>
    let (next, code) := Regex.blockOfAll rest next code
    r.block next code

/-- The code of expressions of which the first that matches is preferred. -/
def Regex.blockOfEach : List Regex → Block
  | [] => fun next code => (next, code)
  | [r] => r.block
  | r :: rest => fun next code =>
    let (second, code) := Regex.blockOfEach rest next code
    let (first, code) := r.block next code
    add code (.split first second)

end

/-- A program: its instructions, where it starts, and how many slots its groups need. -/
structure Program where
  code : Instructions
  start : Nat
  slots : Nat

/-- The program of an expression with a number of groups. -/
def Program.ofRegex (r : Regex) (groups : Nat) : Program :=
  let (start, code) := r.block 0 #[.accept]
  ⟨code, start, 2 * groups⟩

end SparqlScalar.Pattern
