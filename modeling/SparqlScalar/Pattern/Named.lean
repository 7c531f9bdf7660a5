import SparqlScalar.Pattern.CharSet
import SparqlScalar.Text.Property.Age
import SparqlScalar.Text.Property.Binary
import SparqlScalar.Text.Property.Boundary
import SparqlScalar.Text.Property.Category
import SparqlScalar.Text.Property.Script

/-!
# Sets of characters with a name

The sets that a pattern can call by name: those of the letters `d`, `s` and `w`, the classes of
ASCII characters, and the properties. A property is looked up by a loose name: case, blanks, hyphens
and underscores do not matter, nor does a leading `is`.
-/

namespace SparqlScalar.Pattern

/-- The sets with a letter of their own. -/
inductive LetterClass where
  | digit
  | space
  | word
deriving DecidableEq, Repr

namespace LetterClass

/-- The set of a letter. -/
def set : LetterClass → CharSet
  | .digit => .ofRanges (Property.ranges Property.Category.decimalNumber)
  | .space => .ofRanges (Property.ranges Property.Has.whiteSpace)
  | .word =>
    .ofRanges (([Property.Has.alphabetic, Property.Category.nonspacingMark,
      Property.Category.spacingMark, Property.Category.enclosingMark,
      Property.Category.decimalNumber, Property.Category.connectorPunctuation,
      Property.Has.joinControl]).flatMap Property.ranges)

/-- The ASCII characters in the set of a letter. -/
def asciiSet : LetterClass → CharSet
  | .digit => .between '0' '9'
  | .space => .ofRanges [(9, 13), (32, 32)]
  | .word => .ofRanges [(48, 57), (65, 90), (95, 95), (97, 122)]

end LetterClass

/-- The ranges of a class of ASCII characters by its name. -/
def asciiClass? (name : List Char) : Option Property.Ranges :=
  [("alnum", [(48, 57), (65, 90), (97, 122)]), ("alpha", [(65, 90), (97, 122)]),
    ("ascii", [(0, 127)]), ("blank", [(9, 9), (32, 32)]), ("cntrl", [(0, 31), (127, 127)]),
    ("digit", [(48, 57)]), ("graph", [(33, 126)]), ("lower", [(97, 122)]), ("print", [(32, 126)]),
    ("punct", [(33, 47), (58, 64), (91, 96), (123, 126)]), ("space", [(9, 13), (32, 32)]),
    ("upper", [(65, 90)]), ("word", [(48, 57), (65, 90), (95, 95), (97, 122)]),
    ("xdigit", [(48, 57), (65, 70), (97, 102)])].lookup (String.ofList name)

/-- A name of a property without what does not matter in it. -/
def looseName (name : List Char) : List Char :=
  let plain (cs : List Char) : List Char :=
    (cs.filter fun c => c.toNat < 128 && c != ' ' && c != '_' && c != '-').map Char.toLower
  match name with
  | i :: s :: rest =>
    if i.toLower = 'i' ∧ s.toLower = 's' then
      if plain rest = ['c'] then ['i', 's', 'c'] else plain rest
    else plain name
  | _ => plain name

section
open Property.Category

/-- The general categories, each by its names and the tables that make it up. -/
def categories : List (List String × List (List String)) :=
  [(["lu", "uppercaseletter"], [uppercaseLetter]), (["ll", "lowercaseletter"], [lowercaseLetter]),
    (["lt", "titlecaseletter"], [titlecaseLetter]), (["lm", "modifierletter"], [modifierLetter]),
    (["lo", "otherletter"], [otherLetter]),
    (["lc", "casedletter"], [uppercaseLetter, lowercaseLetter, titlecaseLetter]),
    (["l", "letter"],
      [uppercaseLetter, lowercaseLetter, titlecaseLetter, modifierLetter, otherLetter]),
    (["mn", "nonspacingmark"], [nonspacingMark]), (["mc", "spacingmark"], [spacingMark]),
    (["me", "enclosingmark"], [enclosingMark]),
    (["m", "mark", "combiningmark"], [nonspacingMark, spacingMark, enclosingMark]),
    (["nd", "decimalnumber", "digit"], [decimalNumber]), (["nl", "letternumber"], [letterNumber]),
    (["no", "othernumber"], [otherNumber]),
    (["n", "number"], [decimalNumber, letterNumber, otherNumber]),
    (["pc", "connectorpunctuation"], [connectorPunctuation]),
    (["pd", "dashpunctuation"], [dashPunctuation]), (["ps", "openpunctuation"], [openPunctuation]),
    (["pe", "closepunctuation"], [closePunctuation]),
    (["pi", "initialpunctuation"], [initialPunctuation]),
    (["pf", "finalpunctuation"], [finalPunctuation]),
    (["po", "otherpunctuation"], [otherPunctuation]),
    (["p", "punctuation", "punct"],
      [connectorPunctuation, dashPunctuation, openPunctuation, closePunctuation,
        initialPunctuation, finalPunctuation, otherPunctuation]),
    (["sm", "mathsymbol"], [mathSymbol]), (["sc", "currencysymbol"], [currencySymbol]),
    (["sk", "modifiersymbol"], [modifierSymbol]), (["so", "othersymbol"], [otherSymbol]),
    (["s", "symbol"], [mathSymbol, currencySymbol, modifierSymbol, otherSymbol]),
    (["zs", "spaceseparator"], [spaceSeparator]), (["zl", "lineseparator"], [lineSeparator]),
    (["zp", "paragraphseparator"], [paragraphSeparator]),
    (["z", "separator"], [spaceSeparator, lineSeparator, paragraphSeparator]),
    (["cc", "control", "cntrl"], [control]), (["cf", "format"], [format]),
    (["co", "privateuse"], [privateUse])]

end

/-- All characters that are in a category. -/
def assigned : CharSet :=
  .ofRanges ((categories.flatMap Prod.snd).flatMap Property.ranges)

/-- The category of a loose name. -/
def category? (name : String) : Option CharSet :=
  if name = "any" then some .all
  else if name = "ascii" then some (.ofRanges [(0, 127)])
  else if name = "assigned" then some assigned
  else if name = "cn" ∨ name = "unassigned" then some (.complement assigned)
  else if name = "c" ∨ name = "other" then
    some (.complement (.ofRanges (((categories.filter fun (names, _) =>
      ["l", "m", "n", "p", "s", "z"].any names.contains).flatMap Prod.snd).flatMap
        Property.ranges)))
  else
    (categories.find? fun (names, _) => names.contains name).map fun (_, tables) =>
      .ofRanges (tables.flatMap Property.ranges)

/-- The script of a loose name. -/
def script? (name : String) : Option Property.Script :=
  Property.Script.all.find? fun script =>
    script.names.any fun known => String.ofList (looseName known.toList) == name

/-- The characters of a property that is given by one name: one that a character has or has not, a
category or a script. -/
def property? (name : List Char) : Option CharSet :=
  let name := String.ofList (looseName name)
  match Property.Entry.find? Property.Has.all name with
  | some table => some (.ofRanges (Property.ranges table))
  | none =>
    (category? name).or ((script? name).map fun script => .ofRanges (Property.ranges script.own))

/-- The characters that came with an edition of the standard or before it. -/
def age? (edition : String) : Option CharSet :=
  let earlier := Property.Age.all.takeWhile fun entry => !entry.names.contains edition
  (Property.Entry.find? Property.Age.all edition).map fun table =>
    .ofRanges (Property.ranges (earlier.flatMap Property.Entry.table ++ table))

/-- The characters with a value of a property, both by their loose names. -/
def valued? (property value : String) : Option CharSet :=
  let ofTable (table : List String) : CharSet := .ofRanges (Property.ranges table)
  match property with
  | "gc" | "generalcategory" => category? value
  | "sc" | "script" => (script? value).map fun script => ofTable script.own
  | "scx" | "scriptextensions" =>
    (script? value).map fun script => ofTable (script.used.getD script.own)
  | "age" => age? value
  | "gcb" | "graphemeclusterbreak" =>
    (Property.Entry.find? Property.GraphemeBreak.all value).map ofTable
  | "wb" | "wordbreak" => (Property.Entry.find? Property.WordBreak.all value).map ofTable
  | "sb" | "sentencebreak" => (Property.Entry.find? Property.SentenceBreak.all value).map ofTable
  | _ => none

/-- The characters with a value of a property. -/
def propertyValue? (property value : List Char) : Option CharSet :=
  valued? (String.ofList (looseName property)) (String.ofList (looseName value))

end SparqlScalar.Pattern
