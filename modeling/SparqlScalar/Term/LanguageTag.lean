import SparqlScalar.Text.Split

/-!
# Language tags

A language tag is a list of subtags: a language with up to three extensions of it, a script, a
region, variants, extensions that are each opened by a single letter or digit, and a private part.
A few registered tags of other forms and tags that are private as a whole are also tags.
-/

namespace SparqlScalar.LanguageTag

/-- The registered tags that do not follow the grammar, in lower case. -/
def irregular : List (List Char) :=
  ["en-gb-oed", "i-ami", "i-bnn", "i-default", "i-enochian", "i-hak", "i-klingon", "i-lux",
    "i-mingo", "i-navajo", "i-pwn", "i-tao", "i-tay", "i-tsu", "sgn-be-fr", "sgn-be-nl",
    "sgn-ch-de", "art-lojban", "cel-gaulish", "no-bok", "no-nyn", "zh-guoyu", "zh-hakka",
    "zh-min", "zh-min-nan", "zh-xiang"].map String.toList

/-- Every subtag has one to eight letters or digits. -/
def wellSized (subtag : List Char) : Bool :=
  1 ≤ subtag.length && subtag.length ≤ 8 && subtag.all Char.isAlphanum

/-- What may come next in a tag. -/
inductive Position where
  /-- After the language, with so many extensions of it read; they may follow a short one. -/
  | language (short : Bool) (extensions : Nat)
  | script
  | region
  | variant
  /-- In an extension, which needs a subtag if there was none yet. -/
  | extension (hasSubtag : Bool)
  /-- In the private part, which needs a subtag if there was none yet. -/
  | privateUse (hasSubtag : Bool)
deriving DecidableEq

namespace Position

def isScript (subtag : List Char) : Bool := subtag.length == 4 && subtag.all Char.isAlpha

def isRegion (subtag : List Char) : Bool :=
  (subtag.length == 2 && subtag.all Char.isAlpha) || (subtag.length == 3 && subtag.all Char.isDigit)

def isVariant (subtag : List Char) : Bool :=
  5 ≤ subtag.length || (subtag.length == 4 && (subtag.headD ' ').isDigit)

/-- A subtag that opens an extension or the private part. -/
def opening? (subtag : List Char) : Option Position :=
  match subtag with
  | [c] => some (if c = 'x' then .privateUse false else .extension false)
  | _ => none

/-- The position after one more subtag. -/
def next? (position : Position) (subtag : List Char) : Option Position :=
  match position with
  | .privateUse _ => some (.privateUse true)
  | .extension false => if subtag.length = 1 then none else some (.extension true)
  | .extension true =>
    if subtag.length = 1 then opening? subtag else some (.extension true)
  | .language short extensions =>
    if short && extensions < 3 && subtag.length == 3 && subtag.all Char.isAlpha then
      some (.language short (extensions + 1))
    else if isScript subtag then some .script
    else if isRegion subtag then some .region
    else if isVariant subtag then some .variant
    else opening? subtag
  | .script =>
    if isRegion subtag then some .region
    else if isVariant subtag then some .variant
    else opening? subtag
  | .region => if isVariant subtag then some .variant else opening? subtag
  | .variant => if isVariant subtag then some .variant else opening? subtag

/-- Whether a tag may end here. -/
def isFinal : Position → Bool
  | .extension hasSubtag => hasSubtag
  | .privateUse hasSubtag => hasSubtag
  | _ => true

end Position

/-- A language has two to eight letters. -/
def isLanguage (subtag : List Char) : Bool :=
  2 ≤ subtag.length && subtag.all Char.isAlpha

/-- Whether a text in lower case is a language tag. -/
def isValid (tag : List Char) : Bool :=
  irregular.contains tag ||
    match splitOnMark '-' tag with
    | [] => false
    | first :: others =>
      (first :: others).all wellSized &&
        if first = ['x'] then !others.isEmpty
        else
          isLanguage first &&
            (others.foldlM Position.next? (.language (first.length < 4) 0)).any Position.isFinal

end SparqlScalar.LanguageTag
