import SparqlScalar.Expression.Arity

/-!
# Built-in functions

The functions that expressions can call by name, each with its name and its arity.
-/

namespace SparqlScalar

/-- A built-in function. -/
inductive Builtin where
  | isIri
  | isBlank
  | isLiteral
  | isNumeric
  | str
  | lang
  | datatype
  | iri
  | bnode
  | strDt
  | strLang
  | uuid
  | strUuid
  | sameTerm
  | strLen
  | subStr
  | uCase
  | lCase
  | strStarts
  | strEnds
  | contains
  | strBefore
  | strAfter
  | encodeForUri
  | concat
  | langMatches
  | regex
  | replace
  | abs
  | round
  | ceil
  | floor
  | rand
  | now
  | year
  | month
  | day
  | hours
  | minutes
  | seconds
  | timezone
  | tz
  | md5
  | sha1
  | sha256
  | sha384
  | sha512
deriving DecidableEq, Repr

namespace Builtin

/-- All built-in functions. -/
def all : List Builtin :=
  [.isIri, .isBlank, .isLiteral, .isNumeric, .str, .lang, .datatype, .iri, .bnode, .strDt, .strLang,
    .uuid, .strUuid, .sameTerm, .strLen, .subStr, .uCase, .lCase, .strStarts, .strEnds, .contains,
    .strBefore, .strAfter, .encodeForUri, .concat, .langMatches, .regex, .replace, .abs, .round,
    .ceil, .floor, .rand, .now, .year, .month, .day, .hours, .minutes, .seconds, .timezone, .tz,
    .md5, .sha1, .sha256, .sha384, .sha512]

/-- The name of a function in a query. -/
def name : Builtin → String
  | .isIri => "isIRI"
  | .isBlank => "isBLANK"
  | .isLiteral => "isLITERAL"
  | .isNumeric => "isNUMERIC"
  | .str => "STR"
  | .lang => "LANG"
  | .datatype => "DATATYPE"
  | .iri => "IRI"
  | .bnode => "BNODE"
  | .strDt => "STRDT"
  | .strLang => "STRLANG"
  | .uuid => "UUID"
  | .strUuid => "STRUUID"
  | .sameTerm => "sameTerm"
  | .strLen => "STRLEN"
  | .subStr => "SUBSTR"
  | .uCase => "UCASE"
  | .lCase => "LCASE"
  | .strStarts => "STRSTARTS"
  | .strEnds => "STRENDS"
  | .contains => "CONTAINS"
  | .strBefore => "STRBEFORE"
  | .strAfter => "STRAFTER"
  | .encodeForUri => "ENCODE_FOR_URI"
  | .concat => "CONCAT"
  | .langMatches => "LANGMATCHES"
  | .regex => "REGEX"
  | .replace => "REPLACE"
  | .abs => "ABS"
  | .round => "ROUND"
  | .ceil => "CEIL"
  | .floor => "FLOOR"
  | .rand => "RAND"
  | .now => "NOW"
  | .year => "YEAR"
  | .month => "MONTH"
  | .day => "DAY"
  | .hours => "HOURS"
  | .minutes => "MINUTES"
  | .seconds => "SECONDS"
  | .timezone => "TIMEZONE"
  | .tz => "TZ"
  | .md5 => "MD5"
  | .sha1 => "SHA1"
  | .sha256 => "SHA256"
  | .sha384 => "SHA384"
  | .sha512 => "SHA512"

/-- The function with a name. -/
def ofName? (name : String) : Option Builtin := all.find? (·.name = name)

/-- The numbers of arguments that a function takes. -/
def arity : Builtin → Arity
  | .uuid | .strUuid | .rand | .now => .nullary
  | .bnode => .oneOf [.nullary, .fixed 1]
  | .strDt | .strLang | .sameTerm | .strStarts | .strEnds | .contains | .strBefore | .strAfter
  | .langMatches => .fixed 2
  | .subStr | .regex => .oneOf [.fixed 2, .fixed 3]
  | .replace => .oneOf [.fixed 3, .fixed 4]
  | .concat => .variadic
  | _ => .fixed 1

end Builtin

end SparqlScalar
