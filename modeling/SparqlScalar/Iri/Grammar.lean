import SparqlScalar.Iri.Address

/-!
# The parts of an IRI reference

Every text splits into a scheme, an authority, a path, a query and a fragment, of which the path
may be empty and the others absent, and the parts make up the text again (`IriReference.text`).
Which characters a part may hold is a separate question (`IriReference.isValid`).
-/

namespace SparqlScalar

/-- The parts of a reference, without the marks that separate them. -/
structure IriReference where
  scheme : Option (List Char)
  authority : Option (List Char)
  path : List Char
  query : Option (List Char)
  fragment : Option (List Char)
deriving DecidableEq

namespace IriReference

/-- Letters and digits beyond ASCII that stand for themselves. -/
def isUniversal (c : Char) : Bool :=
  let n := c.toNat
  (0xa0 ≤ n && n ≤ 0xd7ff) || (0xf900 ≤ n && n ≤ 0xfdcf) || (0xfdf0 ≤ n && n ≤ 0xffef)
    || (0x10000 ≤ n && n ≤ 0xdffff && n % 0x10000 ≤ 0xfffd)
    || (0xe1000 ≤ n && n ≤ 0xefffd)

/-- Characters for private use. -/
def isPrivate (c : Char) : Bool :=
  let n := c.toNat
  (0xe000 ≤ n && n ≤ 0xf8ff) || (0xf0000 ≤ n && n ≤ 0xffffd) || (0x100000 ≤ n && n ≤ 0x10fffd)

/-- Characters that stand for themselves in every part after the scheme. -/
def isPlain (c : Char) : Bool :=
  c.isAlphanum || "-._~!$&'()*+,;=".toList.contains c || isUniversal c

def isUserInfoChar (c : Char) : Bool := isPlain c || c = ':'

/-- Characters of an address of a later version, which are ASCII. -/
def isAddressChar (c : Char) : Bool := c.toNat < 128 && isUserInfoChar c

def isPathChar (c : Char) : Bool := isPlain c || c = ':' || c = '@' || c = '/'

def isFragmentChar (c : Char) : Bool := isPathChar c || c = '?'

def isQueryChar (c : Char) : Bool := isFragmentChar c || isPrivate c

/-- Every character is allowed or starts an escape of a percent sign and two hexadecimal digits. -/
def onlyHas (allowed : Char → Bool) : List Char → Bool
  | [] => true
  | '%' :: a :: b :: rest => Hex.isDigit a && Hex.isDigit b && onlyHas allowed rest
  | c :: rest => c ≠ '%' && allowed c && onlyHas allowed rest

def isSchemeChar (c : Char) : Bool := c.isAlphanum || c = '+' || c = '-' || c = '.'

/-- Splits off a scheme: a letter, letters, digits and a few marks, and a colon. -/
def splitScheme (text : List Char) : Option (List Char) × List Char :=
  let name := text.takeWhile isSchemeChar
  match text.dropWhile isSchemeChar with
  | ':' :: rest =>
    match name with
    | c :: _ => if c.isAlpha then (some name, rest) else (none, text)
    | [] => (none, text)
  | _ => (none, text)

/-- Splits off an authority: two slashes and what follows up to the next part. -/
def splitAuthority (text : List Char) : Option (List Char) × List Char :=
  match text with
  | '/' :: '/' :: rest =>
    let ends (c : Char) : Bool := c = '/' || c = '?' || c = '#'
    (some (rest.takeWhile (!ends ·)), rest.dropWhile (!ends ·))
  | text => (none, text)

/-- Splits a text at the first occurrence of a mark. -/
def splitAtMark (mark : Char) (text : List Char) : List Char × Option (List Char) :=
  match text.dropWhile (· ≠ mark) with
  | [] => (text.takeWhile (· ≠ mark), none)
  | _ :: rest => (text.takeWhile (· ≠ mark), some rest)

/-- The parts of a text. -/
def ofText (text : List Char) : IriReference :=
  let (scheme, rest) := splitScheme text
  let (rest, fragment) := splitAtMark '#' rest
  let (rest, query) := splitAtMark '?' rest
  let (authority, path) := splitAuthority rest
  ⟨scheme, authority, path, query, fragment⟩

/-- The text made up of the parts. -/
def text (r : IriReference) : List Char :=
  (match r.scheme with
    | some scheme => scheme ++ [':']
    | none => [])
    ++ (match r.authority with
      | some authority => '/' :: '/' :: authority
      | none => [])
    ++ r.path
    ++ (match r.query with
      | some query => '?' :: query
      | none => [])
    ++ (match r.fragment with
      | some fragment => '#' :: fragment
      | none => [])

/-- The number of a service at a host: digits after a colon, or nothing. -/
def isPort (text : List Char) : Bool :=
  match text with
  | [] => true
  | c :: digits => c = ':' && digits.all Char.isDigit

/-- A host, which may be an address in brackets, and perhaps the number of a service. -/
def isHostAndPort (text : List Char) : Bool :=
  match text with
  | '[' :: rest =>
    let address := rest.takeWhile (· ≠ ']')
    match rest.dropWhile (· ≠ ']') with
    | _ :: after =>
      isPort after &&
        match address with
        | 'v' :: _ => Address.isLaterVersion isAddressChar address
        | 'V' :: _ => Address.isLaterVersion isAddressChar address
        | _ => Address.isVersionSix address
    | [] => false
  | _ => onlyHas isPlain (text.takeWhile (· ≠ ':')) && isPort (text.dropWhile (· ≠ ':'))

/-- An authority: perhaps user information and an at sign, then a host. -/
def isAuthority (text : List Char) : Bool :=
  match splitAtMark '@' text with
  | (user, some host) => onlyHas isUserInfoChar user && isHostAndPort host
  | (host, none) => isHostAndPort host

/-- The first segment of a path has no colon. -/
def isColonFree (path : List Char) : Bool := !(path.takeWhile (· ≠ '/')).contains ':'

/-- Whether every part holds what it may hold. A path without a scheme or an authority before it
must not look like a scheme. -/
def isValid (r : IriReference) : Bool :=
  r.authority.all isAuthority && onlyHas isPathChar r.path
    && r.query.all (onlyHas isQueryChar) && r.fragment.all (onlyHas isFragmentChar)
    && (r.scheme.isSome || r.authority.isSome || isColonFree r.path)

end IriReference

end SparqlScalar
