import SparqlScalar.Iri.Grammar

/-!
# Resolving references

A reference with a scheme stands for itself. Any other is completed from a base: by its scheme,
and as far as the reference has no authority, no path and no query of its own, by these. A relative
path is laid over the directory of the base path, and its segments `.` and `..` are carried out.
A path after an authority never leaves the root; without an authority it can, and then no slash is
left in front of it.
-/

namespace SparqlScalar.IriReference

/-- The segments of a path between slashes. -/
def segments (path : List Char) : List (List Char) := splitOnMark '/' path

/-- The path with the given segments. -/
def ofSegments (segments : List (List Char)) : List Char := ['/'].intercalate segments

/-- Takes back the last of the segments, kept in reverse. After an authority the root stays. -/
def parent (hasAuthority : Bool) : List (List Char) → List (List Char)
  | [] => []
  | [root] => if hasAuthority then [root] else []
  | _ :: before => before

/-- Carries out the segments of a path after those kept in reverse. Without an authority the path
must at no time start with two slashes, which would be read as one. -/
def walk? (hasAuthority : Bool) (kept : List (List Char)) :
    List (List Char) → Option (List (List Char))
  | [] => some kept
  | [segment] =>
    some
      (if segment = ['.'] then [] :: kept
      else if segment = ['.', '.'] then [] :: parent hasAuthority kept
      else segment :: kept)
  | segment :: later =>
    if segment = ['.'] then walk? hasAuthority kept later
    else if segment = ['.', '.'] then walk? hasAuthority (parent hasAuthority kept) later
    else if !hasAuthority && kept = [[]] && segment = [] then none
    else walk? hasAuthority (segment :: kept) later

/-- The segments of the directory of a path, in reverse. A path after an authority starts at the
root. -/
def directory (base : IriReference) : List (List Char) :=
  if base.path = [] ∧ base.authority.isSome then [[]]
  else (segments base.path).reverse.drop 1

/-- The path of a reference that has one, completed from a base. -/
def resolvePath? (base : IriReference) (path : List Char) : Option (List Char) :=
  let (start, later) :=
    match path with
    | '/' :: rest => ([[]], segments rest)
    | _ => (directory base, segments path)
  (walk? base.authority.isSome start later).map fun kept => ofSegments kept.reverse

/-- The reference completed from a base. -/
def completeFrom? (base r : IriReference) : Option IriReference :=
  if r.scheme.isSome then some r
  else if r.authority.isSome then some { r with scheme := base.scheme }
  else if r.path = [] then
    some { base with query := r.query <|> base.query, fragment := r.fragment }
  else
    (resolvePath? base r.path).map fun path =>
      { base with path := path, query := r.query, fragment := r.fragment }

/-- The IRI that a text stands for, which without a base must have a scheme. -/
def resolve? (base : Option (List Char)) (text : List Char) : Option (List Char) :=
  let r := ofText text
  if !r.isValid then none
  else
    match base with
    | none => if r.scheme.isSome then some text else none
    | some base => ((ofText base).completeFrom? r).map IriReference.text

end SparqlScalar.IriReference
