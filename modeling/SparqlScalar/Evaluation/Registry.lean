import SparqlScalar.Evaluation.Function

/-!
# The registry of functions

Custom functions by their IRIs. An IRI has at most one function; which it is changes only by
registering and unregistering, and an operation that fails changes nothing.
-/

namespace SparqlScalar

/-- Why a registry refuses a change. -/
inductive RegistryError where
  | alreadyRegistered (iri : Iri)
  | notRegistered (iri : Iri)
deriving DecidableEq

def RegistryError.message : RegistryError → String
  | .alreadyRegistered iri => "a function is already registered as " ++ iri.display
  | .notRegistered iri => "this function is not registered as " ++ iri.display

/-- Functions by their IRIs. -/
structure Registry where
  entries : List (Iri × CustomFunction)

namespace Registry

/-- The registry without functions. -/
def empty : Registry := ⟨[]⟩

/-- The registry of the casts. -/
def casts : Registry := ⟨CastTarget.all.map fun target => (target.iri, .ofCast target)⟩

/-- The function of an IRI. -/
def get? (registry : Registry) (iri : Iri) : Option CustomFunction := registry.entries.lookup iri

def contains (registry : Registry) (iri : Iri) : Bool := (registry.get? iri).isSome

/-- The registry without the function of an IRI. -/
def erase (registry : Registry) (iri : Iri) : Registry :=
  ⟨withoutKey iri registry.entries⟩

/-- The registry with another function for an IRI. -/
def insert (registry : Registry) (iri : Iri) (function : CustomFunction) : Registry :=
  ⟨(iri, function) :: (registry.erase iri).entries⟩

/-- Registers a function. An IRI that has one already is refused, unless it may be replaced. -/
def register (registry : Registry) (iri : Iri) (function : CustomFunction) (replace : Bool) :
    Except RegistryError Registry :=
  if !replace && registry.contains iri then .error (.alreadyRegistered iri)
  else .ok (registry.insert iri function)

/-- Unregisters a function, which has to be the one that the IRI has. -/
def unregister (registry : Registry) (iri : Iri) (function : CustomFunction) :
    Except RegistryError Registry :=
  if (registry.get? iri).any (·.isSame function) then .ok (registry.erase iri)
  else .error (.notRegistered iri)

theorem get?_erase (registry : Registry) (iri other : Iri) :
    (registry.erase iri).get? other = if other == iri then none else registry.get? other :=
  lookup_withoutKey iri other registry.entries

theorem get?_insert (registry : Registry) (iri other : Iri) (function : CustomFunction) :
    (registry.insert iri function).get? other =
      if other == iri then some function else registry.get? other :=
  lookup_cons_withoutKey iri other function registry.entries

end Registry

end SparqlScalar
