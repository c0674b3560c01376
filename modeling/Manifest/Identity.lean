/-!
# Identities of resources

A resource is known by its type and its name together. Identities are ordered by type and then by
name, both by code point.
-/

namespace Manifest

/-- What a resource is known by. -/
structure Identity where
  resourceType : String
  name : String
  deriving DecidableEq, Repr, Inhabited

namespace Identity

/-- The written form, with the name in brackets behind the type. -/
def display (identity : Identity) : String :=
  identity.resourceType ++ "[" ++ identity.name ++ "]"

/-- The flat form, in which two hyphens join the type and the name. -/
def longName (identity : Identity) : String :=
  identity.resourceType ++ "--" ++ identity.name

instance : ToString Identity := ⟨display⟩

/-- Whether one identity stands before another or is the same. -/
def precedes (left right : Identity) : Bool :=
  if left.resourceType = right.resourceType then decide (left.name ≤ right.name)
  else decide (left.resourceType ≤ right.resourceType)

def sort (identities : List Identity) : List Identity :=
  identities.mergeSort precedes

/-- How many different identities a list holds. -/
def countDistinct (identities : List Identity) : Nat :=
  identities.eraseDups.length

end Identity

end Manifest
