import Manifest.Lowering.Realized
import Manifest.Lowering.Session

/-!
# Containers that are being filled

A container starts with attributes that tell what is known about its scope. Its children are then
added one after the other, and the position of each resource is remembered under its identity, so
that a later declaration of the same identity can be merged into it.
-/

namespace Manifest

/-- The children of a container that is being filled, and the positions of its resources. -/
structure Contents (ι : Type) where
  children : List (RealizedChild ι)
  positions : Dictionary Identity Nat

namespace Contents

variable {ι : Type}

def empty : Contents ι := ⟨[], Dictionary.empty⟩

/-- Appends a resource and remembers its position. -/
def addResource (contents : Contents ι) (resource : RealizedResource ι) : Contents ι :=
  ⟨contents.children ++ [.resource resource],
    contents.positions.insert resource.identity contents.children.length⟩

def addContainer (contents : Contents ι) (container : Realized ι) : Contents ι :=
  { contents with children := contents.children ++ [.container container] }

def replace (contents : Contents ι) (position : Nat) (resource : RealizedResource ι) : Contents ι :=
  { contents with children := contents.children.set position (.resource resource) }

end Contents

/-- Gives a container the default attributes of its scope, each with a line in the log. -/
def defineDefaults {σ : Type} (scope : String) :
    List (String × Value) → Attributes → Session σ → Attributes × Session σ
  | [], attributes, session => (attributes, session)
  | (key, value) :: rest, attributes, session =>
      defineDefaults scope rest (attributes.insert key value)
        (session.note (.definingDefault scope key))

/-- The attributes that a container starts with: its name, its type if any, and the defaults. -/
def openContainer {σ : Type} (name : String) (scopeType : Option String)
    (defaults : Option Attributes) (session : Session σ) : Attributes × Session σ :=
  let named : Attributes := Dictionary.empty.insert Attributes.nameKey (.string name)
  let (attributes, typed) :=
    match scopeType with
    | some text => (named.insert Attributes.typeKey (.string text), session)
    | none => (named, session.note (.scopeWithoutType name))
  match defaults with
  | some defaults => defineDefaults name defaults.entries attributes typed
  | none => (attributes, typed.note (.scopeWithoutDefaults name))

end Manifest
