import Manifest.Attributes
import Manifest.Location

/-!
# Realized trees

Lowering turns a tree of scopes into a tree of containers: each scope has become a container, and
its declarations have become resources, which hold instances of type `ι`. The order of declaration
is kept.
-/

namespace Manifest

/-- A declaration that has become an instance. -/
structure RealizedResource (ι : Type) where
  identity : Identity
  location : Location
  /-- The name of the container that the resource belongs to. -/
  parent : Option String
  handle : ι

mutual

/-- A scope whose declarations have become instances. -/
structure Realized (ι : Type) where
  name : String
  scopeType : Option String
  location : Location
  /-- The name, the type if there is one, and the default attributes of the scope. -/
  attributes : Attributes
  children : List (RealizedChild ι)

/-- What a container holds. -/
inductive RealizedChild (ι : Type) where
  | resource (resource : RealizedResource ι)
  | container (container : Realized ι)

end

namespace RealizedChild

def asResource? {ι : Type} : RealizedChild ι → Option (RealizedResource ι)
  | .resource content => some content
  | .container _ => none

def asContainer? {ι : Type} : RealizedChild ι → Option (Realized ι)
  | .resource _ => none
  | .container content => some content

end RealizedChild

namespace Realized

variable {ι : Type}

def size (container : Realized ι) : Nat := container.children.length

def isEmpty (container : Realized ι) : Bool := container.children.isEmpty

/-- The direct resource with an identity. Containers inside are not searched. -/
def find? (container : Realized ι) (identity : Identity) : Option (RealizedResource ι) :=
  (container.children.filterMap RealizedChild.asResource?).find? fun resource =>
    resource.identity == identity

mutual

/-- All resources of a container and of the containers inside, depth first and in order. -/
def resources : Realized ι → List (RealizedResource ι)
  | ⟨_, _, _, _, children⟩ => resourcesIn children

/-- All resources among some children and inside them, depth first and in order. -/
def resourcesIn : List (RealizedChild ι) → List (RealizedResource ι)
  | [] => []
  | .resource resource :: rest => resource :: resourcesIn rest
  | .container container :: rest => container.resources ++ resourcesIn rest

end

/-- Proof by cases on the first child, which may be a container with children of its own. -/
theorem children_induction {motive : List (RealizedChild ι) → Prop} (nil : motive [])
    (resource : ∀ resource rest, motive rest → motive (.resource resource :: rest))
    (container : ∀ container rest, motive container.children → motive rest →
      motive (.container container :: rest))
    (children : List (RealizedChild ι)) : motive children :=
  Realized.rec_1 (motive_1 := fun container => motive container.children)
    (motive_2 := fun child => ∀ rest, motive rest → motive (child :: rest)) (motive_3 := motive)
    (fun _ _ _ _ _ inner => inner)
    (fun first rest tail => resource first rest tail)
    (fun nested inner rest tail => container nested rest inner tail)
    nil
    (fun _ rest head tail => head rest tail)
    children

end Realized

end Manifest
