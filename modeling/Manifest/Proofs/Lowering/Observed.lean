import Manifest.Lowering.Realized

/-!
# Trees seen through a function

`Realized.map` puts something else in place of each instance of a tree and leaves all else as it is.
Two trees that become the same when each instance is replaced by what it tells of its attributes
cannot be told apart without looking into their instances.
-/

namespace Manifest

variable {ι κ : Type}

/-- The resource with something else in place of its instance. -/
def RealizedResource.map (f : ι → κ) (resource : RealizedResource ι) : RealizedResource κ :=
  ⟨resource.identity, resource.location, resource.parent, f resource.handle⟩

mutual

/-- The tree with something else in place of each instance. -/
def Realized.map (f : ι → κ) : Realized ι → Realized κ
  | ⟨name, scopeType, location, attributes, children⟩ =>
      ⟨name, scopeType, location, attributes, Realized.mapIn f children⟩

/-- The children with something else in place of each instance. -/
def Realized.mapIn (f : ι → κ) : List (RealizedChild ι) → List (RealizedChild κ)
  | [] => []
  | .resource resource :: rest => .resource (resource.map f) :: Realized.mapIn f rest
  | .container container :: rest => .container (container.map f) :: Realized.mapIn f rest

end

/-- The child with something else in place of each instance. -/
def RealizedChild.map (f : ι → κ) : RealizedChild ι → RealizedChild κ
  | .resource content => .resource (content.map f)
  | .container content => .container (content.map f)

theorem Realized.mapIn_eq_map (f : ι → κ) (children : List (RealizedChild ι)) :
    Realized.mapIn f children = children.map (RealizedChild.map f) := by
  induction children with
  | nil => rfl
  | cons child rest ih => cases child <;> simp [Realized.mapIn, RealizedChild.map, ih]

theorem Realized.map_mk (f : ι → κ) (name : String) (scopeType : Option String)
    (location : Location) (attributes : Attributes) (children : List (RealizedChild ι)) :
    Realized.map f ⟨name, scopeType, location, attributes, children⟩ =
      ⟨name, scopeType, location, attributes, children.map (RealizedChild.map f)⟩ := by
  rw [Realized.map, Realized.mapIn_eq_map]

end Manifest
