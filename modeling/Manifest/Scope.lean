import Manifest.Declaration

/-!
# Scopes

A scope is an ordered container of declarations and further scopes. It may have a name, a type and
default attributes; a scope without a name can be written down but not lowered.

A tree of scopes is taken apart by `Scope.children_induction`: a list of children is empty, or
starts with a declaration, or starts with a scope that has children of its own.
-/

namespace Manifest

mutual

/-- An ordered container of declarations and scopes. -/
structure Scope where
  name : Option String
  scopeType : Option String
  location : Location
  defaults : Option Attributes
  children : List Child

/-- What a scope may hold. -/
inductive Child where
  | declaration (declaration : Declaration)
  | scope (scope : Scope)

end

namespace Scope

/-- The scope about which nothing is said and which holds nothing. -/
def empty : Scope := ⟨none, none, .unknown, none, []⟩

instance : Inhabited Scope := ⟨empty⟩

instance : Inhabited Child := ⟨.scope empty⟩

def named (name : String) : Scope := { empty with name := some name }

def withType (scope : Scope) (scopeType : String) : Scope :=
  { scope with scopeType := some scopeType }

def withLocation (scope : Scope) (location : Location) : Scope :=
  { scope with location }

def size (scope : Scope) : Nat := scope.children.length

def isEmpty (scope : Scope) : Bool := scope.children.isEmpty

/-- Sets a default attribute. The first one makes a scope have defaults. -/
def param (scope : Scope) (key : String) (value : Value) : Scope :=
  { scope with defaults := some ((scope.defaults.getD Dictionary.empty).insert key value) }

/-- Proof by cases on the first child, which may be a scope with children of its own. -/
theorem children_induction {motive : List Child → Prop} (nil : motive [])
    (declaration : ∀ declaration rest, motive rest → motive (.declaration declaration :: rest))
    (scope : ∀ scope rest, motive scope.children → motive rest → motive (.scope scope :: rest))
    (children : List Child) : motive children :=
  Scope.rec_1 (motive_1 := fun scope => motive scope.children)
    (motive_2 := fun child => ∀ rest, motive rest → motive (child :: rest)) (motive_3 := motive)
    (fun _ _ _ _ _ inner => inner)
    (fun first rest tail => declaration first rest tail)
    (fun nested inner rest tail => scope nested rest inner tail)
    nil
    (fun _ rest head tail => head rest tail)
    children

mutual

/-- The declarations of a scope and of all scopes under it, depth first and in order. -/
def declarations : Scope → List Declaration
  | ⟨_, _, _, _, children⟩ => declarationsIn children

/-- The declarations among some children and under them, depth first and in order. -/
def declarationsIn : List Child → List Declaration
  | [] => []
  | .declaration declaration :: rest => declaration :: declarationsIn rest
  | .scope scope :: rest => scope.declarations ++ declarationsIn rest

end

mutual

/-- Whether two scopes are the same but for the order of attributes and defaults at any depth. -/
def agrees : Scope → Scope → Bool
  | ⟨name, scopeType, location, defaults, children⟩, other =>
      name == other.name && scopeType == other.scopeType && location == other.location
        && (match defaults, other.defaults with
          | none, none => true
          | some left, some right => left.agrees right
          | _, _ => false)
        && agreeAll children other.children

/-- Whether two lists of children are the same but for the order of attributes and defaults. -/
def agreeAll : List Child → List Child → Bool
  | [], [] => true
  | .declaration left :: restLeft, .declaration right :: restRight =>
      left.agrees right && agreeAll restLeft restRight
  | .scope left :: restLeft, .scope right :: restRight =>
      left.agrees right && agreeAll restLeft restRight
  | _, _ => false

end

end Scope

end Manifest
