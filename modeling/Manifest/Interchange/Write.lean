import Manifest.Json.Basic
import Manifest.Scope

/-!
# Writing entities as JSON

Each entity has one JSON form. Values and children are objects with one member, whose key tells the
kind; all others are objects with a fixed sequence of members.
-/

namespace Manifest

def Identity.toJson (identity : Identity) : Json :=
  .object [("resource_type", .string identity.resourceType), ("name", .string identity.name)]

def Location.toJson (location : Location) : Json :=
  .object [
    ("file", .ofOption .string location.file),
    ("line", .ofOption (fun line => .integer line.toNat) location.line)]

namespace Value

mutual

def toJson : Value → Json
  | .string text => .object [("String", .string text)]
  | .integer number => .object [("Integer", .integer number.toInt)]
  | .boolean truth => .object [("Boolean", .boolean truth)]
  | .list items => .object [("List", .array (toJsonAll items))]
  | .reference target => .object [("Reference", target.toJson)]

def toJsonAll : List Value → List Json
  | [] => []
  | value :: rest => value.toJson :: toJsonAll rest

end

end Value

def Attributes.toJson (attributes : Attributes) : Json :=
  .object (attributes.entries.map fun entry => (entry.1, entry.2.toJson))

def Declaration.toJson (declaration : Declaration) : Json :=
  .object [
    ("resource_type", .string declaration.resourceType),
    ("name", .string declaration.name),
    ("attributes", Attributes.toJson declaration.attributes),
    ("location", declaration.location.toJson)]

mutual

def Scope.toJson : Scope → Json
  | ⟨name, scopeType, location, defaults, children⟩ =>
      .object [
        ("name", .ofOption .string name),
        ("scope_type", .ofOption .string scopeType),
        ("location", location.toJson),
        ("defaults", .ofOption Attributes.toJson defaults),
        ("children", .array (Child.toJsonAll children))]

def Child.toJson : Child → Json
  | .declaration content => .object [("Declaration", content.toJson)]
  | .scope content => .object [("Scope", content.toJson)]

def Child.toJsonAll : List Child → List Json
  | [] => []
  | child :: rest => child.toJson :: Child.toJsonAll rest

end

end Manifest
