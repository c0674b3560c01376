import Manifest.Scope

/-!
# Nodes

A node is anything that may be offered to a scope as a child. A scope takes declarations and scopes
and refuses bare values. Several nodes offered together are taken all or not at all.
-/

namespace Manifest

/-- Anything that may be offered to a scope. -/
inductive Node where
  | declaration (declaration : Declaration)
  | scope (scope : Scope)
  | value (value : Value)

namespace Node

instance : Inhabited Node := ⟨.scope .empty⟩

def kindName : Node → String
  | .declaration _ => "declaration"
  | .scope _ => "scope"
  | .value content => content.kind.name

/-- The child that a node is, or the kind of value that keeps it from being one. -/
def toChild : Node → Except Value.Kind Child
  | .declaration content => .ok (.declaration content)
  | .scope content => .ok (.scope content)
  | .value content => .error content.kind

/-- Whether two nodes are the same but for the order of attributes and defaults. -/
def agrees : Node → Node → Bool
  | .declaration left, .declaration right => left.agrees right
  | .scope left, .scope right => left.agrees right
  | .value left, .value right => left == right
  | _, _ => false

end Node

namespace Scope

/-- Offers one node, which becomes the last child. -/
def push (scope : Scope) (node : Node) : Except StructureError Scope :=
  match node.toChild with
  | .ok child => .ok { scope with children := scope.children ++ [child] }
  | .error kind => .error (.foreignChild kind scope.name)

/-- The children that several nodes are, or the kind of the first value among them. -/
def childrenOf : List Node → Except Value.Kind (List Child)
  | [] => .ok []
  | node :: rest =>
      match node.toChild with
      | .error kind => .error kind
      | .ok child =>
          match childrenOf rest with
          | .error kind => .error kind
          | .ok children => .ok (child :: children)

/-- Offers several nodes. They become the last children, or none does if one is a value. -/
def pushAll (scope : Scope) (nodes : List Node) : Except StructureError Scope :=
  match childrenOf nodes with
  | .ok children => .ok { scope with children := scope.children ++ children }
  | .error kind => .error (.foreignChild kind scope.name)

end Scope

end Manifest
