import Manifest.Scope

/-!
# The log of declarations

All declarations of a compilation session in the order in which they were registered, and an index
that gives the position of the last one with an identity. With it one can tell which references in a
scope lead to a resource that was never declared. Lowering does not look at it.
-/

namespace Manifest

/-- A reference to a resource that was never declared. -/
structure DanglingReference where
  /-- The declaration that holds the reference. -/
  source : Identity
  /-- The key of the attribute in which the reference stands, at whatever depth. -/
  key : String
  target : Identity
  location : Location
  deriving DecidableEq

/-- The declarations of a session and the positions of the last ones with their identities. -/
structure DeclarationLog where
  declarations : List Declaration
  positions : Dictionary Identity Nat

namespace DeclarationLog

/-- The log of a session in which nothing was declared. -/
def empty : DeclarationLog := ⟨[], Dictionary.empty⟩

instance : EmptyCollection DeclarationLog := ⟨empty⟩

/-- Appends a declaration. It takes the place of earlier ones with its identity in the index. -/
def register (log : DeclarationLog) (declaration : Declaration) : DeclarationLog :=
  ⟨log.declarations ++ [declaration],
    log.positions.insert declaration.identity log.declarations.length⟩

def registerAll (log : DeclarationLog) (declarations : List Declaration) : DeclarationLog :=
  declarations.foldl register log

def registerScope (log : DeclarationLog) (scope : Scope) : DeclarationLog :=
  log.registerAll scope.declarations

def clear (_ : DeclarationLog) : DeclarationLog := empty

/-- The last declaration with an identity. -/
def get? (log : DeclarationLog) (identity : Identity) : Option Declaration :=
  (log.positions.get? identity).bind fun position => log.declarations[position]?

/-- Whether a declaration with an identity was registered. -/
def contains (log : DeclarationLog) (identity : Identity) : Bool :=
  log.positions.contains identity

def size (log : DeclarationLog) : Nat := log.declarations.length

def isEmpty (log : DeclarationLog) : Bool := log.declarations.isEmpty

mutual

/-- The dangling references in a value that a declaration has under a key, from left to right. -/
def danglingIn (log : DeclarationLog) (declaration : Declaration) (key : String) :
    Value → List DanglingReference
  | .reference target =>
      if log.contains target then []
      else [⟨declaration.identity, key, target, declaration.location⟩]
  | .list items => danglingInAll log declaration key items
  | .string _ => []
  | .integer _ => []
  | .boolean _ => []

/-- The dangling references in several values under a key of a declaration, from left to right. -/
def danglingInAll (log : DeclarationLog) (declaration : Declaration) (key : String) :
    List Value → List DanglingReference
  | [] => []
  | value :: rest => log.danglingIn declaration key value ++ log.danglingInAll declaration key rest

end

/-- The dangling references in the attributes of a declaration, in order. -/
def danglingOf (log : DeclarationLog) (declaration : Declaration) : List DanglingReference :=
  declaration.attributes.entries.flatMap fun entry => log.danglingIn declaration entry.1 entry.2

mutual

/-- The dangling references of a scope and of the scopes under it, depth first and in order. -/
def danglingReferences (log : DeclarationLog) : Scope → List DanglingReference
  | ⟨_, _, _, _, children⟩ => log.danglingAmong children

/-- The dangling references among some children and under them, depth first and in order. -/
def danglingAmong (log : DeclarationLog) : List Child → List DanglingReference
  | [] => []
  | .scope scope :: rest => log.danglingReferences scope ++ log.danglingAmong rest
  | .declaration declaration :: rest => log.danglingOf declaration ++ log.danglingAmong rest

end

end DeclarationLog

end Manifest
