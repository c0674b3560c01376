import Manifest.Interchange.Record
import Manifest.Scope

/-!
# Reading entities from JSON

The readers accept what is written by `toJson`, and more: members in any order, unknown members,
records in array form. A declaration is checked when all of it has been read.
-/

namespace Manifest.Interchange

open Json

/-- An identity of which parts may be missing. -/
structure IdentityDraft where
  resourceType : Option String
  name : Option String

def identityFields : List (Field IdentityDraft) := [
  { name := "resource_type"
    given := fun draft => draft.resourceType.isSome
    read := fun draft tokens =>
      (readString tokens).map fun (text, rest) => ({ draft with resourceType := some text }, rest)
    droppable := false },
  { name := "name"
    given := fun draft => draft.name.isSome
    read := fun draft tokens =>
      (readString tokens).map fun (text, rest) => ({ draft with name := some text }, rest)
    droppable := false }]

def IdentityDraft.finish (draft : IdentityDraft) : Except ReadError Identity := do
  return ⟨← require "resource_type" draft.resourceType, ← require "name" draft.name⟩

def readIdentity (depth : Nat) : Reader Identity :=
  readRecord depth "struct CompositeIdentity" identityFields ⟨none, none⟩ IdentityDraft.finish

/-- A location of which parts may not have been given yet. -/
structure LocationDraft where
  file : Option (Option String)
  line : Option (Option UInt32)

def locationFields : List (Field LocationDraft) := [
  { name := "file"
    given := fun draft => draft.file.isSome
    read := fun draft tokens =>
      (readOption readString tokens).map fun (file, rest) =>
        ({ draft with file := some file }, rest)
    droppable := false },
  { name := "line"
    given := fun draft => draft.line.isSome
    read := fun draft tokens =>
      (readOption readUInt32 tokens).map fun (line, rest) =>
        ({ draft with line := some line }, rest)
    droppable := false }]

/-- Reads a location. A half that is not given is unknown. -/
def readLocation (depth : Nat) : Reader Location :=
  readRecord depth "struct SourceLocation" locationFields ⟨none, none⟩ fun draft =>
    .ok ⟨draft.file.join, draft.line.join⟩

/-- Reads what stands under the name of a kind of values, given how deep containers may be and how
the items of a list are read. -/
def valueVariants (depth : Nat) (item : Reader Value) : List (String × Reader Value) := [
  ("String", fun tokens => (readString tokens).map fun (text, rest) => (.string text, rest)),
  ("Integer", fun tokens => (readInt64 tokens).map fun (number, rest) => (.integer number, rest)),
  ("Boolean", fun tokens => (readBoolean tokens).map fun (truth, rest) => (.boolean truth, rest)),
  ("List", fun tokens => (readList depth item tokens).map fun (items, rest) => (.list items, rest)),
  ("Reference", fun tokens =>
    (readIdentity depth tokens).map fun (target, rest) => (.reference target, rest))]

/-- Reads a value. A list takes two levels: the object with its kind and the array of its items. -/
def readValue : Nat → Reader Value
  | depth + 2 => readVariant (depth + 2) (valueVariants (depth + 1) (readValue depth))
  | depth => readVariant depth (valueVariants (depth - 1) tooDeep)

/-- Reads one attribute behind its key, given how deep its value may be. -/
def readAttribute (depth : Nat) (key : String) (attributes : Attributes) : Reader Attributes :=
  fun tokens => do
    let (value, rest) ← readValue depth (← behindColon tokens)
    return (attributes.insert key value, rest)

/-- Reads attributes. A key that comes again keeps its place and gets the new value. -/
def readAttributes (depth : Nat) : Reader Attributes
  | .openBrace :: tokens =>
      if depth = 0 then fail .malformed
      else readObject (readAttribute (depth - 1)) Dictionary.empty tokens
  | tokens => wrongKind "a map" tokens

/-- A declaration of which parts may not have been given yet. -/
structure DeclarationDraft where
  resourceType : Option String
  name : Option String
  attributes : Option Attributes
  location : Option Location

/-- The fields of a declaration. The attributes and the location may be left out. -/
def declarationFields (depth : Nat) : List (Field DeclarationDraft) := [
  { name := "resource_type"
    given := fun draft => draft.resourceType.isSome
    read := fun draft tokens =>
      (readString tokens).map fun (text, rest) => ({ draft with resourceType := some text }, rest)
    droppable := false },
  { name := "name"
    given := fun draft => draft.name.isSome
    read := fun draft tokens =>
      (readString tokens).map fun (text, rest) => ({ draft with name := some text }, rest)
    droppable := false },
  { name := "attributes"
    given := fun draft => draft.attributes.isSome
    read := fun draft tokens =>
      (readAttributes depth tokens).map fun (attributes, rest) =>
        ({ draft with attributes := some attributes }, rest)
    droppable := true },
  { name := "location"
    given := fun draft => draft.location.isSome
    read := fun draft tokens =>
      (readLocation depth tokens).map fun (location, rest) =>
        ({ draft with location := some location }, rest)
    droppable := true }]

/-- The declaration that a draft has become, if it is a valid one. -/
def DeclarationDraft.finish (draft : DeclarationDraft) : Except ReadError Declaration := do
  let resourceType ← require "resource_type" draft.resourceType
  let name ← require "name" draft.name
  match Declaration.assemble resourceType name (draft.attributes.getD Dictionary.empty)
      (draft.location.getD .unknown) with
  | .ok declaration => .ok declaration
  | .error cause => refuse (.refused cause)

def readDeclaration (depth : Nat) : Reader Declaration :=
  readRecord depth "struct RawDeclaration" (declarationFields (depth - 1)) ⟨none, none, none, none⟩
    DeclarationDraft.finish

/-- A scope of which parts may not have been given yet. -/
structure ScopeDraft where
  name : Option (Option String)
  scopeType : Option (Option String)
  location : Option Location
  defaults : Option (Option Attributes)
  children : Option (List Child)

/-- The fields of a scope, given how its children are read. -/
def scopeFields (depth : Nat) (child : Reader Child) : List (Field ScopeDraft) := [
  { name := "name"
    given := fun draft => draft.name.isSome
    read := fun draft tokens =>
      (readOption readString tokens).map fun (name, rest) =>
        ({ draft with name := some name }, rest)
    droppable := false },
  { name := "scope_type"
    given := fun draft => draft.scopeType.isSome
    read := fun draft tokens =>
      (readOption readString tokens).map fun (scopeType, rest) =>
        ({ draft with scopeType := some scopeType }, rest)
    droppable := false },
  { name := "location"
    given := fun draft => draft.location.isSome
    read := fun draft tokens =>
      (readLocation depth tokens).map fun (location, rest) =>
        ({ draft with location := some location }, rest)
    droppable := false },
  { name := "defaults"
    given := fun draft => draft.defaults.isSome
    read := fun draft tokens =>
      (readOption (readAttributes depth) tokens).map fun (defaults, rest) =>
        ({ draft with defaults := some defaults }, rest)
    droppable := false },
  { name := "children"
    given := fun draft => draft.children.isSome
    read := fun draft tokens =>
      (readList depth child tokens).map fun (children, rest) =>
        ({ draft with children := some children }, rest)
    droppable := false }]

def ScopeDraft.finish (draft : ScopeDraft) : Except ReadError Scope := do
  let location ← require "location" draft.location
  let children ← require "children" draft.children
  return ⟨draft.name.join, draft.scopeType.join, location, draft.defaults.join, children⟩

/-- Reads a scope, given how its children are read. -/
def readScopeWith (depth : Nat) (child : Reader Child) : Reader Scope :=
  readRecord depth "struct Scope" (scopeFields (depth - 1) child) ⟨none, none, none, none, none⟩
    ScopeDraft.finish

/-- Reads what stands under the name of a kind of children, given how children are read. -/
def childVariants (depth : Nat) (child : Reader Child) : List (String × Reader Child) := [
  ("Declaration", fun tokens =>
    (readDeclaration depth tokens).map fun (declaration, rest) => (.declaration declaration, rest)),
  ("Scope", fun tokens =>
    (readScopeWith depth child tokens).map fun (scope, rest) => (.scope scope, rest))]

/-- Reads a child. A scope takes three levels: the object with its kind, its own object, and the
array with its children. -/
def readChild : Nat → Reader Child
  | depth + 3 => readVariant (depth + 3) (childVariants (depth + 2) (readChild depth))
  | depth => readVariant depth (childVariants (depth - 1) tooDeep)

def readScope (depth : Nat) : Reader Scope :=
  readScopeWith depth (readChild (depth - 2))

def readAll (reader : Nat → Reader α) (text : String) : Except ReadError α := do
  let (content, rest) ← reader maximalDepth (Token.scan text.toList)
  if rest.isEmpty then return content else fail .malformed

end Manifest.Interchange
