import Manifest.Provider.TypeTable

/-!
# Resources in memory

Resource types that touch nothing outside. Their instances keep the attributes they are built from,
their world is a store of identities and a journal of everything they were asked to do. Attributes
steer them: `fail` says whether and how building an instance fails, and `cause` what is told about
it.
-/

namespace Manifest.Memory

/-- Something that a type or an instance was asked to do. -/
inductive Event where
  | construct (identity : Identity) (attributes : Attributes)
  | retrieve (identity : Identity)
  | setAttribute (identity : Identity) (key : String) (value : Value)
  | setLocation (identity : Identity) (location : Location)
  | destroy (identity : Identity)
  deriving DecidableEq

/-- What has happened, oldest first, and the identities that are registered. -/
structure World where
  journal : List Event
  store : List Identity
  deriving DecidableEq

namespace World

def empty : World := ⟨[], []⟩

def note (world : World) (event : Event) : World :=
  { world with journal := world.journal ++ [event] }

def add (world : World) (identity : Identity) : World :=
  if identity ∈ world.store then world else { world with store := world.store ++ [identity] }

def remove (world : World) (identity : Identity) : World :=
  { world with store := world.store.filter (· ≠ identity) }

end World

/-- An instance, which keeps the attributes it was built from. -/
structure Instance where
  identity : Identity
  attributes : Attributes
  location : Option Location
  deriving DecidableEq

/-- What a type in memory is made of. -/
structure Spec where
  name : String
  /-- Whether the type can find an instance that it has registered. -/
  keepsStore : Bool
  /-- The attributes without which no instance is built. -/
  required : List String
  deriving DecidableEq

/-- How building an instance fails. -/
inductive Failure where
  /-- Nothing is left behind. -/
  | plain
  /-- A partly built instance is handed back. -/
  | partly
  /-- The identity was registered before. -/
  | registered
  /-- The identity was registered before, and a partly built instance is handed back. -/
  | both
  deriving DecidableEq

def failure? (attributes : Attributes) : Option Failure :=
  match attributes.get? "fail" with
  | some (.string "plain") => some .plain
  | some (.string "partial") => some .partly
  | some (.string "registered") => some .registered
  | some (.string "both") => some .both
  | _ => none

def cause (attributes : Attributes) : String :=
  match attributes.get? "cause" with
  | some (.string text) => text
  | _ => "invalid parameter"

def nameOf (attributes : Attributes) : String :=
  match attributes.get? Attributes.nameKey with
  | some (.string name) => name
  | _ => ""

namespace Spec

/-- Builds an instance, or fails as the attributes demand. -/
def construct (spec : Spec) (attributes : Attributes) (before : World) :
    Except (ConstructionError Instance) Instance × World :=
  let identity : Identity := ⟨spec.name, nameOf attributes⟩
  let world := before.note (.construct identity attributes)
  let built : Instance := ⟨identity, attributes, none⟩
  match spec.required.find? fun key => !attributes.contains key with
  | some key => (.error ⟨"missing attribute `" ++ key ++ "`", none⟩, world)
  | none =>
      match failure? attributes with
      | none => (.ok built, world.add identity)
      | some .plain => (.error ⟨cause attributes, none⟩, world)
      | some .partly => (.error ⟨cause attributes, some built⟩, world)
      | some .registered => (.error ⟨cause attributes, none⟩, world.add identity)
      | some .both => (.error ⟨cause attributes, some built⟩, world.add identity)

/-- Finds a registered instance, of which only the identity is known. -/
def retrieve (spec : Spec) (name : String) (before : World) : Option Instance × World :=
  if spec.keepsStore then
    let identity : Identity := ⟨spec.name, name⟩
    (if identity ∈ before.store then some ⟨identity, Dictionary.empty, none⟩ else none,
      before.note (.retrieve identity))
  else (none, before)

def resourceType (spec : Spec) : ResourceType World Instance where
  name := spec.name
  construct := spec.construct
  retrieve := spec.retrieve

end Spec

/-- Instances change only in themselves, and note what was done to them. -/
def operations : InstanceOps World Instance where
  attribute? handle key := handle.attributes.get? key
  setAttribute handle key value world :=
    ({ handle with attributes := handle.attributes.insert key value },
      world.note (.setAttribute handle.identity key value))
  setLocation handle location world :=
    ({ handle with location := some location }, world.note (.setLocation handle.identity location))
  destroy handle world := (world.note (.destroy handle.identity)).remove handle.identity

def table (specs : List Spec) : TypeTable World Instance :=
  TypeTable.ofList (specs.map Spec.resourceType)

/-- The provider of the types that are described. -/
def provider (specs : List Spec) : Provider World Instance :=
  (table specs).provider operations

end Manifest.Memory
