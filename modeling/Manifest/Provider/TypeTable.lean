import Manifest.Provider.Basic

/-!
# Tables of resource types

A table knows resource types by their names. A type that is registered under a known name replaces
the one before. No order of the table shows: names are told in increasing order.
-/

namespace Manifest

/-- The last of some types that has a name. -/
def ResourceType.lastNamed? {σ ι : Type} (name : String) (types : List (ResourceType σ ι)) :
    Option (ResourceType σ ι) :=
  types.findRev? fun resourceType => resourceType.name = name

/-- Resource types by name. -/
structure TypeTable (σ ι : Type) where
  types : Dictionary String (ResourceType σ ι)

namespace TypeTable

variable {σ ι : Type}

def empty : TypeTable σ ι := ⟨Dictionary.empty⟩

/-- Adds a type under its own name. -/
def register (table : TypeTable σ ι) (resourceType : ResourceType σ ι) : TypeTable σ ι :=
  ⟨table.types.insert resourceType.name resourceType⟩

/-- The table in which types are registered one after the other. -/
def ofList (types : List (ResourceType σ ι)) : TypeTable σ ι :=
  types.foldl register empty

/-- The type that was registered last under a name. -/
def lookup (table : TypeTable σ ι) (name : String) : Option (ResourceType σ ι) :=
  table.types.get? name

def contains (table : TypeTable σ ι) (name : String) : Bool :=
  table.types.contains name

def names (table : TypeTable σ ι) : List String :=
  table.types.keys.mergeSort fun left right => decide (left ≤ right)

def size (table : TypeTable σ ι) : Nat :=
  table.types.size

def isEmpty (table : TypeTable σ ι) : Bool :=
  table.size == 0

def provider (table : TypeTable σ ι) (operations : InstanceOps σ ι) : Provider σ ι :=
  ⟨table.lookup, operations⟩

def summary (table : TypeTable σ ι) : String :=
  "TypeTable \x7b types: [" ++ ", ".intercalate (table.names.map Text.quote) ++ "] \x7d"

/-- A description of the table with a line to each name. -/
def listing (table : TypeTable σ ι) : String :=
  let names := table.names.map fun name => "        " ++ Text.quote name ++ ",\n"
  let body := if names.isEmpty then "[]" else "[\n" ++ String.join names ++ "    ]"
  "TypeTable \x7b\n    types: " ++ body ++ ",\n\x7d"

theorem lookup_register (table : TypeTable σ ι) (resourceType : ResourceType σ ι) (name : String) :
    (table.register resourceType).lookup name =
      if resourceType.name = name then some resourceType else table.lookup name :=
  Dictionary.get?_insert ..

theorem lookup_foldl_register (types : List (ResourceType σ ι)) (table : TypeTable σ ι)
    (name : String) :
    (types.foldl register table).lookup name =
      (ResourceType.lastNamed? name types).or (table.lookup name) := by
  induction types generalizing table with
  | nil => rfl
  | cons first rest ih =>
      rw [List.foldl_cons, ih, lookup_register]
      by_cases own : first.name = name <;> simp [ResourceType.lastNamed?, own]

/-- However often types were registered, the last one of a name is found. -/
theorem lookup_ofList (types : List (ResourceType σ ι)) (name : String) :
    (ofList types).lookup name = ResourceType.lastNamed? name types :=
  (lookup_foldl_register types empty name).trans Option.or_none

end TypeTable

end Manifest
