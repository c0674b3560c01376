import Mathlib.Data.List.Sort
import Mathlib.Data.String.Basic
import Manifest.Lowering.Lowered
import Manifest.Provider.Memory

/-!
# What a table of types answers

Types are registered in a table one after the other. The type that is found under a name is then the
last one that was registered under it (`TypeTable.lookup_ofList`), and all other answers of the table
follow from what is found in it (`TypeTable.Holds`).

The dictionary inside a table keeps the order in which names were first registered. No answer depends
on this order: the names are told in strictly increasing order, and there is only one way to write
down a set of names like that (`TypeTable.names_eq_of_lookup_eq`). So tables in which the same is
found under each name cannot be told from each other (`TypeTable.Alike`).
-/

namespace Manifest

variable {σ ι : Type}

theorem ResourceType.isSome_lastNamed?_iff (name : String) (types : List (ResourceType σ ι)) :
    (lastNamed? name types).isSome = true ↔
      ∃ resourceType ∈ types, resourceType.name = name := by
  simp [lastNamed?]

namespace TypeTable

/-! ### Names -/

theorem mem_names_iff_contains (table : TypeTable σ ι) (name : String) :
    name ∈ table.names ↔ table.contains name = true := by
  rw [names, List.mem_mergeSort, contains, Dictionary.contains_iff]

theorem length_names (table : TypeTable σ ι) : table.names.length = table.size := by
  rw [names, List.length_mergeSort, Dictionary.keys, List.length_map, size, Dictionary.size]

theorem nodup_names (table : TypeTable σ ι) : table.names.Nodup :=
  (List.mergeSort_perm _ _).nodup_iff.2 table.types.distinct

theorem pairwise_lt_names (table : TypeTable σ ι) : table.names.Pairwise (· < ·) := by
  have sorted : table.names.Pairwise (· ≤ ·) :=
    List.pairwise_mergeSort' (· ≤ ·) table.types.keys
  refine sorted.imp₂ ?_ table.nodup_names
  intro first second le ne
  exact lt_of_le_of_ne le ne

section

variable {left right : TypeTable σ ι}

theorem contains_eq_of_lookup_eq (same : ∀ name, left.lookup name = right.lookup name)
    (name : String) : left.contains name = right.contains name :=
  congrArg Option.isSome (same name)

/-- Which names are told, and in which order, depends on nothing but what is found. -/
theorem names_eq_of_lookup_eq (same : ∀ name, left.lookup name = right.lookup name) :
    left.names = right.names := by
  apply left.pairwise_lt_names.eq_of_mem_iff right.pairwise_lt_names
  intro name
  rw [mem_names_iff_contains, mem_names_iff_contains, contains_eq_of_lookup_eq same]

end

/-! ### All answers together -/

/-- A table holds some types, which were registered in order, and all of its answers agree with
them. -/
structure Holds (table : TypeTable σ ι) (types : List (ResourceType σ ι)) : Prop where
  lookup_eq : ∀ name, table.lookup name = ResourceType.lastNamed? name types
  contains_iff : ∀ name, table.contains name = true ↔
    ∃ resourceType, table.lookup name = some resourceType
  /-- Names are compared by their code points. -/
  names_increase : table.names.Pairwise (· < ·)
  mem_names_iff : ∀ name, name ∈ table.names ↔
    ∃ resourceType ∈ types, resourceType.name = name
  size_eq : table.size = table.names.length
  isEmpty_iff : table.isEmpty = true ↔ table.names = []

theorem holds_ofList (types : List (ResourceType σ ι)) : (ofList types).Holds types where
  lookup_eq := lookup_ofList types
  contains_iff name := Option.isSome_iff_exists
  names_increase := pairwise_lt_names _
  mem_names_iff name := by
    rw [mem_names_iff_contains, ← ResourceType.isSome_lastNamed?_iff, ← lookup_ofList]
    rfl
  size_eq := (length_names _).symm
  isEmpty_iff := by rw [isEmpty, beq_iff_eq, ← length_names, List.length_eq_zero_iff]

/-- Two tables answer all questions alike, and it is the same to lower a tree with either. -/
structure Alike (left right : TypeTable σ ι) : Prop where
  lookup : ∀ name, left.lookup name = right.lookup name
  contains : ∀ name, left.contains name = right.contains name
  names : left.names = right.names
  size : left.size = right.size
  isEmpty : left.isEmpty = right.isEmpty
  summary : left.summary = right.summary
  listing : left.listing = right.listing
  lower : ∀ operations options scope world,
    lower (left.provider operations) options scope world =
      lower (right.provider operations) options scope world

/-- Tables in which the same is found cannot be told from each other. -/
theorem alike_of_lookup_eq {left right : TypeTable σ ι}
    (same : ∀ name, left.lookup name = right.lookup name) : left.Alike right := by
  have names : left.names = right.names := names_eq_of_lookup_eq same
  have size : left.size = right.size := by rw [← length_names, ← length_names, names]
  have provider (operations : InstanceOps σ ι) :
      left.provider operations = right.provider operations := by
    rw [TypeTable.provider, TypeTable.provider, funext same]
  exact {
    lookup := same
    contains := contains_eq_of_lookup_eq same
    names
    size
    isEmpty := by rw [isEmpty, isEmpty, size]
    summary := by
      unfold summary
      rw [names]
    listing := by
      unfold listing
      rw [names]
    lower := by
      intro operations options scope world
      rw [provider] }

/-- Of the types that are registered under one name the last one counts, and nothing else does: not
the types that it replaces, and not the order in which names are registered. -/
theorem last_registered_counts (types : List (ResourceType σ ι)) :
    (ofList types).Holds types ∧
      ∀ others : List (ResourceType σ ι),
        (∀ name, ResourceType.lastNamed? name types = ResourceType.lastNamed? name others) →
          (ofList types).Alike (ofList others) := by
  refine ⟨holds_ofList types, ?_⟩
  intro others same
  apply alike_of_lookup_eq
  intro name
  rw [lookup_ofList, lookup_ofList, same]

end TypeTable

namespace Memory

/-- Files are described twice, and the second time they must have a mode. -/
def sampleTypes : List (ResourceType World Instance) :=
  [⟨"service", true, []⟩, ⟨"file", true, []⟩, ⟨"file", true, ["mode"]⟩].map Spec.resourceType

/-- The same types without the one that is replaced, in the other order. -/
def sampleTypesInOtherOrder : List (ResourceType World Instance) :=
  [⟨"file", true, ["mode"]⟩, ⟨"service", true, []⟩].map Spec.resourceType

end Memory

/-- The two tables are not the same, since names were first registered in different orders. -/
theorem TypeTable.last_registered_counts_sampleTypes :
    (∀ name, ResourceType.lastNamed? name Memory.sampleTypes =
        ResourceType.lastNamed? name Memory.sampleTypesInOtherOrder) ∧
      (TypeTable.ofList Memory.sampleTypes).types.keys = ["service", "file"] ∧
      (TypeTable.ofList Memory.sampleTypesInOtherOrder).types.keys = ["file", "service"] ∧
      (TypeTable.ofList Memory.sampleTypes).Holds Memory.sampleTypes ∧
      (TypeTable.ofList Memory.sampleTypes).Alike
        (TypeTable.ofList Memory.sampleTypesInOtherOrder) := by
  have same (name : String) : ResourceType.lastNamed? name Memory.sampleTypes =
      ResourceType.lastNamed? name Memory.sampleTypesInOtherOrder := by
    by_cases file : "file" = name
    · subst file
      rfl
    · by_cases service : "service" = name
      · subst service
        rfl
      · simp [ResourceType.lastNamed?, Memory.sampleTypes, Memory.sampleTypesInOtherOrder,
          Memory.Spec.resourceType, file, service]
  rcases TypeTable.last_registered_counts Memory.sampleTypes with ⟨holds, alike⟩
  exact ⟨same, by decide +kernel, by decide +kernel, holds, alike _ same⟩

end Manifest
