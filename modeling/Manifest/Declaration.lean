import Manifest.Attributes
import Manifest.StructureError

/-!
# Resource declarations

A declaration asks for one resource: it gives the type, the name and further attributes. The type
and the name are not empty, and the name is repeated as the first attribute, so that whoever builds
the resource from its attributes finds it there. No operation can change that attribute.
-/

namespace Manifest

/-- A request for one resource. -/
structure Declaration where
  identity : Identity
  attributes : Attributes
  location : Location
  resourceType_ne_empty : identity.resourceType ≠ ""
  name_ne_empty : identity.name ≠ ""
  head?_entries :
    attributes.entries.head? = some (Attributes.nameKey, .string identity.name)
  deriving DecidableEq

namespace Declaration

def resourceType (declaration : Declaration) : String :=
  declaration.identity.resourceType

def name (declaration : Declaration) : String :=
  declaration.identity.name

/-- A declaration with no attribute but its name. Of two faults the empty type is reported. -/
def create (resourceType name : String) (location : Location) : Except StructureError Declaration :=
  if noType : resourceType = "" then .error (.emptyResourceType location)
  else if noName : name = "" then .error (.emptyName resourceType location)
  else .ok {
    identity := ⟨resourceType, name⟩
    attributes := Dictionary.empty.insert Attributes.nameKey (.string name)
    location
    resourceType_ne_empty := noType
    name_ne_empty := noName
    head?_entries := rfl }

/-- The value of an attribute. -/
def attribute? (declaration : Declaration) (key : String) : Option Value :=
  declaration.attributes.get? key

theorem head?_put {key : String} (other : key ≠ Attributes.nameKey) (value : Value)
    {entries : List (String × Value)} {name : Value}
    (head : entries.head? = some (Attributes.nameKey, name)) :
    (Entries.put key value entries).head? = some (Attributes.nameKey, name) := by
  cases entries with
  | nil => simp at head
  | cons entry rest =>
      obtain rfl : entry = (Attributes.nameKey, name) := by simpa using head
      simp [Entries.put, Ne.symm other]

/-- Gives an attribute a value. The name attribute is fixed: setting it changes nothing. -/
def withAttribute (declaration : Declaration) (key : String) (value : Value) : Declaration :=
  if fixed : key = Attributes.nameKey then declaration
  else { declaration with
    attributes := declaration.attributes.insert key value
    head?_entries := head?_put fixed value declaration.head?_entries }

/-- Gives an attribute a value and tells the value it had before. For the name attribute, which is
fixed, nothing is told. -/
def setAttribute (declaration : Declaration) (key : String) (value : Value) :
    Option Value × Declaration :=
  (if key = Attributes.nameKey then none else declaration.attribute? key,
    declaration.withAttribute key value)

/-- Gives several attributes values, one after the other. -/
def withAttributes (declaration : Declaration) (entries : List (String × Value)) : Declaration :=
  entries.foldl (fun result entry => result.withAttribute entry.1 entry.2) declaration

def withLocation (declaration : Declaration) (location : Location) : Declaration :=
  { declaration with location }

/-- The declaration that consists of given parts. A name attribute may be among them if it agrees
with the name; it is checked after the type and the name. -/
def assemble (resourceType name : String) (attributes : Attributes) (location : Location) :
    Except StructureError Declaration :=
  match create resourceType name location with
  | .error fault => .error fault
  | .ok bare =>
      match attributes.get? Attributes.nameKey with
      | none => .ok (bare.withAttributes attributes.entries)
      | some value =>
          if value = .string name then .ok (bare.withAttributes attributes.entries)
          else .error (.nameMismatch name value location)

/-- One attribute in the written form of a declaration. -/
def displayEntry (entry : String × Value) : String :=
  entry.1 ++ ": " ++ entry.2.display

/-- The written form: the type, the name, and all attributes in order. -/
def display (declaration : Declaration) : String :=
  declaration.resourceType ++ "(" ++ declaration.name ++ ") => \x7b"
    ++ ", ".intercalate (declaration.attributes.entries.map displayEntry) ++ "\x7d"

/-- Whether two declarations are the same but for the order of their attributes. -/
def agrees (left right : Declaration) : Bool :=
  left.identity == right.identity && left.attributes.agrees right.attributes
    && left.location == right.location

@[simp]
theorem identity_withAttribute (declaration : Declaration) (key : String) (value : Value) :
    (declaration.withAttribute key value).identity = declaration.identity := by
  unfold withAttribute
  split <;> rfl

@[simp]
theorem location_withAttribute (declaration : Declaration) (key : String) (value : Value) :
    (declaration.withAttribute key value).location = declaration.location := by
  unfold withAttribute
  split <;> rfl

/-- Setting an attribute changes its value and no other, unless it is the name. -/
theorem attribute?_withAttribute (declaration : Declaration) (key other : String) (value : Value) :
    (declaration.withAttribute key value).attribute? other =
      if key ≠ Attributes.nameKey ∧ key = other then some value
      else declaration.attribute? other := by
  unfold withAttribute
  by_cases fixed : key = Attributes.nameKey
  · simp [fixed]
  · simp [fixed, attribute?, Dictionary.get?_insert]

/-- The name attribute is always there and says the name. -/
theorem attribute?_nameKey (declaration : Declaration) :
    declaration.attribute? Attributes.nameKey = some (.string declaration.name) := by
  have head := declaration.head?_entries
  simp only [attribute?, Dictionary.get?]
  cases entries : declaration.attributes.entries with
  | nil => simp [entries] at head
  | cons first rest =>
      rw [entries, List.head?_cons, Option.some.injEq] at head
      subst head
      simp [Entries.lookup, name]

theorem ext {left right : Declaration} (identity : left.identity = right.identity)
    (attributes : left.attributes = right.attributes) (location : left.location = right.location) :
    left = right := by
  cases left
  cases right
  subst identity attributes location
  rfl

@[simp]
theorem identity_withAttributes (declaration : Declaration) (entries : List (String × Value)) :
    (declaration.withAttributes entries).identity = declaration.identity := by
  induction entries generalizing declaration with
  | nil => rfl
  | cons entry rest ih => exact (ih _).trans (declaration.identity_withAttribute _ _)

@[simp]
theorem location_withAttributes (declaration : Declaration) (entries : List (String × Value)) :
    (declaration.withAttributes entries).location = declaration.location := by
  induction entries generalizing declaration with
  | nil => rfl
  | cons entry rest ih => exact (ih _).trans (declaration.location_withAttribute _ _)

theorem attributes_withAttributes {entries : List (String × Value)}
    (others : ∀ entry ∈ entries, entry.1 ≠ Attributes.nameKey) (declaration : Declaration) :
    (declaration.withAttributes entries).attributes =
      declaration.attributes.insertAll entries := by
  induction entries generalizing declaration with
  | nil => rfl
  | cons entry rest ih =>
      have first := others entry List.mem_cons_self
      have set : (declaration.withAttribute entry.1 entry.2).attributes =
          declaration.attributes.insert entry.1 entry.2 := by
        rw [withAttribute, dif_neg first]
      have later := ih (fun entry member => others entry (List.mem_cons_of_mem _ member))
        (declaration.withAttribute entry.1 entry.2)
      rw [set] at later
      exact later

theorem exists_entries_eq_cons (declaration : Declaration) :
    ∃ rest, declaration.attributes.entries =
        (Attributes.nameKey, .string declaration.name) :: rest ∧
      ∀ entry ∈ rest, entry.1 ≠ Attributes.nameKey := by
  have head := declaration.head?_entries
  have distinct := declaration.attributes.distinct
  cases entries : declaration.attributes.entries with
  | nil => simp [entries] at head
  | cons first rest =>
      rw [entries, List.head?_cons, Option.some.injEq] at head
      subst head
      rw [entries, List.map_cons, List.nodup_cons] at distinct
      refine ⟨rest, rfl, ?_⟩
      intro entry member same
      exact distinct.1 (List.mem_map.2 ⟨entry, member, same⟩)

/-- A declaration is what setting its attributes on a bare one, one after the other, leads to. -/
theorem withAttributes_entries {bare declaration : Declaration}
    (identity : bare.identity = declaration.identity)
    (attributes : bare.attributes.entries = [(Attributes.nameKey, .string declaration.name)])
    (location : bare.location = declaration.location) :
    bare.withAttributes declaration.attributes.entries = declaration := by
  rcases declaration.exists_entries_eq_cons with ⟨rest, entries, others⟩
  have distinct := declaration.attributes.distinct
  have skipped : bare.withAttributes declaration.attributes.entries = bare.withAttributes rest := by
    rw [entries, withAttributes, List.foldl_cons, withAttribute, dif_pos rfl]
    rfl
  rw [skipped]
  apply ext
  · rw [identity_withAttributes, identity]
  · rw [attributes_withAttributes others, Dictionary.ext_iff, Dictionary.entries_insertAll,
      attributes, entries]
    · rfl
    · rwa [attributes, List.singleton_append, ← entries]
  · rw [location_withAttributes, location]

/-- Every declaration consists of its own parts. -/
theorem assemble_parts (declaration : Declaration) :
    assemble declaration.resourceType declaration.name declaration.attributes
      declaration.location = .ok declaration := by
  have noType : ¬declaration.resourceType = "" := declaration.resourceType_ne_empty
  have noName : ¬declaration.name = "" := declaration.name_ne_empty
  have named := declaration.attribute?_nameKey
  rw [attribute?] at named
  simp only [assemble, create, noType, noName, dite_false, named, if_true, Except.ok.injEq]
  exact withAttributes_entries rfl rfl rfl

end Declaration

end Manifest
