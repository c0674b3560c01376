import Manifest.Lowering.Resolution
import Manifest.Proofs.Provider.Laws

/-!
# Attributes of containers and of resources

The attributes of a container are decided by its scope alone (`openContainer_fst`), and to open it
leaves nothing but lines in the log (`openContainer_snd`).

The attributes of an instance are, for a provider whose instances keep their attributes, the ones of
the declaration it was built from (`attribute?_setLocation_construct`), overlaid by those of every
declaration that is merged into it, except for the name (`attribute?_mergeInto`).
-/

namespace Manifest

variable {σ ι : Type}

/-- The attributes of the container of a scope: the name, the type if there is one, and then the
defaults, which may say something else about either. -/
def seedAttributes (name : String) (scopeType : Option String) (defaults : Option Attributes) :
    Attributes :=
  let named : Attributes := Dictionary.empty.insert Attributes.nameKey (.string name)
  let typed :=
    match scopeType with
    | some text => named.insert Attributes.typeKey (.string text)
    | none => named
  match defaults with
  | some defaults => typed.insertAll defaults.entries
  | none => typed

theorem defineDefaults_fst (scope : String) (entries : List (String × Value))
    (attributes : Attributes) (session : Session σ) :
    (defineDefaults scope entries attributes session).1 = attributes.insertAll entries := by
  induction entries generalizing attributes session with
  | nil => rfl
  | cons entry rest ih =>
      rcases entry with ⟨key, value⟩
      exact ih (attributes.insert key value) (session.note (.definingDefault scope key))

theorem openContainer_fst (name : String) (scopeType : Option String)
    (defaults : Option Attributes) (session : Session σ) :
    (openContainer name scopeType defaults session).1 =
      seedAttributes name scopeType defaults := by
  cases scopeType <;> cases defaults <;>
    simp only [openContainer, seedAttributes, defineDefaults_fst]

section

variable (name : String) (scopeType : Option String) (defaults : Option Attributes)

theorem keys_seedAttributes_none :
    (seedAttributes name scopeType none).keys =
      Attributes.nameKey :: scopeType.toList.map fun _ => Attributes.typeKey := by
  cases scopeType <;> rfl

/-- A default comes before what the scope says about itself. -/
theorem get?_seedAttributes (key : String) :
    (seedAttributes name scopeType defaults).get? key =
      (defaults.bind fun defaults => defaults.get? key).or
        ((seedAttributes name scopeType none).get? key) := by
  cases defaults with
  | none => rfl
  | some given => exact Dictionary.get?_insertAll given.distinct _ key

theorem keys_seedAttributes :
    (seedAttributes name scopeType defaults).keys =
      (seedAttributes name scopeType none).keys ++
        (defaults.elim [] Dictionary.keys).filter
          (· ∉ (seedAttributes name scopeType none).keys) := by
  cases defaults with
  | none => simp
  | some given => exact Dictionary.keys_insertAll_of_nodup given.distinct _

end

/-- The lines that opening a container adds to the log. -/
def openingEvents (name : String) (scopeType : Option String) (defaults : Option Attributes) :
    List LogEvent :=
  (if scopeType.isNone then [.scopeWithoutType name] else []) ++
    match defaults with
    | some defaults => defaults.entries.map fun entry => .definingDefault name entry.1
    | none => [.scopeWithoutDefaults name]

theorem defineDefaults_snd (scope : String) (entries : List (String × Value))
    (attributes : Attributes) (session : Session σ) :
    (defineDefaults scope entries attributes session).2 =
      { session with
        log := session.log ++ entries.map fun entry => .definingDefault scope entry.1 } := by
  induction entries generalizing attributes session with
  | nil => simp [defineDefaults]
  | cons entry rest ih =>
      rcases entry with ⟨key, value⟩
      rw [defineDefaults, ih]
      simp [Session.note]

theorem openContainer_snd (name : String) (scopeType : Option String)
    (defaults : Option Attributes) (session : Session σ) :
    (openContainer name scopeType defaults session).2 =
      { session with log := session.log ++ openingEvents name scopeType defaults } := by
  cases scopeType <;> cases defaults <;>
    simp [openContainer, openingEvents, defineDefaults_snd, Session.note]

variable {provider : Provider σ ι}

/-- Merging attributes sets all of them but the name, and leaves all others. -/
theorem attribute?_mergeAttributes (keeps : provider.KeepsAttributes) {identity : Identity}
    {entries : List (String × Value)} (distinct : (entries.map Prod.fst).Nodup) (handle : ι)
    (session : Session σ) (key : String) :
    provider.operations.attribute?
        (mergeAttributes provider identity entries handle session).1 key =
      if key = Attributes.nameKey then provider.operations.attribute? handle key
      else (Entries.lookup key entries).or (provider.operations.attribute? handle key) := by
  induction entries generalizing handle session with
  | nil => simp [mergeAttributes, Entries.lookup]
  | cons entry rest ih =>
      rcases entry with ⟨first, value⟩
      rw [List.map_cons, List.nodup_cons] at distinct
      rcases distinct with ⟨absent, distinct⟩
      simp only [mergeAttributes, Entries.lookup]
      by_cases fixed : first = Attributes.nameKey
      · subst fixed
        rw [if_pos rfl, ih distinct]
        by_cases asked : key = Attributes.nameKey
        · simp [asked]
        · simp [asked, Ne.symm asked]
      · rw [if_neg fixed, ih distinct, keeps.attribute?_setAttribute]
        by_cases asked : first = key
        · subst asked
          have none : Entries.lookup first rest = none :=
            (Entries.lookup_eq_none_iff first rest).2 absent
          simp [fixed, none]
        · simp [asked]

theorem attribute?_mergeInto (keeps : provider.KeepsAttributes) (scope : String)
    (existing : RealizedResource ι) (declaration : Declaration) (session : Session σ)
    (key : String) :
    provider.operations.attribute?
        (mergeInto provider scope existing declaration session).1.handle key =
      if key = Attributes.nameKey then provider.operations.attribute? existing.handle key
      else (declaration.attribute? key).or (provider.operations.attribute? existing.handle key) :=
  attribute?_mergeAttributes keeps declaration.attributes.distinct existing.handle session key

theorem location?_mergeAttributes {location? : ι → Option Location}
    (keeps : provider.KeepsLocation location?) (identity : Identity)
    (entries : List (String × Value)) (handle : ι) (session : Session σ) :
    location? (mergeAttributes provider identity entries handle session).1 =
      location? handle := by
  induction entries generalizing handle session with
  | nil => rfl
  | cons entry rest ih =>
      rcases entry with ⟨key, value⟩
      simp only [mergeAttributes]
      split
      · exact ih handle session
      · rw [ih, keeps.location?_setAttribute]

/-- A resource that was built and moved to its location has the attributes it was built from. -/
theorem attribute?_setLocation_construct (keeps : provider.KeepsAttributes)
    {declaration : Declaration} {resourceType : ResourceType σ ι} {handle located : ι}
    {before world after : σ}
    (known : provider.lookup declaration.resourceType = some resourceType)
    (constructed : resourceType.construct declaration.attributes before = (.ok handle, world))
    (moved : provider.operations.setLocation handle declaration.location world = (located, after))
    (key : String) :
    provider.operations.attribute? located key = declaration.attribute? key := by
  have moves := keeps.attribute?_setLocation handle declaration.location world key
  rw [moved] at moves
  rw [moves]
  exact keeps.attribute?_construct known (by rw [constructed]) key

end Manifest
