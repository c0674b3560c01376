import Manifest.Interchange.Read
import Manifest.Proofs.Json.Scan

/-!
# Edited declarations

A declaration comes to be by being created or by being read (`Declaration.Begins`). It is changed by
setting attributes and by moving it (`Edit`). Whatever is done, it keeps its type and its name,
and the name stays the first attribute. Other attributes stand in the order in which they were first
given, those that were read before those that were set, and have the last value they were given.
-/

namespace Manifest

inductive Edit where
  | setAttribute (key : String) (value : Value)
  | withAttribute (key : String) (value : Value)
  | withLocation (location : Location)

namespace Edit

def apply : Edit → Declaration → Declaration
  | .setAttribute key value, declaration => (declaration.setAttribute key value).2
  | .withAttribute key value, declaration => declaration.withAttribute key value
  | .withLocation location, declaration => declaration.withLocation location

def assignment? : Edit → Option (String × Value)
  | .setAttribute key value => some (key, value)
  | .withAttribute key value => some (key, value)
  | .withLocation _ => none

end Edit

/-- The values that edits give to keys, the name included, oldest first. -/
def Edit.assignments (edits : List Edit) : List (String × Value) :=
  edits.filterMap assignment?

namespace Declaration

def edit (declaration : Declaration) (edits : List Edit) : Declaration :=
  edits.foldl (fun current change => change.apply current) declaration

/-! ### Setting attributes -/

theorem withAttributes_filter (declaration : Declaration) (entries : List (String × Value)) :
    declaration.withAttributes (entries.filter fun entry => entry.1 ≠ Attributes.nameKey) =
      declaration.withAttributes entries := by
  induction entries generalizing declaration with
  | nil => rfl
  | cons entry rest ih =>
      rcases entry with ⟨key, value⟩
      by_cases fixed : key = Attributes.nameKey
      · have skipped : declaration.withAttribute key value = declaration := by
          rw [withAttribute, dif_pos fixed]
        refine Eq.trans ?_ (congrArg (withAttributes · rest) skipped.symm)
        simpa [fixed] using ih declaration
      · have later := ih (declaration.withAttribute key value)
        rw [List.filter_cons_of_pos (by simpa using fixed)]
        exact later

theorem attributes_withAttributes_eq (declaration : Declaration)
    (entries : List (String × Value)) :
    (declaration.withAttributes entries).attributes =
      declaration.attributes.insertAll
        (entries.filter fun entry => entry.1 ≠ Attributes.nameKey) := by
  rw [← withAttributes_filter]
  apply attributes_withAttributes
  intro entry member
  simpa using (List.mem_filter.1 member).2

/-- New keys are added in the order in which they are first set. -/
theorem keys_withAttributes (declaration : Declaration) (entries : List (String × Value)) :
    (declaration.withAttributes entries).attributes.keys =
      declaration.attributes.keys ++
        ((entries.map Prod.fst).filter (· ∉ declaration.attributes.keys)).eraseDups := by
  -- the name is among the keys already, so that it makes no difference whether it is set
  have named : Attributes.nameKey ∈ declaration.attributes.keys := by
    rcases declaration.exists_entries_eq_cons with ⟨rest, entries, _⟩
    simp [Dictionary.keys, entries]
  rw [attributes_withAttributes_eq, Dictionary.keys_insertAll, List.filter_map, List.filter_map,
    List.filter_filter]
  congr 3
  apply List.filter_congr
  intro entry _
  by_cases fixed : entry.1 = Attributes.nameKey <;> simp [fixed, named]

/-- An attribute has the last value that it was given. -/
theorem attribute?_withAttributes_of_ne {key : String} (other : key ≠ Attributes.nameKey)
    (declaration : Declaration) (entries : List (String × Value)) :
    (declaration.withAttributes entries).attribute? key =
      (Entries.lookup key entries.reverse).or (declaration.attribute? key) := by
  induction entries generalizing declaration with
  | nil => rfl
  | cons entry rest ih =>
      rcases entry with ⟨first, value⟩
      have later := ih (declaration.withAttribute first value)
      rw [attribute?_withAttribute] at later
      refine later.trans ?_
      rw [List.reverse_cons, Entries.lookup_append, Option.or_assoc]
      congr 1
      by_cases asked : first = key
      · simp [asked, other, Entries.lookup]
      · simp [asked, Entries.lookup]

theorem withAttributes_withLocation (declaration : Declaration) (location : Location)
    (entries : List (String × Value)) :
    (declaration.withLocation location).withAttributes entries =
      (declaration.withAttributes entries).withLocation location := by
  induction entries generalizing declaration with
  | nil => rfl
  | cons entry rest ih =>
      rcases entry with ⟨key, value⟩
      have moved : (declaration.withLocation location).withAttribute key value =
          (declaration.withAttribute key value).withLocation location := by
        unfold withAttribute
        split <;> rfl
      refine Eq.trans ?_ (ih (declaration.withAttribute key value))
      rw [← moved]
      rfl

/-- As far as attributes are concerned, editing is setting them one after the other. -/
theorem attributes_edit (declaration : Declaration) (edits : List Edit) :
    (declaration.edit edits).attributes =
      (declaration.withAttributes (Edit.assignments edits)).attributes := by
  induction edits generalizing declaration with
  | nil => rfl
  | cons change rest ih =>
      refine (ih (change.apply declaration)).trans ?_
      cases change with
      | setAttribute key value => rfl
      | withAttribute key value => rfl
      | withLocation location =>
          -- moving commutes with all that comes later, and touches no attribute
          simp only [Edit.apply, withAttributes_withLocation]
          rfl

theorem identity_edit (declaration : Declaration) (edits : List Edit) :
    (declaration.edit edits).identity = declaration.identity := by
  induction edits generalizing declaration with
  | nil => rfl
  | cons change rest ih =>
      refine (ih (change.apply declaration)).trans ?_
      cases change with
      | setAttribute key value => exact declaration.identity_withAttribute key value
      | withAttribute key value => exact declaration.identity_withAttribute key value
      | withLocation location => rfl

/-! ### Beginnings -/

end Declaration

namespace Interchange

variable {α β δ : Type}

theorem bind_eq_ok_iff {ε : Type} {first : Except ε α} {next : α → Except ε β} {result : β} :
    (first >>= next) = .ok result ↔ ∃ content, first = .ok content ∧ next content = .ok result := by
  cases first with
  | error fault => simp [bind, Except.bind]
  | ok content => simp [bind, Except.bind]

/-- To read a record is to read a draft and to finish it. -/
theorem readRecord_eq_ok_iff {depth : Nat} {title : String} {fields : List (Field δ)} {start : δ}
    {finish : δ → Except ReadError α} {tokens rest : List Json.Token} {content : α} :
    readRecord depth title fields start finish tokens = .ok (content, rest) ↔
      ∃ draft, readRecord depth title fields start .ok tokens = .ok (draft, rest) ∧
        finish draft = .ok content := by
  unfold readRecord
  split
  · split
    · simp [fail]
    · simp only [bind_eq_ok_iff, pure, Except.pure, Except.ok.injEq, Prod.mk.injEq, Prod.exists]
      grind
  · split
    · simp [fail]
    · simp only [bind_eq_ok_iff, pure, Except.pure, Except.ok.injEq, Prod.mk.injEq, Prod.exists]
      grind
  · simp [wrongKind, refuse, bind_eq_ok_iff]

/-- Reads what has been given of a declaration, which need not be enough. -/
def readDeclarationDraft (depth : Nat) : Reader DeclarationDraft :=
  readRecord depth "struct RawDeclaration" (declarationFields (depth - 1)) ⟨none, none, none, none⟩
    .ok

end Interchange

namespace Declaration

/-- A declaration comes to be from given attributes. It is created, for which none are given, or it
is assembled from the parts of a record. If the record is read from JSON, it may say nothing about
attributes. -/
inductive Begins (declaration : Declaration) : Attributes → Prop where
  | created {resourceType name : String} {location : Location}
      (made : create resourceType name location = .ok declaration) : Begins declaration ∅
  | assembled {resourceType name : String} {given : Attributes} {location : Location}
      (made : assemble resourceType name given location = .ok declaration) :
      Begins declaration given
  | read {depth : Nat} {tokens rest : List Json.Token} {draft : Interchange.DeclarationDraft}
      (drafted : Interchange.readDeclarationDraft depth tokens = .ok (draft, rest))
      (finished : Interchange.readDeclaration depth tokens = .ok (declaration, rest)) :
      Begins declaration (draft.attributes.getD ∅)

theorem entries_of_create {resourceType name : String} {location : Location}
    {declaration : Declaration} (created : create resourceType name location = .ok declaration) :
    declaration.attributes.entries = [(Attributes.nameKey, .string declaration.name)] := by
  unfold create at created
  split at created
  · contradiction
  · split at created
    · contradiction
    · rw [Except.ok.injEq] at created
      rw [← created]
      rfl

theorem exists_create_of_assemble {resourceType name : String} {given : Attributes}
    {location : Location} {declaration : Declaration}
    (assembled : assemble resourceType name given location = .ok declaration) :
    ∃ bare, create resourceType name location = .ok bare ∧
      bare.withAttributes given.entries = declaration := by
  unfold assemble at assembled
  cases created : create resourceType name location with
  | error fault => simp [created] at assembled
  | ok bare =>
      refine ⟨bare, rfl, ?_⟩
      rw [created] at assembled
      cases named : given.get? Attributes.nameKey with
      | none => simpa [named] using assembled
      | some value =>
          by_cases same : value = .string name
          · simpa [named, same] using assembled
          · simp [named, same] at assembled

/-- What a declaration is assembled from, but for a name among the attributes, follows the name. -/
theorem entries_of_assemble {resourceType name : String} {given : Attributes} {location : Location}
    {declaration : Declaration}
    (assembled : assemble resourceType name given location = .ok declaration) :
    declaration.attributes.entries = (Attributes.nameKey, .string declaration.name) ::
      given.entries.filter fun entry => entry.1 ≠ Attributes.nameKey := by
  rcases exists_create_of_assemble assembled with ⟨bare, created, set⟩
  have alone := entries_of_create created
  have named : declaration.name = bare.name := by
    rw [← set, Declaration.name, identity_withAttributes, Declaration.name]
  have others : ∀ entry ∈ given.entries.filter fun entry => entry.1 ≠ Attributes.nameKey,
      entry.1 ≠ Attributes.nameKey := by
    intro entry member
    simpa using (List.mem_filter.1 member).2
  have distinct : ((bare.attributes.entries ++
      given.entries.filter fun entry => entry.1 ≠ Attributes.nameKey).map Prod.fst).Nodup := by
    rw [alone, List.singleton_append, List.map_cons, List.nodup_cons]
    constructor
    · intro present
      rcases List.mem_map.1 present with ⟨entry, member, same⟩
      exact others entry member same
    · exact given.distinct.sublist (List.filter_sublist.map Prod.fst)
  rw [named, ← set, attributes_withAttributes_eq, Dictionary.entries_insertAll distinct, alone,
    List.singleton_append]

theorem exists_assemble_of_finish {draft : Interchange.DeclarationDraft} {declaration : Declaration}
    (finished : draft.finish = .ok declaration) :
    ∃ resourceType name location,
      assemble resourceType name (draft.attributes.getD ∅) location = .ok declaration := by
  simp only [Interchange.DeclarationDraft.finish, Interchange.bind_eq_ok_iff] at finished
  rcases finished with ⟨resourceType, _, name, _, finished⟩
  refine ⟨resourceType, name, draft.location.getD .unknown, ?_⟩
  split at finished
  · next assembled =>
      rw [Except.ok.injEq] at finished
      rw [← finished]
      exact assembled
  · contradiction

theorem Begins.entries_eq {start : Declaration} {given : Attributes} (begins : start.Begins given) :
    start.attributes.entries = (Attributes.nameKey, .string start.name) ::
      given.entries.filter fun entry => entry.1 ≠ Attributes.nameKey := by
  cases begins with
  | created made => exact entries_of_create made
  | assembled made => exact entries_of_assemble made
  | @read depth tokens rest draft drafted finished =>
      rcases Interchange.readRecord_eq_ok_iff.1 finished with ⟨same, redrafted, finishing⟩
      obtain rfl : draft = same := by
        have equal := drafted.symm.trans redrafted
        simpa using equal
      rcases exists_assemble_of_finish finishing with ⟨_, _, _, assembled⟩
      exact entries_of_assemble assembled

theorem Begins.keys_eq {start : Declaration} {given : Attributes} (begins : start.Begins given) :
    start.attributes.keys = Attributes.nameKey :: given.keys.filter (· ≠ Attributes.nameKey) := by
  simp only [Dictionary.keys, begins.entries_eq, List.map_cons, List.filter_map]
  rfl

theorem Begins.attribute?_eq {start : Declaration} {given : Attributes}
    (begins : start.Begins given) {key : String} (other : key ≠ Attributes.nameKey) :
    start.attribute? key = given.get? key := by
  apply Option.ext
  intro value
  rw [attribute?, Dictionary.get?_eq_some_iff, Dictionary.get?_eq_some_iff, begins.entries_eq]
  simp [other]

/-- However a declaration has come to be and whatever is done to it, its type, its name and its
first attribute are what they were, and no key is there twice. Behind the name come the keys that
were given, and behind these the ones that were set, in the order in which they were first set. Each
has its last value, which is also the one that is told when it is set again. Setting the name tells
nothing and changes nothing. -/
theorem edit_of_begins {start : Declaration} {given : Attributes} (begins : start.Begins given)
    (edits : List Edit) :
    let edited := start.edit edits
    let assigned := Edit.assignments edits
    (edited.identity = start.identity ∧ edited.resourceType ≠ "" ∧ edited.name ≠ "") ∧
      edited.attributes.keys.Nodup ∧
      edited.attributes.entries.head? = some (Attributes.nameKey, .string edited.name) ∧
      edited.attributes.keys =
        Attributes.nameKey :: (given.keys.filter (· ≠ Attributes.nameKey) ++
          ((assigned.map Prod.fst).filter fun key =>
            key ≠ Attributes.nameKey ∧ key ∉ given.keys).eraseDups) ∧
      (∀ key value, key ≠ Attributes.nameKey →
        edited.attribute? key = (Entries.lookup key assigned.reverse).or (given.get? key) ∧
          (edited.setAttribute key value).1 =
            (Entries.lookup key assigned.reverse).or (given.get? key)) ∧
      ∀ value, edited.setAttribute Attributes.nameKey value = (none, edited) := by
  dsimp only
  refine ⟨⟨start.identity_edit edits, (start.edit edits).resourceType_ne_empty,
    (start.edit edits).name_ne_empty⟩, (start.edit edits).attributes.distinct,
    (start.edit edits).head?_entries, ?_, ?_, ?_⟩
  · have fresh (key : String) : key ∉ start.attributes.keys ↔
        key ≠ Attributes.nameKey ∧ key ∉ given.keys := by
      rw [begins.keys_eq]
      by_cases fixed : key = Attributes.nameKey
      · simp [fixed]
      · simp [fixed]
    rw [attributes_edit, keys_withAttributes]
    simp only [fresh]
    rw [begins.keys_eq, List.cons_append]
  · intro key value other
    have asked : (start.edit edits).attribute? key =
        (Entries.lookup key (Edit.assignments edits).reverse).or (given.get? key) := by
      rw [← begins.attribute?_eq other, ← attribute?_withAttributes_of_ne other, attribute?,
        attributes_edit, attribute?]
    refine ⟨asked, ?_⟩
    simp only [setAttribute, other, if_false, asked]
  · intro value
    simp [setAttribute, withAttribute]

/-- A declaration as it may be written, with the name among the attributes. -/
def sampleRecord : Json :=
  .object [("resource_type", .string "file"),
    ("attributes", .object [("mode", .object [("String", .string "0600")]),
      ("name", .object [("String", .string "/a")]),
      ("owner", .object [("String", .string "root")])]),
    ("name", .string "/a")]

/-- Edits that set a key that was given, a new one twice, and the name. -/
def sampleEdits : List Edit :=
  [.setAttribute "group" (.string "wheel"), .withAttribute "mode" (.string "0644"),
    .setAttribute "name" (.string "/b"), .withLocation ⟨some "site.pp", some 7⟩,
    .setAttribute "group" (.string "staff")]

theorem edit_sampleRecord :
    ∃ draft start,
      Interchange.readDeclarationDraft 4 sampleRecord.tokens = .ok (draft, []) ∧
        Interchange.readDeclaration 4 sampleRecord.tokens = .ok (start, []) ∧
        (draft.attributes.getD ∅).keys = ["mode", "name", "owner"] ∧
        (start.edit sampleEdits).attributes.keys = ["name", "mode", "owner", "group"] ∧
        (start.edit sampleEdits).attribute? "group" = some (.string "staff") ∧
        ∀ value, ((start.edit sampleEdits).setAttribute "mode" value).1 =
          some (.string "0644") := by
  refine ⟨_, _, rfl, rfl, rfl, ?_⟩
  have drafted : Interchange.readDeclarationDraft 4 sampleRecord.tokens = .ok (_, []) := rfl
  have finished : Interchange.readDeclaration 4 sampleRecord.tokens = .ok (_, []) := rfl
  rcases edit_of_begins (.read drafted finished) sampleEdits with ⟨_, _, _, keys, values, _⟩
  refine ⟨keys.trans rfl, (values "group" (.string "wheel") (by decide)).1.trans rfl, ?_⟩
  intro value
  exact (values "mode" value (by decide)).2.trans rfl

end Declaration

end Manifest
