import Manifest.Proofs.Editing
import Manifest.Proofs.Interchange.RoundTrip

/-!
# Which declarations are read

The object of a declaration says what its type and its name are, and it may say what its attributes
and its location are. It says each of these in a member of its own (`Clause`), in any order and
among members that say nothing. How a member is spelled does not matter as long as it can be read
(`Clause.Spelled`).

Whether there is a declaration to which all this applies is asked only once everything has been read
(`Gathers.readRecord_eq`). `Judged` says when there is one and what it is, and what is wrong
otherwise.
-/

namespace Manifest

theorem Declaration.parts_of_assemble {resourceType name : String} {given : Attributes}
    {location : Location} {declaration : Declaration}
    (assembled : assemble resourceType name given location = .ok declaration) :
    declaration.identity = ⟨resourceType, name⟩ ∧ declaration.location = location := by
  rcases exists_create_of_assemble assembled with ⟨bare, created, rfl⟩
  rw [identity_withAttributes, location_withAttributes]
  unfold create at created
  split at created
  · cases created
  · split at created
    · cases created
    · cases created
      exact ⟨rfl, rfl⟩

namespace Interchange

open Json

/-- What a member of the object of a declaration says. -/
inductive Clause where
  | resourceType (text : String)
  | name (text : String)
  | attributes (entries : List (String × Value))
  | location (location : Location)
  | nothing

namespace Clause

def resourceType? : Clause → Option String
  | .resourceType text => some text
  | _ => none

def name? : Clause → Option String
  | .name text => some text
  | _ => none

def attributes? : Clause → Option (List (String × Value))
  | .attributes entries => some entries
  | _ => none

def location? : Clause → Option Location
  | .location content => some content
  | _ => none

end Clause

/-- How a key and a value may be spelled, given how deep the value may be. -/
structure SpelledEntry (depth : Nat) (entry : String × Value)
    (member : List Piece × List Token) : Prop where
  key : readPieces member.1 = .ok entry.1
  value : Takes (readValue depth) member.2 entry.2

/-- How a member may be spelled, given how deep the values of attributes may be. -/
inductive Clause.Spelled (depth : Nat) : Clause → List Piece × List Token → Prop where
  | resourceType {pieces : List Piece} {content : List Token} {text : String}
      (named : readPieces pieces = .ok "resource_type") (takes : Takes readString content text) :
      Spelled depth (.resourceType text) (pieces, content)
  | name {pieces : List Piece} {content : List Token} {text : String}
      (named : readPieces pieces = .ok "name") (takes : Takes readString content text) :
      Spelled depth (.name text) (pieces, content)
  | attributes {pieces : List Piece} {entries : List (String × Value)}
      {members : List (List Piece × List Token)} (named : readPieces pieces = .ok "attributes")
      (spelled : List.Forall₂ (SpelledEntry depth) entries members) :
      Spelled depth (.attributes entries) (pieces, .openBrace :: spelledTokens [] members)
  | location {pieces : List Piece} {content : List Token} {location : Location}
      (named : readPieces pieces = .ok "location")
      (takes : Takes (readLocation (depth + 1)) content location) :
      Spelled depth (.location location) (pieces, content)
  | nothing {key : String} {pieces : List Piece} {content : List Token}
      (named : readPieces pieces = .ok key)
      (unasked : key ∉ ["resource_type", "name", "attributes", "location"])
      (takes : Takes readIgnored content ()) :
      Spelled depth .nothing (pieces, content)

/-- An object says a type and a name, and it says attributes and a location if these are given. -/
structure Gives (clauses : List Clause) (resourceType name : String)
    (given : Option (List (String × Value))) (place : Option Location) : Prop where
  resourceType : clauses.filterMap Clause.resourceType? = [resourceType]
  name : clauses.filterMap Clause.name? = [name]
  attributes : clauses.filterMap Clause.attributes? = given.toList
  location : clauses.filterMap Clause.location? = place.toList

/-- What comes of reading a type, a name, attributes and a location. The last value that is given
for the name is the one that has to agree with it. -/
structure Judged (resourceType name : String) (entries : List (String × Value))
    (location : Location) (result : Except ReadError Declaration) : Prop where
  accepted_iff : (∃ declaration, result = .ok declaration) ↔
    resourceType ≠ "" ∧ name ≠ "" ∧
      ∀ value, Entries.lookup Attributes.nameKey entries.reverse = some value →
        value = .string name
  accepted : ∀ declaration, result = .ok declaration →
    declaration.identity = ⟨resourceType, name⟩ ∧ declaration.location = location ∧
      declaration.attributes.keys = Attributes.nameKey ::
        (entries.map Prod.fst).eraseDups.filter (· ≠ Attributes.nameKey) ∧
      declaration.attribute? Attributes.nameKey = some (.string name) ∧
      ∀ key, key ≠ Attributes.nameKey →
        declaration.attribute? key = Entries.lookup key entries.reverse
  emptyResourceType : resourceType = "" →
    result = refuse (.refused (.emptyResourceType location))
  emptyName : resourceType ≠ "" → name = "" →
    result = refuse (.refused (.emptyName resourceType location))
  mismatch : resourceType ≠ "" → name ≠ "" →
    ∀ value, Entries.lookup Attributes.nameKey entries.reverse = some value →
      value ≠ .string name → result = refuse (.refused (.nameMismatch name value location))

/-- The declaration that has been read, if there is one. -/
def judge (resourceType name : String) (entries : List (String × Value)) (location : Location) :
    Except ReadError Declaration :=
  match Declaration.assemble resourceType name (Dictionary.ofList entries) location with
  | .ok declaration => .ok declaration
  | .error cause => refuse (.refused cause)

/-! ### What is read -/

theorem gathers_attributes {depth : Nat} {entries : List (String × Value)}
    {members : List (List Piece × List Token)}
    (spelled : List.Forall₂ (SpelledEntry depth) entries members) (attributes : Attributes) :
    Gathers (readAttribute depth) members attributes (attributes.insertAll entries) := by
  induction spelled generalizing attributes with
  | nil => exact .nil
  | @cons entry member _ _ first others ih =>
      apply Gathers.cons first.key _ (ih (attributes.insert entry.1 entry.2))
      intro rest
      simp only [List.cons_append, readAttribute, behindColon, first.value rest, bind, Except.bind,
        pure, Except.pure]

theorem takes_attributes {depth : Nat} {entries : List (String × Value)}
    {members : List (List Piece × List Token)}
    (spelled : List.Forall₂ (SpelledEntry depth) entries members) :
    Takes (readAttributes (depth + 1)) (.openBrace :: spelledTokens [] members)
      (Dictionary.ofList entries) :=
  (gathers_attributes spelled Dictionary.empty).takes_readObject

/-- What stands in a draft and what is still said fill another draft, in which no field stands
twice. -/
structure Fills (draft : DeclarationDraft) (clauses : List Clause) (final : DeclarationDraft) :
    Prop where
  resourceType : draft.resourceType.toList ++ clauses.filterMap Clause.resourceType? =
    final.resourceType.toList
  name : draft.name.toList ++ clauses.filterMap Clause.name? = final.name.toList
  attributes : draft.attributes.toList ++
      (clauses.filterMap Clause.attributes?).map Dictionary.ofList =
    final.attributes.toList
  location : draft.location.toList ++ clauses.filterMap Clause.location? = final.location.toList

theorem eq_of_toList_append_nil {α : Type} {first final : Option α}
    (filled : first.toList ++ [] = final.toList) : first = final := by
  cases first <;> cases final <;> simp_all

theorem toList_append_cons_eq {α : Type} {first final : Option α} {content : α} {rest : List α}
    (filled : first.toList ++ content :: rest = final.toList) :
    first.isSome = false ∧ (some content).toList ++ rest = final.toList := by
  cases first <;> cases final <;> simp_all

theorem gathers_declaration {depth : Nat} {clauses : List Clause}
    {members : List (List Piece × List Token)}
    (spelled : List.Forall₂ (Clause.Spelled depth) clauses members)
    {draft final : DeclarationDraft} (fills : Fills draft clauses final) :
    Gathers (readField (declarationFields (depth + 1))) members draft final := by
  induction spelled generalizing draft with
  | nil =>
      rcases draft with ⟨resourceType, name, attributes, location⟩
      rcases final with ⟨finalType, finalName, finalAttributes, finalLocation⟩
      obtain rfl := eq_of_toList_append_nil fills.resourceType
      obtain rfl := eq_of_toList_append_nil fills.name
      obtain rfl := eq_of_toList_append_nil fills.attributes
      obtain rfl := eq_of_toList_append_nil fills.location
      exact .nil
  | @cons _ _ clauses _ first others ih =>
      rcases fills with ⟨resourceType, name, attributes, location⟩
      cases first with
      | @resourceType _ _ text named takes =>
          rcases toList_append_cons_eq resourceType with ⟨fresh, filled⟩
          have later : Fills { draft with resourceType := some text } clauses final :=
            ⟨filled, name, attributes, location⟩
          apply Gathers.cons named (takes_readField rfl fresh _) (ih later)
          exact takes.map fun text => { draft with resourceType := some text }
      | @name _ _ text named takes =>
          rcases toList_append_cons_eq name with ⟨fresh, filled⟩
          have later : Fills { draft with name := some text } clauses final :=
            ⟨resourceType, filled, attributes, location⟩
          apply Gathers.cons named (takes_readField rfl fresh _) (ih later)
          exact takes.map fun text => { draft with name := some text }
      | @attributes _ entries _ named spelled =>
          rcases toList_append_cons_eq attributes with ⟨fresh, filled⟩
          have later :
              Fills { draft with attributes := some (Dictionary.ofList entries) } clauses final :=
            ⟨resourceType, name, filled, location⟩
          apply Gathers.cons named (takes_readField rfl fresh _) (ih later)
          exact (takes_attributes spelled).map fun attributes =>
            { draft with attributes := some attributes }
      | @location _ _ place named takes =>
          rcases toList_append_cons_eq location with ⟨fresh, filled⟩
          have later : Fills { draft with location := some place } clauses final :=
            ⟨resourceType, name, attributes, filled⟩
          apply Gathers.cons named (takes_readField rfl fresh _) (ih later)
          exact takes.map fun location => { draft with location := some location }
      | @nothing key _ _ named unasked takes =>
          have later : Fills draft clauses final := ⟨resourceType, name, attributes, location⟩
          apply Gathers.cons named _ (ih later)
          intro rest
          have missing : ((declarationFields (depth + 1)).find? fun field => field.name == key) =
              none := by
            rw [List.find?_eq_none]
            intro field member same
            apply unasked
            rw [← eq_of_beq same]
            exact List.mem_map_of_mem member
          simp only [List.cons_append, readField, missing, behindColon, takes rest, bind,
            Except.bind, pure, Except.pure]

/-- A declaration is assembled from what its object says. -/
theorem readDeclaration_eq {depth : Nat} {clauses : List Clause}
    {members : List (List Piece × List Token)} {resourceType name : String}
    {given : Option (List (String × Value))} {place : Option Location}
    (spelled : List.Forall₂ (Clause.Spelled depth) clauses members)
    (gives : Gives clauses resourceType name given place) (rest : List Token) :
    readDeclaration (depth + 2) (.openBrace :: (spelledTokens [] members ++ rest)) =
      (judge resourceType name (given.getD []) (place.getD .unknown)).map
        fun declaration => (declaration, rest) := by
  have fills : Fills ⟨none, none, none, none⟩ clauses
      ⟨some resourceType, some name, given.map Dictionary.ofList, place⟩ := by
    refine ⟨gives.resourceType, gives.name, ?_, gives.location⟩
    rw [gives.attributes, Option.toList_map]
    rfl
  have read := (gathers_declaration spelled fills).readRecord_eq (show depth + 2 ≠ 0 by omega)
    "struct RawDeclaration" DeclarationDraft.finish rest
  refine read.trans ?_
  cases given <;> rfl

/-! ### What is judged -/

section

variable {resourceType name : String} {entries : List (String × Value)} {location : Location}

theorem judge_of_emptyResourceType (untyped : resourceType = "") :
    judge resourceType name entries location =
      refuse (.refused (.emptyResourceType location)) := by
  rw [judge, Declaration.assemble, Declaration.create, dif_pos untyped]

theorem judge_of_emptyName (typed : resourceType ≠ "") (unnamed : name = "") :
    judge resourceType name entries location =
      refuse (.refused (.emptyName resourceType location)) := by
  rw [judge, Declaration.assemble, Declaration.create, dif_neg typed, dif_pos unnamed]

theorem judge_of_mismatch (typed : resourceType ≠ "") (named : name ≠ "") {value : Value}
    (last : Entries.lookup Attributes.nameKey entries.reverse = some value)
    (other : value ≠ .string name) :
    judge resourceType name entries location =
      refuse (.refused (.nameMismatch name value location)) := by
  rw [← Dictionary.get?_ofList] at last
  simp only [judge, Declaration.assemble, Declaration.create, typed, named, dite_false, last, other,
    if_false]

theorem exists_judge_eq_ok (typed : resourceType ≠ "") (named : name ≠ "")
    (agrees : ∀ value, Entries.lookup Attributes.nameKey entries.reverse = some value →
      value = .string name) :
    ∃ declaration, judge resourceType name entries location = .ok declaration := by
  simp only [← Dictionary.get?_ofList] at agrees
  simp only [judge, Declaration.assemble, Declaration.create, typed, named, dite_false]
  cases last : (Dictionary.ofList entries).get? Attributes.nameKey with
  | none => exact ⟨_, rfl⟩
  | some value =>
      simp only [agrees value last, if_true]
      exact ⟨_, rfl⟩

theorem judged_judge (resourceType name : String) (entries : List (String × Value))
    (location : Location) :
    Judged resourceType name entries location (judge resourceType name entries location) where
  accepted_iff := by
    constructor
    · rintro ⟨declaration, accepted⟩
      have typed : resourceType ≠ "" := by
        intro untyped
        rw [judge_of_emptyResourceType untyped] at accepted
        cases accepted
      have named : name ≠ "" := by
        intro unnamed
        rw [judge_of_emptyName typed unnamed] at accepted
        cases accepted
      refine ⟨typed, named, ?_⟩
      intro value last
      by_contra other
      rw [judge_of_mismatch typed named last other] at accepted
      cases accepted
    · rintro ⟨typed, named, agrees⟩
      exact exists_judge_eq_ok typed named agrees
  accepted := by
    intro declaration accepted
    have assembled : Declaration.assemble resourceType name (Dictionary.ofList entries) location =
        .ok declaration := by
      unfold judge at accepted
      split at accepted
      · next assembled =>
          rw [Except.ok.injEq] at accepted
          rw [← accepted, assembled]
      · cases accepted
    rcases Declaration.parts_of_assemble assembled with ⟨sameIdentity, sameLocation⟩
    have begins : declaration.Begins (Dictionary.ofList entries) := .assembled assembled
    refine ⟨sameIdentity, sameLocation, ?_, ?_, ?_⟩
    · rw [begins.keys_eq, Dictionary.keys_ofList]
    · rw [declaration.attribute?_nameKey, Declaration.name, sameIdentity]
    · intro key other
      rw [begins.attribute?_eq other, Dictionary.get?_ofList]
  emptyResourceType := judge_of_emptyResourceType
  emptyName := judge_of_emptyName
  mismatch typed named _ := judge_of_mismatch typed named

end

/-! ### What is written -/

theorem reads_location_of_line {depth : Nat} (deep : depth ≠ 0) (line : UInt32) :
    Reads (readLocation depth) (.object [("line", .integer line.toNat)]) ⟨none, some line⟩ := by
  have read : Reads (readOption readUInt32)
      (.ofOption (fun line => .integer line.toNat) (some line)) (some line) :=
    reads_option (by simp) fun line _ => reads_uint32 line
  apply reads_record deep _ ⟨none, some (some line)⟩
  · refine .cons (readField_of_read rfl rfl
      (read.map fun line => LocationDraft.mk none (some line))) ?_
    exact .nil
  · rfl

theorem forall₂_spelledEntry {depth : Nat} (entries : List (String × Value))
    (within : depthOfMembers (entries.map fun entry => (entry.1, entry.2.toJson)) ≤ depth) :
    List.Forall₂ (SpelledEntry depth) entries
      ((entries.map fun entry => (entry.1, entry.2.toJson)).map spelling) := by
  induction entries with
  | nil => exact .nil
  | cons entry rest ih =>
      rw [List.map_cons, depthOfMembers, Nat.max_le] at within
      exact .cons ⟨readPieces_map_char entry.1, reads_value entry.2 within.1⟩ (ih within.2)

/-- Attributes may be spelled as they are written, also if keys are repeated. -/
theorem Clause.spelled_attributes {depth : Nat} (entries : List (String × Value))
    (within : depthOfMembers (entries.map fun entry => (entry.1, entry.2.toJson)) ≤ depth) :
    Clause.Spelled depth (.attributes entries)
      (spelling ("attributes", .object (entries.map fun entry => (entry.1, entry.2.toJson)))) := by
  rw [spelling, tokens, ← spelledTokens_map_spelling]
  exact .attributes (readPieces_map_char "attributes") (forall₂_spelledEntry entries within)

/-- Whatever stands in the object of a declaration, in whatever order and spelling, there is a
declaration if and only if the type and the name are not empty and the last value that is given for
the name agrees with it. -/
theorem judged_of_spelled {depth : Nat} {clauses : List Clause}
    {members : List (List Piece × List Token)} {resourceType name : String}
    {given : Option (List (String × Value))} {place : Option Location}
    (spelled : List.Forall₂ (Clause.Spelled depth) clauses members)
    (gives : Gives clauses resourceType name given place) :
    (∀ rest, ∃ result,
      readDeclaration (depth + 2) (.openBrace :: (spelledTokens [] members ++ rest)) =
          result.map (fun declaration => (declaration, rest)) ∧
        Judged resourceType name (given.getD []) (place.getD .unknown) result) ∧
      ∀ text : String, Token.scan text.toList = .openBrace :: spelledTokens [] members →
        depth + 2 = maximalDepth →
          Judged resourceType name (given.getD []) (place.getD .unknown)
            (readAll readDeclaration text) := by
  have judged := judged_judge resourceType name (given.getD []) (place.getD .unknown)
  constructor
  · intro rest
    exact ⟨_, readDeclaration_eq spelled gives rest, judged⟩
  · intro text scanned limit
    have read := readDeclaration_eq spelled gives []
    rw [List.append_nil, ← scanned, limit] at read
    have whole : readAll readDeclaration text =
        judge resourceType name (given.getD []) (place.getD .unknown) := by
      rw [readAll, read]
      cases judge resourceType name (given.getD []) (place.getD .unknown) <;> rfl
    rw [whole]
    exact judged

/-- Attributes in which some keys come more than once. -/
def repetitiveEntries : List (String × Value) := [
  ("mode", .integer 600), ("name", .reference ⟨"file", "/b"⟩), ("owner", .string "root"),
  ("mode", .integer 644), ("name", .string "/a")]

/-- The members of a declaration with these attributes and half a location, in no particular order,
and among them one that nobody asks for. -/
def disorderedMembers : List (String × Json) := [
  ("location", .object [("line", .integer (3 : UInt32).toNat)]),
  ("attributes", .object (repetitiveEntries.map fun entry => (entry.1, entry.2.toJson))),
  ("notes", .array [.null, .object []]), ("name", .string "/a"), ("resource_type", .string "file")]

theorem spelled_disorderedMembers :
    List.Forall₂ (Clause.Spelled 125)
      [.location ⟨none, some 3⟩, .attributes repetitiveEntries, .nothing, .name "/a",
        .resourceType "file"]
      (disorderedMembers.map spelling) := by
  apply List.Forall₂.cons
  · exact .location (readPieces_map_char "location") (reads_location_of_line (by decide) 3)
  apply List.Forall₂.cons
  · exact Clause.spelled_attributes repetitiveEntries (by decide +kernel)
  apply List.Forall₂.cons
  · exact .nothing (readPieces_map_char "notes") (by decide) fun rest => rfl
  apply List.Forall₂.cons
  · exact .name (readPieces_map_char "name") (reads_string "/a")
  apply List.Forall₂.cons
  · exact .resourceType (readPieces_map_char "resource_type") (reads_string "file")
  exact .nil

theorem judged_disorderedMembers :
    ∃ declaration, readAll readDeclaration (Json.object disorderedMembers).compact =
        .ok declaration ∧
      declaration.location = ⟨none, some 3⟩ ∧
      declaration.attributes.keys = ["name", "mode", "owner"] ∧
      declaration.attribute? "mode" = some (.integer 644) := by
  have scanned := scan_compact (.object disorderedMembers)
  rw [tokens, ← spelledTokens_map_spelling] at scanned
  have judged := (@judged_of_spelled 125 _ _ "file" "/a" (some repetitiveEntries)
    (some ⟨none, some 3⟩) spelled_disorderedMembers ⟨rfl, rfl, rfl, rfl⟩).2 _ scanned rfl
  rcases judged.accepted_iff.2 ⟨by decide, by decide, by decide +kernel⟩ with
    ⟨declaration, accepted⟩
  rcases judged.accepted declaration accepted with ⟨_, location, keys, _, values⟩
  exact ⟨declaration, accepted, location, keys.trans (by decide +kernel),
    (values "mode" (by decide)).trans (by decide +kernel)⟩

end Interchange

end Manifest
