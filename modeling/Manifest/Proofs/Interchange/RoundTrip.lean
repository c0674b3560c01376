import Manifest.Interchange.Read
import Manifest.Interchange.Write
import Manifest.Proofs.Interchange.Reading

/-!
# Entities survive being written and read

Every entity that is written as JSON and read again comes back as it was, with its attributes in the
same order and with absent defaults still told from empty ones, as long as its text is not nested
more deeply than readers allow (`ReadsBack`).

For each kind of entity there is one lemma, which says that its reader reads it from its JSON
whenever the depth that the reader is given is enough. Readers count the depth down on their way
into the text and the depth of the text is counted up on the way out (`Json.depth`), so that the
proofs of the recursive kinds are by induction on the entity, for all depths at once.
-/

namespace Manifest

namespace Json

mutual

/-- How many containers are open at the same time in the text of a value. -/
def depth : Json → Nat
  | .null | .boolean _ | .integer _ | .string _ => 0
  | .array items => depthOfItems items + 1
  | .object members => depthOfMembers members + 1

def depthOfItems : List Json → Nat
  | [] => 0
  | item :: rest => max item.depth (depthOfItems rest)

def depthOfMembers : List (String × Json) → Nat
  | [] => 0
  | (_, content) :: rest => max content.depth (depthOfMembers rest)

end

end Json

namespace Interchange

open Json

variable {depth : Nat}

theorem reads_identity (deep : depth ≠ 0) (identity : Identity) :
    Reads (readIdentity depth) identity.toJson identity := by
  apply reads_record deep _ ⟨some identity.resourceType, some identity.name⟩
  · refine .cons (readField_of_read rfl rfl
      ((reads_string identity.resourceType).map fun text => IdentityDraft.mk (some text) none)) ?_
    refine .cons (readField_of_read rfl rfl
      ((reads_string identity.name).map fun text => IdentityDraft.mk _ (some text))) ?_
    exact .nil
  · rfl

theorem reads_location (deep : depth ≠ 0) (location : Location) :
    Reads (readLocation depth) location.toJson location := by
  have file : Reads (readOption readString) (.ofOption .string location.file) location.file :=
    reads_option (by simp) fun text _ => reads_string text
  have line : Reads (readOption readUInt32)
      (.ofOption (fun line => .integer line.toNat) location.line) location.line :=
    reads_option (by simp) fun line _ => reads_uint32 line
  apply reads_record deep _ ⟨some location.file, some location.line⟩
  · refine .cons (readField_of_read rfl rfl
      (file.map fun file => LocationDraft.mk (some file) none)) ?_
    refine .cons (readField_of_read rfl rfl
      (line.map fun line => LocationDraft.mk _ (some line))) ?_
    exact .nil
  · rfl

theorem exists_readValue_eq (depth : Nat) :
    ∃ item, readValue (depth + 1) = readVariant (depth + 1) (valueVariants depth item) := by
  cases depth with
  | zero => exact ⟨tooDeep, rfl⟩
  | succ depth => exact ⟨readValue depth, rfl⟩

mutual

theorem reads_value (value : Value) {depth : Nat} (within : value.toJson.depth ≤ depth) :
    Reads (readValue depth) value.toJson value := by
  cases depth with
  | zero => cases value <;> simp [Value.toJson, Json.depth] at within
  | succ depth =>
      rcases exists_readValue_eq depth with ⟨item, opened⟩
      cases value with
      | string text =>
          rw [opened]
          exact reads_variant (by simp) rfl ((reads_string text).map Value.string)
      | integer number =>
          rw [opened]
          exact reads_variant (by simp) rfl ((reads_int64 number).map Value.integer)
      | boolean truth =>
          rw [opened]
          exact reads_variant (by simp) rfl ((reads_boolean truth).map Value.boolean)
      | list items =>
          simp only [Value.toJson, Json.depth, depthOfMembers] at within
          cases depth with
          | zero => omega
          | succ depth =>
              have read := reads_values items (show _ ≤ depth by omega)
              exact reads_variant (by simp) rfl ((reads_list read (by simp)).map Value.list)
      | reference target =>
          rw [opened]
          simp only [Value.toJson, Identity.toJson, Json.depth, depthOfMembers] at within
          exact reads_variant (by simp) rfl
            ((reads_identity (by omega) target).map Value.reference)

theorem reads_values (values : List Value) {depth : Nat}
    (within : depthOfItems (Value.toJsonAll values) ≤ depth) :
    List.Forall₂ (Reads (readValue depth)) (Value.toJsonAll values) values := by
  cases values with
  | nil => exact .nil
  | cons value rest =>
      rw [Value.toJsonAll, depthOfItems] at within
      exact .cons (reads_value value (by omega)) (reads_values rest (by omega))

end

theorem collects_attributes (entries : List (String × Value))
    (within : depthOfMembers (entries.map fun entry => (entry.1, entry.2.toJson)) ≤ depth)
    (attributes : Attributes) :
    Collects (readAttribute depth) (entries.map fun entry => (entry.1, entry.2.toJson))
      attributes (attributes.insertAll entries) := by
  induction entries generalizing attributes with
  | nil => exact .nil
  | cons entry rest ih =>
      rcases entry with ⟨key, value⟩
      simp only [List.map_cons, depthOfMembers] at within
      refine .cons ?_ (ih (by omega) (attributes.insert key value))
      intro behind
      have read := reads_value value (show _ ≤ depth by omega) behind
      simp only [readAttribute, behindColon, read, bind, Except.bind, pure, Except.pure]

theorem reads_attributes (attributes : Attributes)
    (within : (Attributes.toJson attributes).depth ≤ depth) :
    Reads (readAttributes depth) (Attributes.toJson attributes) attributes := by
  rw [Attributes.toJson, Json.depth] at within
  intro rest
  have collects := collects_attributes attributes.entries (show _ ≤ depth - 1 by omega) .empty
  rw [← Dictionary.ofList, Dictionary.ofList_entries] at collects
  simp only [Attributes.toJson, tokens, List.cons_append, readAttributes,
    show depth ≠ 0 by omega, if_false, readObject_memberTokens collects]

theorem reads_declaration (declaration : Declaration)
    (within : declaration.toJson.depth ≤ depth) :
    Reads (readDeclaration depth) declaration.toJson declaration := by
  simp only [Declaration.toJson, Location.toJson, Json.depth, depthOfMembers] at within
  have attributes := reads_attributes declaration.attributes (show _ ≤ depth - 1 by omega)
  have location := reads_location (show depth - 1 ≠ 0 by omega) declaration.location
  apply reads_record (by omega) _ ⟨some declaration.resourceType, some declaration.name,
    some declaration.attributes, some declaration.location⟩
  · refine .cons (readField_of_read rfl rfl ((reads_string declaration.resourceType).map
      fun text => DeclarationDraft.mk (some text) none none none)) ?_
    refine .cons (readField_of_read rfl rfl ((reads_string declaration.name).map
      fun text => DeclarationDraft.mk _ (some text) none none)) ?_
    refine .cons (readField_of_read rfl rfl (attributes.map
      fun attributes => DeclarationDraft.mk _ _ (some attributes) none)) ?_
    refine .cons (readField_of_read rfl rfl (location.map
      fun location => DeclarationDraft.mk _ _ _ (some location))) ?_
    exact .nil
  · simp only [DeclarationDraft.finish, require, bind, Except.bind, Option.getD_some,
      declaration.assemble_parts]

theorem reads_scopeWith (scope : Scope) {child : Reader Child}
    (within : scope.toJson.depth ≤ depth)
    (reads : List.Forall₂ (Reads child) (Child.toJsonAll scope.children) scope.children) :
    Reads (readScopeWith depth child) scope.toJson scope := by
  rcases scope with ⟨name, scopeType, location, defaults, children⟩
  simp only [Scope.toJson, Location.toJson, Json.depth, depthOfMembers] at within
  have nameRead : Reads (readOption readString) (.ofOption .string name) name :=
    reads_option (by simp) fun text _ => reads_string text
  have typeRead : Reads (readOption readString) (.ofOption .string scopeType) scopeType :=
    reads_option (by simp) fun text _ => reads_string text
  have locationRead := reads_location (show depth - 1 ≠ 0 by omega) location
  have defaultsRead : Reads (readOption (readAttributes (depth - 1)))
      (.ofOption Attributes.toJson defaults) defaults := by
    refine reads_option (by simp [Attributes.toJson]) ?_
    rintro attributes rfl
    exact reads_attributes attributes (by simp only [Json.ofOption] at within; omega)
  have childrenRead := reads_list reads (show depth - 1 ≠ 0 by omega)
  apply reads_record (by omega) _
    ⟨some name, some scopeType, some location, some defaults, some children⟩
  · refine .cons (readField_of_read rfl rfl (nameRead.map
      fun name => ScopeDraft.mk (some name) none none none none)) ?_
    refine .cons (readField_of_read rfl rfl (typeRead.map
      fun scopeType => ScopeDraft.mk _ (some scopeType) none none none)) ?_
    refine .cons (readField_of_read rfl rfl (locationRead.map
      fun location => ScopeDraft.mk _ _ (some location) none none)) ?_
    refine .cons (readField_of_read rfl rfl (defaultsRead.map
      fun defaults => ScopeDraft.mk _ _ _ (some defaults) none)) ?_
    refine .cons (readField_of_read rfl rfl (childrenRead.map
      fun children => ScopeDraft.mk _ _ _ _ (some children))) ?_
    exact .nil
  · rfl

theorem depthOfItems_toJsonAll_lt (scope : Scope) :
    depthOfItems (Child.toJsonAll scope.children) + 1 < scope.toJson.depth := by
  rcases scope with ⟨name, scopeType, location, defaults, children⟩
  simp only [Scope.toJson, Json.depth, depthOfMembers]
  omega

theorem exists_readChild_eq (depth : Nat) :
    ∃ child, readChild (depth + 1) = readVariant (depth + 1) (childVariants depth child) := by
  match depth with
  | 0 => exact ⟨tooDeep, rfl⟩
  | 1 => exact ⟨tooDeep, rfl⟩
  | depth + 2 => exact ⟨readChild depth, rfl⟩

theorem reads_children (children : List Child)
    (within : depthOfItems (Child.toJsonAll children) ≤ depth) :
    List.Forall₂ (Reads (readChild depth)) (Child.toJsonAll children) children := by
  -- a scope among the children is two levels up from its own children, and one from its kind
  induction children using Scope.children_induction generalizing depth with
  | nil => exact .nil
  | declaration content rest ih =>
      simp only [Child.toJsonAll, Child.toJson, depthOfItems, Json.depth, depthOfMembers] at within
      refine .cons ?_ (ih (by omega))
      cases depth with
      | zero => omega
      | succ depth =>
          rcases exists_readChild_eq depth with ⟨child, opened⟩
          have read := reads_declaration content (show _ ≤ depth by omega)
          rw [opened]
          exact reads_variant (by simp) rfl (read.map Child.declaration)
  | scope scope rest ihScope ihRest =>
      have inside := depthOfItems_toJsonAll_lt scope
      simp only [Child.toJsonAll, Child.toJson, depthOfItems, Json.depth, depthOfMembers] at within
      refine .cons ?_ (ihRest (by omega))
      match depth with
      | 0 | 1 | 2 => omega
      | depth + 3 =>
          have read := reads_scopeWith scope (show _ ≤ depth + 2 by omega)
            (ihScope (show _ ≤ depth by omega))
          exact reads_variant (by simp) rfl (read.map Child.scope)

theorem reads_child (child : Child) (within : child.toJson.depth ≤ depth) :
    Reads (readChild depth) child.toJson child := by
  have alone : depthOfItems (Child.toJsonAll [child]) ≤ depth := by
    simp only [Child.toJsonAll, depthOfItems]
    omega
  cases reads_children [child] alone with
  | cons read _ => exact read

theorem reads_scope (scope : Scope) (within : scope.toJson.depth ≤ depth) :
    Reads (readScope depth) scope.toJson scope := by
  have inside := depthOfItems_toJsonAll_lt scope
  exact reads_scopeWith scope within (reads_children scope.children (by omega))

theorem readAll_of_reads {α : Type} {reader : Nat → Reader α} {json : Json} {content : α}
    (reads : Reads (reader maximalDepth) json content) :
    readAll reader json.compact = .ok content := by
  have read := reads []
  rw [List.append_nil] at read
  simp only [readAll, scan_compact, read, bind, Except.bind, List.isEmpty_nil, if_true, pure,
    Except.pure]

/-- What is written of an entity is read as that entity, unless it is nested too deeply. -/
def ReadsBack {α : Type} (reader : Nat → Reader α) (encode : α → Json) : Prop :=
  ∀ content, (encode content).depth ≤ maximalDepth →
    readAll reader (encode content).compact = .ok content

/-- Entities of every kind are read back as they were written. -/
theorem readsBack :
    ReadsBack readValue Value.toJson ∧ ReadsBack readIdentity Identity.toJson ∧
      ReadsBack readLocation Location.toJson ∧ ReadsBack readAttributes Attributes.toJson ∧
      ReadsBack readDeclaration Declaration.toJson ∧ ReadsBack readChild Child.toJson ∧
      ReadsBack readScope Scope.toJson := by
  have deep : maximalDepth ≠ 0 := by decide
  refine ⟨?value, ?identity, ?location, ?attributes, ?declaration, ?child, ?scope⟩
  case value => exact fun value within => readAll_of_reads (reads_value value within)
  case identity => exact fun identity _ => readAll_of_reads (reads_identity deep identity)
  case location => exact fun location _ => readAll_of_reads (reads_location deep location)
  case attributes =>
    exact fun attributes within => readAll_of_reads (reads_attributes attributes within)
  case declaration =>
    exact fun declaration within => readAll_of_reads (reads_declaration declaration within)
  case child => exact fun child within => readAll_of_reads (reads_child child within)
  case scope => exact fun scope within => readAll_of_reads (reads_scope scope within)

/-- A scope with empty defaults that holds one with none, and a declaration whose attributes need
escapes, a sign and some nesting. -/
def sampleScope : Scope :=
  { Scope.named "main" with
    defaults := some Dictionary.empty
    children := [
      .scope ((Scope.named "inner").withLocation ⟨some "site.pp", some 4294967295⟩),
      .declaration (Declaration.withAttributes
        { identity := ⟨"file", "/a"⟩
          attributes := Dictionary.empty.insert Attributes.nameKey (.string "/a")
          location := .unknown
          resourceType_ne_empty := by decide
          name_ne_empty := by decide
          head?_entries := rfl }
        [("text", .string "\"quoted\" \\ \n\x01 é"), ("least", .integer (-9223372036854775808)),
          ("list", .list [.boolean true, .list [], .reference ⟨"file", "/b"⟩])])] }

theorem readsBack_sampleScope :
    sampleScope.toJson.depth = 9 ∧
      readAll readScope sampleScope.toJson.compact = .ok sampleScope :=
  ⟨by decide +kernel, readsBack.2.2.2.2.2.2 sampleScope (by decide +kernel)⟩

end Interchange

end Manifest
