import Mathlib.Data.List.Forall2
import Manifest.Compilation
import Manifest.Proofs.DeclarationLog.Occurrences
import Manifest.Proofs.Lowering.Forecast

/-!
# What reports tell

A report can only be as good as the way to it. A construction fails, the failure is kept, a
diagnostic explains it, and an entry of the report shows the diagnostic; a reference dangles, and
the same happens to it. What a diagnostic explains is kept track of while it is built up
(`Diagnostic.Explains`), and shown by its entry whole (`Json.Tells`), with what the table of codes
knows about it. So the report of a run agrees with what happened in it (`Json.Reports`).
-/

namespace Manifest

variable {σ ι : Type}

/-! ### Entries -/

/-- What stands in an object under a name. -/
def Json.member? (name : String) : Json → Option Json
  | .object members => Entries.lookup name members
  | _ => none

/-- An entry tells how serious a problem is, of what kind by the table of codes, and where it is, as
far as that is known. -/
structure Json.Tells (entry : Json) (severity : Severity) (category : Category) (message : String)
    (location : Location) : Prop where
  severity : entry.member? "severity" = some (.string severity.name)
  kind : ∃ info, CodeInfo.find? info.code = some info ∧ info.category = category ∧
    entry.member? "code" = some (.string info.code) ∧
    entry.member? "title" = some (.string info.title) ∧
    entry.member? "category" = some (.string category.name)
  message : entry.member? "message" = some (.string message)
  unknown : entry.member? "location" = none ↔ location = .unknown
  file : (entry.member? "location").bind (Json.member? "file") = location.file.map .string
  line : (entry.member? "location").bind (Json.member? "line") =
    location.line.map fun line => .integer line.toNat

/-- A diagnostic says what there is to tell about a problem at some location. -/
structure Diagnostic.Explains (diagnostic : Diagnostic) (severity : Severity)
    (code message : String) (location : Location) : Prop where
  severity_eq : diagnostic.severity = severity
  code_eq : diagnostic.code = some code
  message_eq : diagnostic.message = message
  location_eq : diagnostic.location = if location.isUnknown then none else some location

namespace Diagnostic.Explains

variable {diagnostic : Diagnostic} {severity : Severity} {code message : String}
  {location : Location}

theorem new (severity : Severity) (code message : String) :
    ((Diagnostic.new severity message).withCode code).Explains severity code message .unknown :=
  ⟨rfl, rfl, rfl, rfl⟩

theorem atLocation (explains : diagnostic.Explains severity code message .unknown)
    (location : Location) :
    (diagnostic.atLocation location).Explains severity code message location := by
  have nowhere : diagnostic.location = none := explains.location_eq
  rw [Diagnostic.atLocation]
  split
  · next unknown =>
      refine ⟨explains.severity_eq, explains.code_eq, explains.message_eq, ?_⟩
      rw [nowhere, if_pos unknown]
  · next known =>
      refine ⟨explains.severity_eq, explains.code_eq, explains.message_eq, ?_⟩
      rw [if_neg known]

theorem withNote (explains : diagnostic.Explains severity code message location) (note : String) :
    (diagnostic.withNote note).Explains severity code message location :=
  ⟨explains.severity_eq, explains.code_eq, explains.message_eq, explains.location_eq⟩

theorem withHelp (explains : diagnostic.Explains severity code message location) (help : String) :
    (diagnostic.withHelp help).Explains severity code message location :=
  ⟨explains.severity_eq, explains.code_eq, explains.message_eq, explains.location_eq⟩

end Diagnostic.Explains

namespace Report

theorem lookup_member? {α : Type} (key name : String) (encode : α → Json) (content : Option α) :
    Entries.lookup key (member? name encode content) =
      if name = key then content.map encode else none := by
  cases content <;> simp [member?, Entries.lookup]

theorem member?_locationJson (location : Location) :
    (locationJson location).member? "file" = location.file.map .string ∧
      (locationJson location).member? "line" =
        location.line.map fun line => .integer line.toNat := by
  simp [locationJson, Json.member?, Entries.lookup_append, lookup_member?]

theorem member?_entryJson (diagnostic : Diagnostic) :
    let info := diagnostic.code.bind CodeInfo.find?
    (entryJson diagnostic).member? "severity" = some (.string diagnostic.severity.name) ∧
      (entryJson diagnostic).member? "code" = diagnostic.code.map .string ∧
      (entryJson diagnostic).member? "title" = info.map (fun info => .string info.title) ∧
      (entryJson diagnostic).member? "category" =
        info.map (fun info => .string info.category.name) ∧
      (entryJson diagnostic).member? "message" = some (.string diagnostic.message) ∧
      (entryJson diagnostic).member? "location" = diagnostic.location.map locationJson := by
  cases noted : diagnostic.notes.isEmpty <;>
    simp [entryJson, noted, Json.member?, Entries.lookup_append, lookup_member?, Entries.lookup]

theorem member?_toJson (report : Report) :
    report.toJson.member? "success" = some (.boolean report.success) ∧
      report.toJson.member? "error_count" = some (.integer report.errorCount) ∧
      report.toJson.member? "warning_count" = some (.integer report.warningCount) ∧
      report.toJson.member? "diagnostics" = some (.array (report.diagnostics.map entryJson)) := by
  simp [toJson, Json.member?, Entries.lookup]

/-- A location is shown by the halves that are known, and not at all if it says nothing. -/
theorem location_shown (location : Location) :
    let shown := (if location.isUnknown then none else some location).map locationJson
    (shown = none ↔ location = .unknown) ∧
      shown.bind (Json.member? "file") = location.file.map .string ∧
      shown.bind (Json.member? "line") = location.line.map fun line => .integer line.toNat := by
  cases nowhere : location.isUnknown with
  | true =>
      rw [Location.isUnknown_iff] at nowhere
      simp [nowhere, Location.unknown]
  | false =>
      have other : location ≠ .unknown := by
        intro same
        rw [location.isUnknown_iff.2 same] at nowhere
        contradiction
      simp [other, member?_locationJson]

end Report

/-- The entry of a diagnostic shows what the diagnostic explains, if its code is in the table. -/
theorem Diagnostic.Explains.tells {diagnostic : Diagnostic} {severity : Severity}
    {code message : String} {location : Location}
    (explains : diagnostic.Explains severity code message location) {category : Category}
    (listed : (CodeInfo.find? code).map CodeInfo.category = some category) :
    (Report.entryJson diagnostic).Tells severity category message location := by
  rcases Option.map_eq_some_iff.1 listed with ⟨info, known, rfl⟩
  have own : info.code = code := by simpa using List.find?_some known
  rcases Report.member?_entryJson diagnostic with
    ⟨severe, coded, titled, categorized, said, located⟩
  rw [explains.severity_eq] at severe
  rw [explains.code_eq] at coded titled categorized
  rw [Option.bind_some, known] at titled categorized
  rw [explains.message_eq] at said
  rw [explains.location_eq] at located
  rcases Report.location_shown location with ⟨unknown, file, line⟩
  rw [← located] at unknown file line
  refine ⟨severe, ⟨info, ?_, rfl, ?_, titled, categorized⟩, said, unknown, file, line⟩
  · rw [own]
    exact known
  · rw [own]
    exact coded

/-! ### Problems -/

/-- Where something was refused. Nothing is known of a value that was put into a scope. -/
def StructureError.location : StructureError → Location
  | .emptyResourceType location => location
  | .emptyName _ location => location
  | .nameMismatch _ _ location => location
  | .foreignChild _ _ => .unknown

theorem StructureError.tells_diagnostic (fault : StructureError) :
    (Report.entryJson fault.diagnostic).Tells .error .structural fault.message fault.location := by
  cases fault with
  | emptyResourceType location =>
      have located := (Diagnostic.Explains.new .error "S0001"
        (emptyResourceType location).message).atLocation location
      exact located.tells rfl
  | emptyName resourceType location =>
      have located := (Diagnostic.Explains.new .error "S0002"
        (emptyName resourceType location).message).atLocation location
      exact (located.withHelp _).tells rfl
  | nameMismatch name found location =>
      have located := (Diagnostic.Explains.new .error "S0004"
        (nameMismatch name found location).message).atLocation location
      exact (located.withHelp _).tells rfl
  | foreignChild kind scope =>
      have helped := (Diagnostic.Explains.new .error "S0003"
        (foreignChild kind scope).message).withHelp
          "scopes hold only resource declarations and nested scopes"
      cases scope with
      | none => exact helped.tells rfl
      | some name => exact (helped.withNote _).tells rfl

theorem LoweringError.tells_diagnostic (fault : LoweringError) :
    (Report.entryJson fault.diagnostic).Tells .error .resolution fault.message fault.location := by
  cases fault with
  | unknownType identity location =>
      have located := (Diagnostic.Explains.new .error "S0100"
        (unknownType identity location).message).atLocation location
      exact (located.withHelp _).tells rfl
  | missingScopeName scopeType location =>
      have located := (Diagnostic.Explains.new .error "S0101"
        (missingScopeName scopeType location).message).atLocation location
      exact located.tells rfl

def Failure.message (failure : Failure) : String :=
  "could not create " ++ failure.identity.display ++ ": " ++ failure.cause

theorem Failure.explains_diagnostic (failure : Failure) :
    failure.diagnostic.Explains .error "S0102" failure.message failure.location := by
  rcases failure with ⟨identity, location, cause, cleanup, dump⟩
  have located := (Diagnostic.Explains.new .error "S0102"
    (Failure.mk identity location cause cleanup dump).message).atLocation location
  cases cleanup with
  | destroyedPartial =>
      have cleaned := located.withNote "the partially built resource was destroyed"
      cases dump with
      | none => exact cleaned
      | some text => exact cleaned.withNote _
  | destroyedRetrieved =>
      have cleaned := located.withNote ("the existing " ++ identity.display ++ " was destroyed")
      cases dump with
      | none => exact cleaned
      | some text => exact cleaned.withNote _
  | nothing =>
      cases dump with
      | none => exact located
      | some text => exact located.withNote _

def DanglingReference.message (reference : DanglingReference) : String :=
  reference.source.display ++ " refers to " ++ reference.target.display ++ " in `"
    ++ reference.key ++ "`, which is never declared"

theorem DanglingReference.explains_diagnostic (reference : DanglingReference) :
    reference.diagnostic.Explains .warning "S0200" reference.message reference.location :=
  (Diagnostic.Explains.new .warning "S0200" reference.message).atLocation reference.location

/-! ### Reports -/

/-- The failures that a run has kept are those of the declarations that have failed. -/
theorem Transcript.forall₂_failed {history : History} {calls : List (Call ι)}
    {failures : List Failure} (transcript : Transcript history calls failures) :
    List.Forall₂ (fun declaration failure => failure.identity = declaration.identity ∧
      failure.location = declaration.location) history.failed failures := by
  induction transcript with
  | nil => exact .nil
  | entry handling tail ih =>
      cases handling with
      | built => exact ih
      | failed cleans => exact .cons ⟨rfl, rfl⟩ ih
      | merged sets => exact ih
  | nested within tail ihWithin ihTail => exact List.rel_append ihWithin ihTail

/-- A report says whether a run was complete, and has an entry for each declaration that has failed
and for each reference that dangles. -/
structure Json.Reports (report : Json) (complete : Bool) (failed : List Declaration)
    (dangling : List DanglingReference) : Prop where
  success : report.member? "success" = some (.boolean complete)
  errorCount : report.member? "error_count" = some (.integer failed.length)
  warningCount : report.member? "warning_count" = some (.integer dangling.length)
  entries : ∃ errors warnings,
    report.member? "diagnostics" = some (.array (errors ++ warnings)) ∧
      List.Forall₂ (fun declaration entry => ∃ cause, Json.Tells entry .error .construction
        ("could not create " ++ declaration.identity.display ++ ": " ++ cause)
        declaration.location) failed errors ∧
      List.Forall₂ (fun reference entry => Json.Tells entry .warning .reference
        reference.message reference.location) dangling warnings

theorem Report.count_explained (file phase : String) (failures : List Failure)
    (dangling : List DanglingReference) (severity : Severity) :
    Report.count ⟨file, phase, failures.map Failure.diagnostic ++
        dangling.map DanglingReference.diagnostic⟩ severity =
      (if severity = .error then failures.length else 0) +
        if severity = .warning then dangling.length else 0 := by
  have failed (failure : Failure) := failure.explains_diagnostic.severity_eq
  have warned (reference : DanglingReference) := reference.explains_diagnostic.severity_eq
  cases severity <;>
    simp [count, List.countP_map, Function.comp_def, failed, warned]

/-- The report agrees with the failures if they are those of the declarations that have failed. -/
theorem Report.reports_of_forall₂ (file phase : String) {failed : List Declaration}
    {failures : List Failure} (dangling : List DanglingReference)
    (kept : List.Forall₂ (fun declaration failure => failure.identity = declaration.identity ∧
      failure.location = declaration.location) failed failures) :
    (Report.toJson ⟨file, phase, failures.map Failure.diagnostic ++
      dangling.map DanglingReference.diagnostic⟩).Reports failures.isEmpty failed dangling := by
  have errors := Report.count_explained file phase failures dangling .error
  have warnings := Report.count_explained file phase failures dangling .warning
  rw [if_pos rfl, if_neg (by decide), Nat.add_zero] at errors
  rw [if_neg (by decide), if_pos rfl, Nat.zero_add] at warnings
  rcases Report.member?_toJson ⟨file, phase, failures.map Failure.diagnostic ++
    dangling.map DanglingReference.diagnostic⟩ with ⟨success, errorCount, warningCount, entries⟩
  rw [Report.success, Report.errorCount, errors] at success
  rw [Report.errorCount, errors] at errorCount
  rw [Report.warningCount, warnings] at warningCount
  rw [List.map_append, List.map_map, List.map_map] at entries
  refine ⟨?_, ?_, warningCount, _, _, entries, ?_, ?_⟩
  · rw [success]
    cases failures <;> rfl
  · rw [errorCount, kept.length_eq]
  · rw [List.forall₂_map_right_iff]
    apply kept.imp
    rintro declaration failure ⟨sameIdentity, sameLocation⟩
    refine ⟨failure.cause, ?_⟩
    rw [← sameIdentity, ← sameLocation]
    exact failure.explains_diagnostic.tells rfl
  · rw [List.forall₂_map_right_iff, List.forall₂_same]
    intro reference _
    exact reference.explains_diagnostic.tells rfl

/-- The report of a run that has ended well says whether it was complete, and then tells of the
declarations that have failed and of the references that dangle, each where it was declared.
Whatever else goes wrong has an entry of this kind too, with a code of the table. -/
theorem reports_of_lower (provider : Provider σ ι) (options : Options) :
    (∀ log : DeclarationLog, log.Reachable → ∀ scope world lowered session,
        lower provider options scope world = (.ok lowered, session) → ∀ file phase,
          (Report.toJson ⟨file, phase, lowered.diagnostics ++
              (log.danglingReferences scope).map DanglingReference.diagnostic⟩).Reports
            lowered.isComplete (scope.history provider options world).failed
            (scope.references.filter fun reference => reference.misses log.declarations)) ∧
      (∀ fault : StructureError, (Report.entryJson fault.diagnostic).Tells .error .structural
        fault.message fault.location) ∧
      (∀ fault : LoweringError, (Report.entryJson fault.diagnostic).Tells .error .resolution
        fault.message fault.location) ∧
      (∀ failure : Failure, (Report.entryJson failure.diagnostic).Tells .error .construction
        failure.message failure.location) ∧
      ∀ reference : DanglingReference, (Report.entryJson reference.diagnostic).Tells .warning
        .reference reference.message reference.location := by
  refine ⟨?_, StructureError.tells_diagnostic, LoweringError.tells_diagnostic, ?_, ?_⟩
  · intro log reachable scope world lowered session run file phase
    rw [reachable.danglingReferences_eq]
    apply Report.reports_of_forall₂
    exact (transcript_of_lower run).1.forall₂_failed
  · intro failure
    exact failure.explains_diagnostic.tells rfl
  · intro reference
    exact reference.explains_diagnostic.tells rfl

/-- Three files that are refused: it is known of none of them where it is in full, and of the first
one not at all. A fourth one is built. It refers to the first one and to two that are not
declared. -/
def Memory.treeToReport : Scope :=
  { Scope.named "main" with children := [
    .declaration ((file "/a" 1 [("fail", .string "partial")] a_ne_empty).withLocation .unknown),
    .declaration (file "/c" 2
      [("require", .list [.reference ⟨"file", "/x"⟩, .reference ⟨"file", "/a"⟩]),
        ("before", .reference ⟨"file", "/y"⟩)] c_ne_empty),
    .scope { Scope.named "inner" with children := [
      .declaration ((file "/b" 4 [("fail", .string "plain")] b_ne_empty).withLocation
        ⟨some "inner.pp", none⟩),
      .declaration ((file "/b" 5 [("fail", .string "plain")] b_ne_empty).withLocation
        ⟨none, some 5⟩)] }] }

/-- If the first of these files was registered, there are two warnings besides the three errors. -/
theorem reports_of_lower_treeToReport :
    ∃ log : DeclarationLog, log.Reachable ∧
      log.declarations = [Memory.file "/a" 1 [] Memory.a_ne_empty] ∧ ∃ lowered session,
      lower Memory.files .default Memory.treeToReport .empty = (.ok lowered, session) ∧
        (Memory.treeToReport.history Memory.files .default .empty).failed.map
            (fun declaration => (declaration.identity.name, declaration.location)) =
          [("/a", .unknown), ("/b", ⟨some "inner.pp", none⟩), ("/b", ⟨none, some 5⟩)] ∧
        (Memory.treeToReport.references.filter fun reference =>
            reference.misses log.declarations).map
            (fun reference => (reference.target.name, reference.location)) =
          [("/x", ⟨some "site.pp", some 2⟩), ("/y", ⟨some "site.pp", some 2⟩)] ∧
        (Report.toJson ⟨"site.pp", "lower", lowered.diagnostics ++
            (log.danglingReferences Memory.treeToReport).map
              DanglingReference.diagnostic⟩).Reports false
          (Memory.treeToReport.history Memory.files .default .empty).failed
          (Memory.treeToReport.references.filter fun reference =>
            reference.misses log.declarations) := by
  have reachable := DeclarationLog.Reachable.empty.register
    (Memory.file "/a" 1 [] Memory.a_ne_empty)
  refine ⟨_, reachable, rfl, _, _, rfl, by decide +kernel, by decide +kernel, ?_⟩
  exact (reports_of_lower Memory.files .default).1 _ reachable Memory.treeToReport .empty _ _ rfl
    "site.pp" "lower"

end Manifest
