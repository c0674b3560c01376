import Manifest.Diagnostic.Report
import Manifest.Proofs.Diagnostic.Reporting
import Manifest.Proofs.Interchange.Document

/-!
# Reports can be read

The text of a report is JSON, and whoever reads it gets to know all that was put into it: where it
comes from, whether the run was a success, and every diagnostic as it was (`Report.Contents`). What
an entry leaves out stands for nothing, or for no notes.

This would be of little use for locations if a diagnostic could hold one that says nothing, since
its entry would have neither half. No diagnostic that is built step by step does
(`Diagnostic.Built`).
-/

namespace Manifest

/-! ### Built diagnostics -/

/-- A diagnostic that was built up step by step. -/
inductive Diagnostic.Built : Diagnostic → Prop where
  | new (severity : Severity) (message : String) : Built (.new severity message)
  | withCode {diagnostic : Diagnostic} (built : Built diagnostic) (code : String) :
      Built (diagnostic.withCode code)
  | atLocation {diagnostic : Diagnostic} (built : Built diagnostic) (location : Location) :
      Built (diagnostic.atLocation location)
  | withNote {diagnostic : Diagnostic} (built : Built diagnostic) (note : String) :
      Built (diagnostic.withNote note)
  | withHelp {diagnostic : Diagnostic} (built : Built diagnostic) (help : String) :
      Built (diagnostic.withHelp help)

theorem Diagnostic.Built.isUnknown_eq_false {diagnostic : Diagnostic} (built : diagnostic.Built)
    {location : Location} (located : diagnostic.location = some location) :
    location.isUnknown = false := by
  induction built with
  | new severity message => simp [Diagnostic.new] at located
  | withCode built code ih => exact ih located
  | atLocation built next ih =>
      rw [Diagnostic.atLocation] at located
      split at located
      · exact ih located
      · next known =>
          simp only [Option.some.injEq] at located
          subst location
          exact Bool.eq_false_iff.2 known
  | withNote built note ih => exact ih located
  | withHelp built help ih => exact ih located

/-! ### Reading -/

namespace Json

variable {α : Type}

def text? : Json → Option String
  | .string text => some text
  | _ => none

def truth? : Json → Option Bool
  | .boolean truth => some truth
  | _ => none

def count? : Json → Option Nat
  | .integer number => if 0 ≤ number then some number.toNat else none
  | _ => none

def list? (read : Json → Option α) : Json → Option (List α)
  | .array items => items.mapM read
  | _ => none

/-- What is read from the member with a name, which has to be there. -/
def required? (name : String) (read : Json → Option α) (json : Json) : Option α :=
  (json.member? name).bind read

/-- What is read from the member with a name, and nothing if it is left out. -/
def optional? (name : String) (read : Json → Option α) : Json → Option (Option α)
  | .object members =>
      match Entries.lookup name members with
      | some content => (read content).map some
      | none => some none
  | _ => none

theorem count?_natCast (number : Nat) : count? (.integer number) = some number := by
  simp [count?]

theorem list?_map {read : Json → Option α} {encode : α → Json}
    (reads : ∀ content, read (encode content) = some content) (contents : List α) :
    list? read (.array (contents.map encode)) = some contents := by
  rw [list?]
  induction contents with
  | nil => rfl
  | cons content contents ih => simp [reads, ih]

theorem required?_of_member? {name : String} {read : Json → Option α} {json content : Json}
    (found : json.member? name = some content) : json.required? name read = read content := by
  rw [required?, found, Option.bind_some]

theorem optional?_of_member? {name : String} {read : Json → Option α} {encode : α → Json}
    {members : List (String × Json)} {content : Option α}
    (found : (Json.object members).member? name = content.map encode)
    (reads : ∀ known, content = some known → read (encode known) = some known) :
    (Json.object members).optional? name read = some content := by
  rw [member?] at found
  rw [optional?, found]
  cases content with
  | none => rfl
  | some known => simp [reads known rfl]

end Json

def Severity.ofName? (name : String) : Option Severity :=
  [error, warning, note].find? fun severity => severity.name == name

theorem Severity.ofName?_name (severity : Severity) : ofName? severity.name = some severity := by
  cases severity <;> decide

/-- What a report is there to tell. -/
structure Report.Contents where
  file : String
  phase : String
  success : Bool
  errorCount : Nat
  warningCount : Nat
  diagnostics : List Diagnostic
  deriving DecidableEq

namespace Report

def line? (json : Json) : Option UInt32 :=
  json.count?.bind fun number => if number < UInt32.size then some (.ofNat number) else none

def location? (json : Json) : Option Location := do
  let file ← json.optional? "file" Json.text?
  let line ← json.optional? "line" line?
  return ⟨file, line⟩

def diagnostic? (json : Json) : Option Diagnostic := do
  let severity ← Severity.ofName? (← json.required? "severity" Json.text?)
  let code ← json.optional? "code" Json.text?
  let message ← json.required? "message" Json.text?
  let location ← json.optional? "location" location?
  let notes ← json.optional? "notes" (Json.list? Json.text?)
  let help ← json.optional? "help" Json.text?
  return ⟨severity, code, message, location, notes.getD [], help⟩

/-- What is read from the JSON of a report. Titles and categories belong to the table of codes and
are not looked at. -/
def contents? (json : Json) : Option Contents := do
  let file ← json.required? "file" Json.text?
  let phase ← json.required? "phase" Json.text?
  let success ← json.required? "success" Json.truth?
  let errorCount ← json.required? "error_count" Json.count?
  let warningCount ← json.required? "warning_count" Json.count?
  let diagnostics ← json.required? "diagnostics" (Json.list? diagnostic?)
  return ⟨file, phase, success, errorCount, warningCount, diagnostics⟩

theorem line?_toNat (line : UInt32) : line? (.integer line.toNat) = some line := by
  have small : line.toNat < UInt32.size := line.toNat_lt
  simp [line?, Json.count?_natCast, small]

theorem location?_locationJson (location : Location) :
    location? (locationJson location) = some location := by
  rcases member?_locationJson location with ⟨fileFound, lineFound⟩
  have file : (locationJson location).optional? "file" Json.text? = some location.file :=
    Json.optional?_of_member? fileFound fun _ _ => rfl
  have line : (locationJson location).optional? "line" line? = some location.line :=
    Json.optional?_of_member? lineFound fun line _ => line?_toNat line
  simp [location?, file, line]

/-- The members of an entry that only some diagnostics have something to say in. -/
theorem member?_entryJson_remarks (diagnostic : Diagnostic) :
    (entryJson diagnostic).member? "notes" =
        (if diagnostic.notes.isEmpty then none else some diagnostic.notes).map
          (fun notes => .array (notes.map .string)) ∧
      (entryJson diagnostic).member? "help" = diagnostic.help.map .string := by
  cases noted : diagnostic.notes.isEmpty <;>
    simp [entryJson, noted, Json.member?, Entries.lookup_append, lookup_member?, Entries.lookup]

/-- The entry of a diagnostic leaves nothing out. -/
theorem diagnostic?_entryJson (diagnostic : Diagnostic) :
    diagnostic? (entryJson diagnostic) = some diagnostic := by
  rcases member?_entryJson diagnostic with
    ⟨severityFound, codeFound, -, -, messageFound, locationFound⟩
  rcases member?_entryJson_remarks diagnostic with ⟨notesFound, helpFound⟩
  have severity : (entryJson diagnostic).required? "severity" Json.text? =
      some diagnostic.severity.name := Json.required?_of_member? severityFound
  have code : (entryJson diagnostic).optional? "code" Json.text? = some diagnostic.code :=
    Json.optional?_of_member? codeFound fun _ _ => rfl
  have message : (entryJson diagnostic).required? "message" Json.text? =
      some diagnostic.message := Json.required?_of_member? messageFound
  have location : (entryJson diagnostic).optional? "location" location? =
      some diagnostic.location :=
    Json.optional?_of_member? locationFound fun location _ => location?_locationJson location
  have texts : ∀ notes, Json.list? Json.text? (.array (notes.map .string)) = some notes :=
    Json.list?_map fun _ => rfl
  have notes : (entryJson diagnostic).optional? "notes" (Json.list? Json.text?) =
      some (if diagnostic.notes.isEmpty then none else some diagnostic.notes) :=
    Json.optional?_of_member? notesFound fun notes _ => texts notes
  have help : (entryJson diagnostic).optional? "help" Json.text? = some diagnostic.help :=
    Json.optional?_of_member? helpFound fun _ _ => rfl
  have listed : (if diagnostic.notes.isEmpty then none else some diagnostic.notes).getD [] =
      diagnostic.notes := by
    cases diagnostic.notes <;> rfl
  simp only [diagnostic?, severity, Severity.ofName?_name, code, message, location, notes, help,
    listed, bind, Option.bind, pure]

theorem contents?_toJson (report : Report) :
    contents? report.toJson = some ⟨report.file, report.phase, report.success, report.errorCount,
      report.warningCount, report.diagnostics⟩ := by
  have diagnostics := Json.list?_map diagnostic?_entryJson report.diagnostics
  simp [contents?, toJson, Json.required?, Json.member?, Entries.lookup, Json.text?, Json.truth?,
    Json.count?_natCast, diagnostics]

/-! ### The text of a report -/

theorem depthOfMembers_append (first second : List (String × Json)) :
    Json.depthOfMembers (first ++ second) =
      max (Json.depthOfMembers first) (Json.depthOfMembers second) := by
  induction first with
  | nil => simp [Json.depthOfMembers]
  | cons member first ih => simp [Json.depthOfMembers, ih, Nat.max_assoc]

theorem depthOfMembers_member?_le {α : Type} {encode : α → Json} {bound : Nat}
    (shallow : ∀ known, (encode known).depth ≤ bound) (name : String) (content : Option α) :
    Json.depthOfMembers (member? name encode content) ≤ bound := by
  cases content with
  | none => simp [member?, Json.depthOfMembers]
  | some known => simpa [member?, Json.depthOfMembers] using shallow known

theorem depthOfItems_map_le {α : Type} {encode : α → Json} {bound : Nat}
    (shallow : ∀ known, (encode known).depth ≤ bound) (contents : List α) :
    Json.depthOfItems (contents.map encode) ≤ bound := by
  induction contents with
  | nil => simp [Json.depthOfItems]
  | cons content contents ih =>
      simp only [List.map_cons, Json.depthOfItems]
      have := shallow content
      omega

theorem depth_locationJson_le (location : Location) : (locationJson location).depth ≤ 1 := by
  have file : Json.depthOfMembers (member? "file" .string location.file) ≤ 0 :=
    depthOfMembers_member?_le (fun text => by rw [Json.depth]) _ _
  have line : Json.depthOfMembers
      (member? "line" (fun line => .integer line.toNat) location.line) ≤ 0 :=
    depthOfMembers_member?_le (fun line => by rw [Json.depth]) _ _
  simp only [locationJson, Json.depth, depthOfMembers_append]
  omega

theorem depth_entryJson_le (diagnostic : Diagnostic) : (entryJson diagnostic).depth ≤ 2 := by
  have flat (name : String) (content : Option String) :
      Json.depthOfMembers (member? name .string content) ≤ 0 :=
    depthOfMembers_member?_le (fun text => by rw [Json.depth]) _ _
  have titled (name : String) (show? : CodeInfo → String) (info : Option CodeInfo) :
      Json.depthOfMembers (member? name (fun info => .string (show? info)) info) ≤ 0 :=
    depthOfMembers_member?_le (fun info => by rw [Json.depth]) _ _
  have located := depthOfMembers_member?_le depth_locationJson_le "location" diagnostic.location
  have noted : Json.depthOfMembers (if diagnostic.notes.isEmpty then []
      else [("notes", .array (diagnostic.notes.map .string))]) ≤ 1 := by
    have texts : Json.depthOfItems (diagnostic.notes.map .string) ≤ 0 :=
      depthOfItems_map_le (fun text => by rw [Json.depth]) _
    split
    · simp [Json.depthOfMembers]
    · simp only [Json.depthOfMembers, Json.depth]
      omega
  simp only [entryJson, Json.depth, depthOfMembers_append, Json.depthOfMembers]
  have code := flat "code" diagnostic.code
  have help := flat "help" diagnostic.help
  have title := titled "title" CodeInfo.title (diagnostic.code.bind CodeInfo.find?)
  have category := titled "category" (fun info => info.category.name)
    (diagnostic.code.bind CodeInfo.find?)
  omega

theorem depth_toJson_le (report : Report) : report.toJson.depth ≤ 4 := by
  have entries := depthOfItems_map_le depth_entryJson_le report.diagnostics
  simp only [toJson, Json.depth, Json.depthOfMembers]
  omega

/-- The location of a built diagnostic is shown by at least one of its halves. -/
theorem isSome_member?_of_built {diagnostic : Diagnostic} (built : diagnostic.Built)
    {shown : Json} (located : (entryJson diagnostic).member? "location" = some shown) :
    (shown.member? "file").isSome ∨ (shown.member? "line").isSome := by
  rw [(member?_entryJson diagnostic).2.2.2.2.2] at located
  rcases Option.map_eq_some_iff.1 located with ⟨location, given, rfl⟩
  have known := built.isUnknown_eq_false given
  rw [(member?_locationJson location).1, (member?_locationJson location).2, Option.isSome_map,
    Option.isSome_map]
  rw [Location.isUnknown] at known
  cases file : location.file with
  | none => exact .inr (by simpa [file] using known)
  | some text => exact .inl rfl

/-- The text of a report is JSON, and its contents are read from it as they were. No location in it
is empty. -/
theorem contents_of_text (report : Report)
    (built : ∀ diagnostic ∈ report.diagnostics, diagnostic.Built) :
    ∃ json, Interchange.readAll Interchange.readJson report.text = .ok json ∧
      contents? json = some ⟨report.file, report.phase, report.success, report.errorCount,
        report.warningCount, report.diagnostics⟩ ∧
      ∃ entries, json.member? "diagnostics" = some (.array entries) ∧
        ∀ entry ∈ entries, ∀ shown, entry.member? "location" = some shown →
          (shown.member? "file").isSome ∨ (shown.member? "line").isSome := by
  have shallow : report.toJson.depth ≤ Interchange.maximalDepth :=
    Nat.le_trans report.depth_toJson_le (by decide)
  refine ⟨report.toJson, Interchange.readAll_pretty shallow, report.contents?_toJson, _,
    report.member?_toJson.2.2.2, ?_⟩
  intro entry entryMem shown located
  rcases List.mem_map.1 entryMem with ⟨diagnostic, diagnosticMem, rfl⟩
  exact isSome_member?_of_built (built diagnostic diagnosticMem) located

/-- An error whose texts need escapes and whose location was replaced, but not by the one that says
nothing; a warning of which only the line is known; and a note with an empty remark. -/
def sampleReport : Report where
  file := "site \"main\".pp"
  phase := "lower"
  diagnostics := [
    ((((((Diagnostic.error "\"bad\" \\ mode\n\x01 é").withCode "S0102").atLocation
      ⟨some "old.pp", none⟩).atLocation ⟨some "a\tb.pp", some 4294967295⟩).atLocation
        .unknown).withNote "first").withNote "second",
    ((Diagnostic.warning "").withCode "X").atLocation ⟨none, some 0⟩,
    ((Diagnostic.new .note "n").atLocation .unknown).withNote ""]

theorem built_of_mem_sampleReport :
    ∀ diagnostic ∈ sampleReport.diagnostics, diagnostic.Built := by
  simp only [sampleReport, List.mem_cons, List.not_mem_nil, or_false]
  rintro diagnostic (rfl | rfl | rfl)
  · exact ((((((Diagnostic.Built.new _ _).withCode _).atLocation _).atLocation _).atLocation
      _).withNote _).withNote _
  · exact ((Diagnostic.Built.new _ _).withCode _).atLocation _
  · exact ((Diagnostic.Built.new _ _).atLocation _).withNote _

theorem contents_of_text_sampleReport :
    (∀ diagnostic ∈ sampleReport.diagnostics, diagnostic.Built) ∧
      sampleReport.diagnostics.map Diagnostic.location =
        [some ⟨some "a\tb.pp", some 4294967295⟩, some ⟨none, some 0⟩, none] ∧
      ∃ json, Interchange.readAll Interchange.readJson sampleReport.text = .ok json ∧
        contents? json = some ⟨"site \"main\".pp", "lower", false, 1, 1,
          sampleReport.diagnostics⟩ ∧
        ∃ entries, json.member? "diagnostics" = some (.array entries) ∧
          ∀ entry ∈ entries, ∀ shown, entry.member? "location" = some shown →
            (shown.member? "file").isSome ∨ (shown.member? "line").isSome :=
  ⟨built_of_mem_sampleReport, rfl, contents_of_text sampleReport built_of_mem_sampleReport⟩

end Report

end Manifest
