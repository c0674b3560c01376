import Manifest.Diagnostic.Terminal
import Manifest.Proofs.Text.Paragraphs

/-!
# The layout of diagnostics

Without colours, a diagnostic is printed as lines of text, one for each of its rows
(`toList_format`). What these lines are is said without rows and spans by `Layout.Shows`: the
header, the location, three lines for a line of the source that is there, the notes and the help,
none of them empty. A row is one line as long as no text in it holds a line feed, and the same
argument serves for any other control character (`avoids_of_mem_rows`).
-/

namespace Manifest

/-! ### Texts -/

/-- The texts that a diagnostic is made of. -/
def Diagnostic.texts (diagnostic : Diagnostic) : List String :=
  diagnostic.message :: diagnostic.code.toList
    ++ (diagnostic.location.bind Location.file).toList ++ diagnostic.notes ++ diagnostic.help.toList

/-- No text of a diagnostic holds a character. -/
def Diagnostic.Avoids (c : Char) (diagnostic : Diagnostic) : Prop :=
  ∀ text ∈ diagnostic.texts, c ∉ text.toList

instance (c : Char) (diagnostic : Diagnostic) : Decidable (diagnostic.Avoids c) :=
  decidable_of_iff (diagnostic.texts.all (fun text => c ∉ text.toList) = true)
    (by simp [Diagnostic.Avoids])

namespace Terminal

/-- The lines of a source that may be missing. -/
def sourceLines (source : Option String) : List String :=
  (source.map Text.lines).getD []

theorem sourceLine?_eq_some_iff {source : Option String} {line : Nat} {text : String} :
    sourceLine? source line = some text ↔
      1 ≤ line ∧ (sourceLines source)[line - 1]? = some text := by
  cases line with
  | zero => simp [sourceLine?]
  | succ index => cases source <;> simp [sourceLine?, sourceLines]

theorem mem_of_sourceLine? {source : Option String} {line : Nat} {text : String}
    (found : sourceLine? source line = some text) {c : Char} (charMem : c ∈ text.toList) :
    c ≠ '\n' ∧ ∃ whole, source = some whole ∧ c ∈ whole.toList := by
  have textMem := List.mem_of_getElem? (sourceLine?_eq_some_iff.1 found).2
  cases source with
  | none => simp [sourceLines] at textMem
  | some whole =>
      simp only [sourceLines, Option.map_some, Option.getD_some, Text.lines] at textMem
      rcases List.mem_map.1 textMem with ⟨line, lineMem, rfl⟩
      rw [String.toList_ofList] at charMem
      have held := Text.mem_of_mem_splitLines lineMem charMem
      exact ⟨held.2, whole, rfl, held.1⟩

/-! ### Rows -/

/-- The kinds of rows that a diagnostic is laid out in. -/
inductive RowOf (source : Option String) (diagnostic : Diagnostic) : Row → Prop where
  | header : RowOf source diagnostic (headerRow diagnostic)
  | location (location : Location) (located : diagnostic.location = some location) :
      RowOf source diagnostic (locationRow location)
  | snippet (line : Nat) (text : String) (row : Row) (found : sourceLine? source line = some text)
      (rowMem : row ∈ snippetRows line text) : RowOf source diagnostic row
  | note (note : String) (noteMem : note ∈ diagnostic.notes) :
      RowOf source diagnostic (remarkRow "note" note)
  | help (help : String) (given : diagnostic.help = some help) :
      RowOf source diagnostic (remarkRow "help" help)

theorem kind_of_mem_rows {source : Option String} {diagnostic : Diagnostic} {row : Row}
    (rowMem : row ∈ rows source diagnostic) : RowOf source diagnostic row := by
  simp only [rows, List.mem_append, List.mem_cons, List.mem_map, Option.mem_toList] at rowMem
  rcases rowMem with ((rfl | rowMem) | ⟨note, noteMem, rfl⟩) | helpMem
  · exact .header
  · cases located : diagnostic.location with
    | none => simp [located] at rowMem
    | some location =>
        simp only [located, locationRows, List.mem_cons] at rowMem
        rcases rowMem with rfl | rowMem
        · exact .location location located
        · split at rowMem
          · simp at rowMem
          · split at rowMem
            · next found => exact .snippet _ _ row found rowMem
            · simp at rowMem
  · exact .note note noteMem
  · rcases Option.map_eq_some_iff.1 helpMem with ⟨help, given, rfl⟩
    exact .help help given

/-! ### Control characters -/

/-- A text without control characters. -/
def Printed (text : String) : Prop := ∀ c ∈ text.toList, 0x20 ≤ c.toNat

instance (text : String) : Decidable (Printed text) :=
  decidable_of_iff (text.toList.all (fun c => 0x20 ≤ c.toNat) = true) (by simp [Printed])

/-- No span of a row holds a character. -/
def Row.Avoids (c : Char) (row : Row) : Prop := ∀ span ∈ row, c ∉ span.text.toList

theorem printed_name (severity : Severity) : Printed severity.name := by
  cases severity <;> decide

theorem isDigit_of_mem_toString {number : Nat} {c : Char} (charMem : c ∈ (toString number).toList) :
    c.isDigit = true := by
  have listed : c ∈ Nat.toDigits 10 number := by rwa [← Nat.toList_repr]
  exact Nat.isDigit_of_mem_toDigits (by decide) (by decide) listed

theorem printed_toString (number : Nat) : Printed (toString number) := by
  intro c charMem
  have digit := isDigit_of_mem_toString charMem
  exact Nat.le_trans (by decide) (Char.isDigit_iff_toNat.1 digit).1

theorem printed_blanks (count : Nat) : Printed (blanks count).text := by
  intro c charMem
  simp [blanks, Span.plain] at charMem
  simp [charMem]

section Control

variable {c : Char} (control : c.toNat < 0x20)

include control

theorem Printed.notMem {text : String} (printed : Printed text) : c ∉ text.toList := by
  intro charMem
  have := printed c charMem
  omega

theorem avoids_headerRow {diagnostic : Diagnostic} (avoids : diagnostic.Avoids c) :
    Row.Avoids c (headerRow diagnostic) := by
  have severity : c ∉ diagnostic.severity.name.toList := (printed_name _).notMem control
  have message : c ∉ diagnostic.message.toList := avoids _ (by simp [Diagnostic.texts])
  have label {text : String} (printed : Printed text) := printed.notMem control
  cases coded : diagnostic.code with
  | none =>
      simp only [headerRow, coded, Row.Avoids, List.forall_mem_cons]
      exact ⟨severity, label (by decide), message, by simp⟩
  | some code =>
      have code : c ∉ code.toList := avoids _ (by simp [Diagnostic.texts, coded])
      simp only [headerRow, coded, Row.Avoids, List.forall_mem_cons]
      exact ⟨severity, label (by decide), code, label (by decide), message, by simp⟩

theorem avoids_locationRow {location : Location}
    (avoids : ∀ file, location.file = some file → c ∉ file.toList) :
    Row.Avoids c (locationRow location) := by
  have label {text : String} (printed : Printed text) := printed.notMem control
  have display : c ∉ location.display.toList := by
    rcases location with ⟨file | file, line | line⟩
    · exact label (by decide)
    · simp only [Location.display, String.toList_append, List.mem_append, not_or]
      exact ⟨label (by decide), label (printed_toString _)⟩
    · exact avoids file rfl
    · simp only [Location.display, String.toList_append, List.mem_append, not_or]
      exact ⟨⟨avoids file rfl, label (by decide)⟩, label (printed_toString _)⟩
  simp only [locationRow, Row.Avoids, List.forall_mem_cons]
  exact ⟨label (printed_blanks 2), label (by decide), label (by decide), display, by simp⟩

theorem avoids_of_mem_snippetRows {line : Nat} {text : String} (avoids : c ∉ text.toList)
    {row : Row} (rowMem : row ∈ snippetRows line text) : Row.Avoids c row := by
  have label {text : String} (printed : Printed text) := printed.notMem control
  have number : c ∉ (toString line).toList := label (printed_toString line)
  have empty (width : Nat) : Row.Avoids c [blanks width, .plain " ", rule] := by
    simp only [Row.Avoids, List.forall_mem_cons]
    exact ⟨label (printed_blanks width), label (by decide), label (by decide), by simp⟩
  simp only [snippetRows, List.mem_cons, List.not_mem_nil, or_false] at rowMem
  rcases rowMem with rfl | rfl | rfl
  · exact empty _
  · simp only [Row.Avoids, List.forall_mem_cons]
    exact ⟨number, label (by decide), label (by decide), label (by decide), avoids, by simp⟩
  · exact empty _

theorem avoids_remarkRow {kind text : String} (printed : Printed kind) (avoids : c ∉ text.toList) :
    Row.Avoids c (remarkRow kind text) := by
  have label {text : String} (printed : Printed text) := printed.notMem control
  simp only [remarkRow, Row.Avoids, List.forall_mem_cons]
  exact ⟨label (printed_blanks _), label (by decide), label (by decide), label (by decide),
    label printed, label (by decide), avoids, by simp⟩

/-- A control character stands in no row unless it stands in a text or in a line of the source. -/
theorem avoids_of_mem_rows {source : Option String} {diagnostic : Diagnostic}
    (avoids : diagnostic.Avoids c)
    (avoidsSource : ∀ line text, sourceLine? source line = some text → c ∉ text.toList)
    {row : Row} (rowMem : row ∈ rows source diagnostic) : row.Avoids c := by
  cases kind_of_mem_rows rowMem with
  | header => exact avoids_headerRow control avoids
  | location location located =>
      apply avoids_locationRow control
      intro file given
      exact avoids file (by simp [Diagnostic.texts, located, given])
  | snippet line text row found rowMem =>
      exact avoids_of_mem_snippetRows control (avoidsSource line text found) rowMem
  | note note noteMem =>
      exact avoids_remarkRow control (by decide) (avoids note (by simp [Diagnostic.texts, noteMem]))
  | help help given =>
      exact avoids_remarkRow control (by decide) (avoids help (by simp [Diagnostic.texts, given]))

end Control

/-! ### Lines -/

/-- A row as it is printed without colours, without the end of the line. -/
def Row.plainText (row : Row) : List Char :=
  row.flatMap fun span => Span.pad span.width span.text.toList

theorem toList_format (source : Option String) (diagnostic : Diagnostic) :
    (format false source diagnostic).toList =
      Text.joinLines ((rows source diagnostic).map Row.plainText) := by
  have plain : Span.render false = fun span => Span.pad span.width span.text.toList := by
    funext span
    simp [Span.render]
  have line : Row.render false = fun row => row.plainText ++ ['\n'] := by
    funext row
    rw [Row.render, plain, Row.plainText]
  rw [format, String.toList_ofList, line, Text.joinLines, List.flatMap_map]

theorem Row.Avoids.notMem_plainText {c : Char} {row : Row} (avoids : row.Avoids c)
    (solid : c ≠ ' ') : c ∉ row.plainText := by
  intro charMem
  rcases List.mem_flatMap.1 charMem with ⟨span, spanMem, charMem⟩
  rcases List.mem_append.1 charMem with blankMem | textMem
  · exact solid (List.eq_of_mem_replicate blankMem)
  · exact avoids span spanMem textMem

/-- A diagnostic points at a line of a source, which has some text. -/
def PointsAt (source : Option String) (diagnostic : Diagnostic) (line : Nat) (text : String) :
    Prop :=
  ∃ location, diagnostic.location = some location ∧ location.line.map UInt32.toNat = some line ∧
    1 ≤ line ∧ (sourceLines source)[line - 1]? = some text

/-- The rows of a diagnostic, of which those in the middle are there only if it points at a line of
the source. -/
theorem exists_rows_eq (source : Option String) (diagnostic : Diagnostic) :
    ∃ middle, rows source diagnostic =
        headerRow diagnostic :: (diagnostic.location.map locationRow).toList ++ middle
          ++ diagnostic.notes.map (remarkRow "note")
          ++ (diagnostic.help.map (remarkRow "help")).toList ∧
      (∀ line text, PointsAt source diagnostic line text → middle = snippetRows line text) ∧
      ((∀ line text, ¬PointsAt source diagnostic line text) → middle = []) := by
  rw [rows]
  cases located : diagnostic.location with
  | none =>
      refine ⟨[], by simp, ?_, fun _ => rfl⟩
      rintro line text ⟨location, given, -⟩
      simp [located] at given
  | some location =>
      refine ⟨(locationRows source location).tail, by simp [locationRows], ?_, ?_⟩
      · rintro line text ⟨other, given, numbered, found⟩
        obtain rfl : location = other := by simpa [located] using given
        rcases Option.map_eq_some_iff.1 numbered with ⟨number, known, rfl⟩
        rw [← sourceLine?_eq_some_iff] at found
        simp [locationRows, known, found]
      · intro nowhere
        rw [locationRows, List.tail_cons]
        cases known : location.line with
        | none => rfl
        | some number =>
            cases found : sourceLine? source number.toNat with
            | none => simp [found]
            | some text =>
                have pointed := sourceLine?_eq_some_iff.1 found
                exact absurd ⟨location, located, by simp [known], pointed⟩ (nowhere _ text)

/-- The lines of a diagnostic, part by part. -/
structure Layout where
  header : List Char
  pointer : List (List Char)
  snippet : List (List Char)
  notes : List (List Char)
  help : List (List Char)

def Layout.lines (layout : Layout) : List (List Char) :=
  layout.header :: layout.pointer ++ layout.snippet ++ layout.notes ++ layout.help

def headerText (diagnostic : Diagnostic) : String :=
  diagnostic.severity.name ++ (diagnostic.code.elim "" fun code => "[" ++ code ++ "]") ++ ": "
    ++ diagnostic.message

/-- A line of the source between two empty ones. The number stands in a gutter, which is as wide as
the number, though never less than two, and one blank wider. -/
def snippetText (line : Nat) (text : String) : List (List Char) :=
  let number := toString line
  let indent := max number.length 2 + 1
  let empty := List.replicate indent ' ' ++ [' ', '|']
  [empty,
    List.replicate (indent - number.length) ' ' ++ number.toList ++ [' ', '|', ' '] ++ text.toList,
    empty]

/-- Each part shows what a diagnostic has to say in it, and nothing if there is nothing to say. -/
structure Layout.Shows (layout : Layout) (source : Option String) (diagnostic : Diagnostic) :
    Prop where
  header : layout.header = (headerText diagnostic).toList
  pointer : layout.pointer =
    (diagnostic.location.map fun location => ("  --> " ++ location.display).toList).toList
  snippet : ∀ line text, PointsAt source diagnostic line text →
    layout.snippet = snippetText line text
  noSnippet : (∀ line text, ¬PointsAt source diagnostic line text) → layout.snippet = []
  notes : layout.notes = diagnostic.notes.map fun note => ("    = note: " ++ note).toList
  help : layout.help = (diagnostic.help.map fun help => ("    = help: " ++ help).toList).toList
  whole : ∀ line ∈ layout.lines, line ≠ [] ∧ '\n' ∉ line

theorem plainText_headerRow (diagnostic : Diagnostic) :
    (headerRow diagnostic).plainText = (headerText diagnostic).toList := by
  cases coded : diagnostic.code <;>
    simp [headerRow, headerText, coded, Row.plainText, Span.pad, Span.styled, Span.plain]

theorem plainText_locationRow (location : Location) :
    (locationRow location).plainText = ("  --> " ++ location.display).toList := by
  simp [locationRow, Row.plainText, Span.pad, Span.styled, Span.plain, blanks]

theorem length_repr (number : Nat) : number.repr.length = (Nat.toDigits 10 number).length := by
  rw [← Nat.toList_repr, String.length_toList]

theorem map_plainText_snippetRows (line : Nat) (text : String) :
    (snippetRows line text).map Row.plainText = snippetText line text := by
  simp [snippetRows, snippetText, Row.plainText, Span.pad, Span.styled, Span.plain, blanks, rule,
    gutterWidth, length_repr]

theorem plainText_remarkRow (kind text : String) :
    (remarkRow kind text).plainText = ("    = " ++ kind ++ ": " ++ text).toList := by
  simp [remarkRow, Row.plainText, Span.pad, Span.styled, Span.plain, blanks, gutterWidth]

theorem Row.plainText_ne_nil {row : Row} {span : Span} (spanMem : span ∈ row)
    (filled : span.text ≠ "") : row.plainText ≠ [] := by
  simp only [plainText, Span.pad, ne_eq, List.flatMap_eq_nil_iff, List.append_eq_nil_iff,
    not_forall]
  exact ⟨span, spanMem, by simp [filled]⟩

/-- No row is empty, since each has some text that does not depend on the diagnostic. -/
theorem plainText_ne_nil_of_mem_rows {source : Option String} {diagnostic : Diagnostic} {row : Row}
    (rowMem : row ∈ rows source diagnostic) : row.plainText ≠ [] := by
  cases kind_of_mem_rows rowMem with
  | header =>
      have named : diagnostic.severity.name ≠ "" := by cases diagnostic.severity <;> decide
      cases coded : diagnostic.code <;>
        exact Row.plainText_ne_nil (by rw [headerRow, coded]; exact List.mem_cons_self) named
  | location location located =>
      exact Row.plainText_ne_nil (List.mem_cons_of_mem _ List.mem_cons_self) (by decide)
  | snippet line text row found rowMem =>
      have ruled : rule ∈ row := by
        simp only [snippetRows, List.mem_cons, List.not_mem_nil, or_false] at rowMem
        rcases rowMem with rfl | rfl | rfl <;> simp
      exact Row.plainText_ne_nil ruled (by decide)
  | note note noteMem =>
      exact Row.plainText_ne_nil
        (List.mem_cons_of_mem _ (List.mem_cons_of_mem _ List.mem_cons_self)) (by decide)
  | help help given =>
      exact Row.plainText_ne_nil
        (List.mem_cons_of_mem _ (List.mem_cons_of_mem _ List.mem_cons_self)) (by decide)

theorem whole_plainText {source : Option String} {diagnostic : Diagnostic}
    (avoids : diagnostic.Avoids '\n') {row : Row} (rowMem : row ∈ rows source diagnostic) :
    row.plainText ≠ [] ∧ '\n' ∉ row.plainText := by
  have within : ∀ line text, sourceLine? source line = some text → '\n' ∉ text.toList :=
    fun line text found feedMem => (mem_of_sourceLine? found feedMem).1 rfl
  have rowAvoids := avoids_of_mem_rows (by decide) avoids within rowMem
  exact ⟨plainText_ne_nil_of_mem_rows rowMem, rowAvoids.notMem_plainText (by decide)⟩

/-- The lines of a diagnostic without line feeds in its texts. -/
theorem exists_layout (source : Option String) {diagnostic : Diagnostic}
    (avoids : diagnostic.Avoids '\n') :
    ∃ layout : Layout, layout.Shows source diagnostic ∧
      (format false source diagnostic).toList = Text.joinLines layout.lines := by
  rcases exists_rows_eq source diagnostic with ⟨middle, parts, shown, hidden⟩
  let layout : Layout := {
    header := (headerRow diagnostic).plainText
    pointer := (diagnostic.location.map fun location => (locationRow location).plainText).toList
    snippet := middle.map Row.plainText
    notes := diagnostic.notes.map fun note => (remarkRow "note" note).plainText
    help := (diagnostic.help.map fun help => (remarkRow "help" help).plainText).toList }
  have lines : layout.lines = (rows source diagnostic).map Row.plainText := by
    rw [parts]
    simp [layout, Layout.lines, Option.toList_map, Function.comp_def]
  refine ⟨layout, ?_, by rw [toList_format, lines]⟩
  refine ⟨plainText_headerRow diagnostic, ?_, ?_, ?_, ?_, ?_, ?_⟩
  · simp [layout, plainText_locationRow]
  · intro line text points
    rw [← map_plainText_snippetRows, ← shown line text points]
  · intro nowhere
    simp [layout, hidden nowhere]
  · simp [layout, plainText_remarkRow]
  · simp [layout, plainText_remarkRow]
  · intro line lineMem
    rw [lines] at lineMem
    rcases List.mem_map.1 lineMem with ⟨row, rowMem, rfl⟩
    exact whole_plainText avoids rowMem

theorem toList_formatAll (colours : Bool) (source : Option String)
    (diagnostics : List Diagnostic) :
    (formatAll colours source diagnostics).toList =
      ['\n'].intercalate (diagnostics.map fun diagnostic =>
        (format colours source diagnostic).toList) := by
  rw [formatAll, String.toList_intercalate, List.map_map]
  rfl

/-- Diagnostics without line feeds in their texts are laid out line by line, and they can be told
apart where they are printed one after the other, since each one is a paragraph. -/
theorem layouts_of_formatAll (source : Option String) {diagnostics : List Diagnostic}
    (avoids : ∀ diagnostic ∈ diagnostics, diagnostic.Avoids '\n') :
    (∀ diagnostic ∈ diagnostics, ∃ layout : Layout, layout.Shows source diagnostic ∧
        (format false source diagnostic).toList = Text.joinLines layout.lines) ∧
      Text.paragraphs (formatAll false source diagnostics).toList =
        diagnostics.map fun diagnostic => (format false source diagnostic).toList := by
  refine ⟨fun diagnostic given => exists_layout source (avoids diagnostic given), ?_⟩
  have parts : (diagnostics.map fun diagnostic => (format false source diagnostic).toList) =
      (diagnostics.map fun diagnostic => (rows source diagnostic).map Row.plainText).map
        Text.joinLines := by
    rw [List.map_map]
    apply List.map_congr_left
    intro diagnostic _
    exact toList_format source diagnostic
  rw [toList_formatAll, parts]
  apply Text.paragraphs_intercalate
  intro lines linesMem
  rcases List.mem_map.1 linesMem with ⟨diagnostic, diagnosticMem, rfl⟩
  refine ⟨by simp [rows], ?_⟩
  intro line lineMem
  rcases List.mem_map.1 lineMem with ⟨row, rowMem, rfl⟩
  exact whole_plainText (avoids diagnostic diagnosticMem) rowMem

/-- Lines that end in different ways, the second one without anything in it. -/
def sampleSource : String := "file \x7b\r\n\n  mode => 7,\r"

/-- Diagnostics that point at the last line, at an empty one, behind the last one and at a line
zero, which there is none of. -/
def sampleDiagnostics : List Diagnostic := [
  (((((Diagnostic.error "bad mode").withCode "S0102").atLocation ⟨some "site.pp", some 3⟩).withNote
    "first").withNote "").withHelp "drop it",
  (Diagnostic.warning "").atLocation ⟨none, some 2⟩,
  (Diagnostic.warning "late").atLocation ⟨some "site.pp", some 4⟩,
  (Diagnostic.new .note "early").atLocation ⟨some "", some 0⟩]

theorem layouts_of_formatAll_sampleDiagnostics :
    (∀ diagnostic ∈ sampleDiagnostics, diagnostic.Avoids '\n') ∧
      (sampleDiagnostics.map fun diagnostic => format false (some sampleSource) diagnostic) = [
        "error[S0102]: bad mode\n  --> site.pp:3\n    |\n  3 |   mode => 7,\r\n    |\n"
          ++ "    = note: first\n    = note: \n    = help: drop it\n",
        "warning: \n  --> line 2\n    |\n  2 | \n    |\n",
        "warning: late\n  --> site.pp:4\n",
        "note: early\n  --> :0\n"] ∧
      (∀ diagnostic ∈ sampleDiagnostics, ∃ layout : Layout,
        layout.Shows (some sampleSource) diagnostic ∧
          (format false (some sampleSource) diagnostic).toList = Text.joinLines layout.lines) ∧
      Text.paragraphs (formatAll false (some sampleSource) sampleDiagnostics).toList =
        sampleDiagnostics.map fun diagnostic =>
          (format false (some sampleSource) diagnostic).toList := by
  have avoids : ∀ diagnostic ∈ sampleDiagnostics, diagnostic.Avoids '\n' := by decide +kernel
  exact ⟨avoids, by decide +kernel, layouts_of_formatAll (some sampleSource) avoids⟩

end Terminal

end Manifest
