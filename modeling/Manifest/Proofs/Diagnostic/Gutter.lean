import Mathlib.Data.Nat.Digits.Defs
import Manifest.Proofs.Diagnostic.Layout

/-!
# The gutter

Below its first two lines, a diagnostic that points at a line of the source has a gutter of blanks
and digits that ends in a mark: a bar beside the source, an equals sign beside notes and help. The
bars stand below each other for every line number, since the gutter of the source is as wide
as the number demands. The equals signs stay where they are, so that marks of both kinds stand below
each other up to line 99 only (`barColumn_eq_iff`).
-/

namespace Manifest.Terminal

/-- What stands in front of the mark of a line. -/
def gutter (shown : List Char) : List Char :=
  shown.takeWhile fun c => c == ' ' || c.isDigit

/-- The gutter of a line ends in a mark at a column. -/
def MarkedAt (column : Nat) (mark : Char) (shown : List Char) : Prop :=
  (gutter shown).length = column ∧ shown[column]? = some mark

/-- Every line has a mark at the same column. -/
def Aligned (lines : List (List Char)) : Prop :=
  ∃ column, ∀ shown ∈ lines, MarkedAt column '|' shown ∨ MarkedAt column '=' shown

/-- The lines of a printed diagnostic behind the header and the location. -/
def gutterLines (output : String) : List (List Char) :=
  (output.toList.splitOn '\n').dropLast.drop 2

theorem markedAt_append {front : List Char} (blank : ∀ c ∈ front, c = ' ' ∨ c.isDigit = true)
    {mark : Char} (ends : mark ≠ ' ' ∧ mark.isDigit = false) (rest : List Char) :
    MarkedAt front.length mark (front ++ mark :: rest) := by
  have inside : ∀ c ∈ front, (c == ' ' || c.isDigit) = true := by simpa using blank
  constructor
  · rw [gutter, List.takeWhile_append_of_pos inside]
    simp [ends]
  · simp

theorem gutterLines_of_shows {layout : Layout} {source : Option String} {diagnostic : Diagnostic}
    (layoutShows : layout.Shows source diagnostic) {location : Location}
    (located : diagnostic.location = some location) {output : String}
    (printed : output.toList = Text.joinLines layout.lines) :
    gutterLines output = layout.snippet ++ (layout.notes ++ layout.help) := by
  have feedless : ∀ line ∈ layout.lines, '\n' ∉ line := fun line lineMem =>
    (layoutShows.whole line lineMem).2
  rw [gutterLines, printed, Text.splitOn_joinLines feedless, List.dropLast_concat, Layout.lines,
    layoutShows.pointer, located]
  simp

/-- The bars beside the source stand below each other for every number of a line. -/
theorem markedAt_of_mem_snippetText {line : Nat} {text : String} {shown : List Char}
    (shownMem : shown ∈ snippetText line text) :
    MarkedAt (max (toString line).length 2 + 2) '|' shown := by
  let number := toString line
  have empty : MarkedAt (max number.length 2 + 2) '|'
      (List.replicate (max number.length 2 + 1) ' ' ++ [' ', '|']) := by
    have blank : ∀ c ∈ List.replicate (max number.length 2 + 2) ' ', c = ' ' ∨ c.isDigit = true :=
      fun c charMem => .inl (List.eq_of_mem_replicate charMem)
    have marked := markedAt_append blank (by decide : '|' ≠ ' ' ∧ '|'.isDigit = false) []
    rw [List.length_replicate, List.replicate_succ', List.append_assoc] at marked
    exact marked
  have numbered : MarkedAt (max number.length 2 + 2) '|'
      (List.replicate (max number.length 2 + 1 - number.length) ' ' ++ number.toList
        ++ [' ', '|', ' '] ++ text.toList) := by
    let front := List.replicate (max number.length 2 + 1 - number.length) ' ' ++ number.toList
      ++ [' ']
    have blank : ∀ c ∈ front, c = ' ' ∨ c.isDigit = true := by
      intro c charMem
      simp only [front, List.mem_append, List.mem_singleton] at charMem
      rcases charMem with (padMem | digitMem) | rfl
      · exact .inl (List.eq_of_mem_replicate padMem)
      · exact .inr (isDigit_of_mem_toString digitMem)
      · exact .inl rfl
    have length : front.length = max number.length 2 + 2 := by
      simp only [front, List.length_append, List.length_replicate, String.length_toList,
        List.length_singleton]
      omega
    have marked := markedAt_append blank (by decide : '|' ≠ ' ' ∧ '|'.isDigit = false)
      (' ' :: text.toList)
    rw [length] at marked
    simpa [front] using marked
  simp only [snippetText, List.mem_cons, List.not_mem_nil, or_false] at shownMem
  rcases shownMem with rfl | rfl | rfl
  · exact empty
  · exact numbered
  · exact empty

theorem markedAt_remark (rest : List Char) :
    MarkedAt 4 '=' (List.replicate 4 ' ' ++ '=' :: rest) :=
  markedAt_append (fun _ charMem => .inl (List.eq_of_mem_replicate charMem)) (by decide) rest

theorem markedAt_of_mem_remarks {layout : Layout} {source : Option String}
    {diagnostic : Diagnostic} (layoutShows : layout.Shows source diagnostic) {shown : List Char}
    (shownMem : shown ∈ layout.notes ++ layout.help) : MarkedAt 4 '=' shown := by
  rw [layoutShows.notes, layoutShows.help] at shownMem
  rcases List.mem_append.1 shownMem with noteMem | helpMem
  · rcases List.mem_map.1 noteMem with ⟨note, -, rfl⟩
    simpa using markedAt_remark (" note: ".toList ++ note.toList)
  · rcases Option.map_eq_some_iff.1 (Option.mem_toList.1 helpMem) with ⟨help, -, rfl⟩
    simpa using markedAt_remark (" help: ".toList ++ help.toList)

/-- Bars and equals signs stand below each other if they have the same column or if there are no
equals signs. -/
theorem aligned_append_iff {frame remarks : List (List Char)} {bar equal : Nat}
    (framed : frame ≠ []) (bars : ∀ shown ∈ frame, MarkedAt bar '|' shown)
    (equals : ∀ shown ∈ remarks, MarkedAt equal '=' shown) :
    Aligned (frame ++ remarks) ↔ bar = equal ∨ remarks = [] := by
  constructor
  · rintro ⟨column, marked⟩
    -- A mark has one column only, so that the first bar and the first equals sign decide.
    have unique {own : Nat} {mark : Char} {shown : List Char} (alone : MarkedAt own mark shown)
        (shownMem : shown ∈ frame ++ remarks) : own = column := by
      rcases marked shown shownMem with other | other
      · rw [← alone.1, other.1]
      · rw [← alone.1, other.1]
    cases remarks with
    | nil => exact .inr rfl
    | cons remark remarks =>
        left
        rcases List.exists_mem_of_ne_nil frame framed with ⟨first, firstMem⟩
        have firstColumn := unique (bars first firstMem) (List.mem_append_left _ firstMem)
        have remarkColumn := unique (equals remark List.mem_cons_self)
          (List.mem_append_right _ List.mem_cons_self)
        rw [firstColumn, remarkColumn]
  · intro same
    refine ⟨bar, ?_⟩
    intro shown shownMem
    rcases List.mem_append.1 shownMem with frameMem | remarkMem
    · exact .inl (bars shown frameMem)
    · rcases same with rfl | rfl
      · exact .inr (equals shown remarkMem)
      · simp at remarkMem

theorem barColumn_eq_iff (line : Nat) : max (toString line).length 2 + 2 = 4 ↔ line < 100 := by
  have short : line.repr.length ≤ 2 ↔ line < 100 := by
    rw [length_repr, Nat.length_toDigits_le_iff (by decide) (by decide)]
  show max line.repr.length 2 + 2 = 4 ↔ line < 100
  omega

/-- What the gutter of a diagnostic looks like that points at a line of the source: three bars in a
column that the number decides, and an equals sign at column 4 for each remark. -/
theorem marks_of_format {source : Option String} {diagnostic : Diagnostic} {line : Nat}
    {text : String} (avoids : diagnostic.Avoids '\n')
    (points : PointsAt source diagnostic line text) :
    ∃ frame remarks, gutterLines (format false source diagnostic) = frame ++ remarks ∧
      frame.length = 3 ∧ remarks.length = diagnostic.notes.length + diagnostic.help.toList.length ∧
      (∀ shown ∈ frame, MarkedAt (max (toString line).length 2 + 2) '|' shown) ∧
      (∀ shown ∈ remarks, MarkedAt 4 '=' shown) ∧
      (Aligned (gutterLines (format false source diagnostic)) ↔
        line < 100 ∨ diagnostic.notes = [] ∧ diagnostic.help = none) := by
  rcases exists_layout source avoids with ⟨layout, layoutShows, printed⟩
  have snippet : layout.snippet = snippetText line text := layoutShows.snippet line text points
  have framed : snippetText line text ≠ [] := List.cons_ne_nil _ _
  have lines : gutterLines (format false source diagnostic) =
      snippetText line text ++ (layout.notes ++ layout.help) := by
    rcases points with ⟨location, located, -⟩
    rw [gutterLines_of_shows layoutShows located printed, snippet]
  have bars : ∀ shown ∈ snippetText line text,
      MarkedAt (max (toString line).length 2 + 2) '|' shown :=
    fun shown => markedAt_of_mem_snippetText
  have equals : ∀ shown ∈ layout.notes ++ layout.help, MarkedAt 4 '=' shown :=
    fun shown => markedAt_of_mem_remarks layoutShows
  have unremarked : layout.notes ++ layout.help = [] ↔
      diagnostic.notes = [] ∧ diagnostic.help = none := by
    rw [layoutShows.notes, layoutShows.help]
    simp
  refine ⟨_, _, lines, rfl, ?_, bars, equals, ?_⟩
  · rw [layoutShows.notes, layoutShows.help]
    simp [Option.toList_map]
  · rw [lines, aligned_append_iff framed bars equals, barColumn_eq_iff, unremarked]

/-- A source with some text at one line only, and none before it. -/
def sourceWith (line : Nat) (text : String) : String :=
  String.ofList (List.replicate (line - 1) '\n') ++ text

/-- A diagnostic with two remarks that points at a line. -/
def remarkedAt (line : UInt32) : Diagnostic :=
  (((Diagnostic.error "bad mode").atLocation ⟨some "site.pp", some line⟩).withNote "first").withHelp
    "drop it"

theorem marks_of_format_remarkedAt :
    (remarkedAt 99).Avoids '\n' ∧
      PointsAt (some (sourceWith 99 "x")) (remarkedAt 99) 99 "x" ∧
      Aligned (gutterLines (format false (some (sourceWith 99 "x")) (remarkedAt 99))) := by
  have avoids : (remarkedAt 99).Avoids '\n' := by decide
  have points : PointsAt (some (sourceWith 99 "x")) (remarkedAt 99) 99 "x" :=
    ⟨⟨some "site.pp", some 99⟩, rfl, rfl, by decide, by decide +kernel⟩
  rcases marks_of_format avoids points with ⟨frame, remarks, -, -, -, -, -, aligned⟩
  exact ⟨avoids, points, aligned.2 (.inl (by decide))⟩

/-- At line 100 the bars have moved and the equals signs have not. -/
theorem not_aligned_remarkedAt :
    (remarkedAt 100).Avoids '\n' ∧
      PointsAt (some (sourceWith 100 "x")) (remarkedAt 100) 100 "x" ∧
      ¬Aligned (gutterLines (format false (some (sourceWith 100 "x")) (remarkedAt 100))) := by
  have points : PointsAt (some (sourceWith 100 "x")) (remarkedAt 100) 100 "x" :=
    ⟨⟨some "site.pp", some 100⟩, rfl, rfl, by decide, by decide +kernel⟩
  have lines : gutterLines (format false (some (sourceWith 100 "x")) (remarkedAt 100)) =
      ["     |".toList, " 100 | x".toList, "     |".toList, "    = note: first".toList,
        "    = help: drop it".toList] := by
    decide +kernel
  refine ⟨by decide, points, ?_⟩
  rw [lines]
  rintro ⟨column, marked⟩
  have bar := marked "     |".toList (by decide)
  have equal := marked "    = note: first".toList (by decide)
  have first : (gutter "     |".toList).length = 5 := by decide
  have second : (gutter "    = note: first".toList).length = 4 := by decide
  simp only [MarkedAt] at bar equal
  omega

end Manifest.Terminal
