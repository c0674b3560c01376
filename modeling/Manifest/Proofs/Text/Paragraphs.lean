import Mathlib.Data.List.Basic
import Manifest.Text.Lines

/-!
# Lines and paragraphs

A text whose lines are all ended can be cut into these lines again (`splitOn_joinLines`), and texts
of this kind with an empty line between any two can be told apart again, as long as each of them
has some line and none of them has an empty one (`paragraphs_intercalate`).
-/

namespace Manifest.Text

/-- Lines one after the other, each with the line feed that ends it. -/
def joinLines (lines : List (List Char)) : List Char :=
  lines.flatMap fun line => line ++ ['\n']

/-- The parts of a text between its empty lines. Parts without any line do not count, so that a text
may begin or end with empty lines or have several of them in a row. -/
def paragraphs (text : List Char) : List (List Char) :=
  (((text.splitOn '\n').splitOn []).filter fun lines => !lines.isEmpty).map joinLines

theorem splitOn_append_cons {α : Type} [BEq α] [LawfulBEq α] {separator : α} {piece : List α}
    (absent : separator ∉ piece) (rest : List α) :
    (piece ++ separator :: rest).splitOn separator = piece :: rest.splitOn separator := by
  apply List.splitOnP_append_cons_of_forall_mem
  · intro item itemMem
    apply beq_false_of_ne
    rintro rfl
    exact absent itemMem
  · exact beq_self_eq_true separator

theorem splitOn_joinLines_append {lines : List (List Char)} (whole : ∀ line ∈ lines, '\n' ∉ line)
    (rest : List Char) :
    (joinLines lines ++ rest).splitOn '\n' = lines ++ rest.splitOn '\n' := by
  induction lines with
  | nil => rfl
  | cons line lines ih =>
      rw [List.forall_mem_cons] at whole
      have first := splitOn_append_cons whole.1 (joinLines lines ++ rest)
      rw [ih whole.2] at first
      simpa [joinLines] using first

theorem splitOn_joinLines {lines : List (List Char)} (whole : ∀ line ∈ lines, '\n' ∉ line) :
    (joinLines lines).splitOn '\n' = lines ++ [[]] := by
  have split := splitOn_joinLines_append whole []
  rwa [List.append_nil, List.splitOn_nil] at split

/-- Texts that consist of lines with something in them are the paragraphs of the text that has an
empty line between any two of them. -/
theorem paragraphs_intercalate {parts : List (List (List Char))}
    (filled : ∀ lines ∈ parts, lines ≠ [] ∧ ∀ line ∈ lines, line ≠ [] ∧ '\n' ∉ line) :
    paragraphs (['\n'].intercalate (parts.map joinLines)) = parts.map joinLines := by
  rw [paragraphs]
  congr 1
  induction parts with
  | nil => rfl
  | cons lines parts ih =>
      rw [List.forall_mem_cons] at filled
      rcases filled with ⟨⟨some, own⟩, others⟩
      have whole : ∀ line ∈ lines, '\n' ∉ line := fun line lineMem => (own line lineMem).2
      have solid : [] ∉ lines := fun emptyMem => (own [] emptyMem).1 rfl
      have counts : (!lines.isEmpty) = true := by simpa using some
      cases parts with
      | nil =>
          have alone := splitOn_append_cons solid []
          simp only [List.map_cons, List.map_nil, List.intercalate_singleton]
          rw [splitOn_joinLines whole, alone]
          simp [counts]
      | cons next parts =>
          have later := ih others
          simp only [List.map_cons, List.intercalate_cons_cons, List.append_assoc,
            List.singleton_append] at later ⊢
          rw [splitOn_joinLines_append whole]
          have separated := splitOn_append_cons (List.not_mem_nil (a := '\n'))
            (['\n'].intercalate (joinLines next :: parts.map joinLines))
          rw [List.nil_append] at separated
          rw [separated, splitOn_append_cons solid, List.filter_cons, if_pos counts, later]

/-- The lines of a text hold its characters in order, without the line feeds. -/
theorem flatten_splitLines_sublist (text : List Char) :
    (splitLines text).flatten.Sublist (text.filter (· ≠ '\n')) := by
  fun_induction splitLines text with
  | case1 => simp
  | case2 rest ih => simpa using ih
  | case3 rest ih => simpa using ih.cons '\r'
  | case4 c rest inside _ last ih =>
      have inside : c ≠ '\n' := inside
      simp [inside]
  | case5 c rest inside _ line later split ih =>
      have inside : c ≠ '\n' := inside
      rw [split] at ih
      simpa [inside] using ih

theorem mem_of_mem_splitLines {text line : List Char} (lineMem : line ∈ splitLines text) {c : Char}
    (charMem : c ∈ line) : c ∈ text ∧ c ≠ '\n' := by
  have held := List.mem_flatten.2 ⟨line, lineMem, charMem⟩
  simpa using (flatten_splitLines_sublist text).subset held

end Manifest.Text
