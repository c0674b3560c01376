import Manifest.Proofs.Diagnostic.Layout

/-!
# Colours leave the text alone

Colours are put on a text by sequences of characters that a terminal does not show. Without
these sequences (`unstyled`), a diagnostic that is printed with colours is the one that is printed
without. The proof goes through the parts of the output: each of them loses its sequences whatever
stands behind it (`LosesStyles`), which carries over to texts that are put together from such
parts.
-/

namespace Manifest.Terminal

/-- Whether a character may stand between the start and the end of a sequence. -/
def isParameter (c : Char) : Bool := c.isDigit || c == ';'

/-- A text without the sequences that set a style. Anything that only starts like one stays. -/
def unstyled : List Char → List Char
  | [] => []
  | '\x1b' :: '[' :: rest =>
      match _left : rest.dropWhile isParameter with
      | 'm' :: behind => unstyled behind
      | _ => '\x1b' :: '[' :: unstyled rest
  | c :: rest => c :: unstyled rest
termination_by text => text.length
decreasing_by
  · have shorter := (List.dropWhile_sublist isParameter (l := rest)).length_le
    rw [_left] at shorter
    simp only [List.length_cons] at shorter ⊢
    omega
  · simp only [List.length_cons]
    omega
  · simp

/-- A text loses its styles and becomes another one, whatever stands behind it. -/
def LosesStyles (styled plain : List Char) : Prop :=
  ∀ rest, unstyled (styled ++ rest) = plain ++ unstyled rest

namespace LosesStyles

theorem nil : LosesStyles [] [] := fun _ => rfl

theorem append {styled plain nextStyled nextPlain : List Char} (first : LosesStyles styled plain)
    (second : LosesStyles nextStyled nextPlain) :
    LosesStyles (styled ++ nextStyled) (plain ++ nextPlain) := by
  intro rest
  rw [List.append_assoc, first, second, List.append_assoc]

theorem unstyled_eq {styled plain : List Char} (loses : LosesStyles styled plain) :
    unstyled styled = plain := by
  have all := loses []
  rwa [List.append_nil, unstyled, List.append_nil] at all

theorem of_notMem {text : List Char} (absent : '\x1b' ∉ text) : LosesStyles text text := by
  intro rest
  induction text with
  | nil => rfl
  | cons c text ih =>
      rw [List.mem_cons, not_or] at absent
      rw [List.cons_append, unstyled]
      · rw [ih absent.2, List.cons_append]
      · intro _ escape
        exact absurd escape.symm absent.1

theorem sequence {parameters : List Char} (inside : parameters.all isParameter = true) :
    LosesStyles ('\x1b' :: '[' :: parameters ++ ['m']) [] := by
  intro rest
  have left : (parameters ++ 'm' :: rest).dropWhile isParameter = 'm' :: rest := by
    rw [List.dropWhile_append_of_pos (List.all_eq_true.1 inside)]
    rfl
  simp only [List.cons_append, List.append_assoc, List.nil_append]
  rw [unstyled]
  split
  · next found =>
      rw [left] at found
      simp_all
  · next other => exact absurd left (other rest)

theorem opening (style : Style) : LosesStyles style.opening [] := by
  apply sequence
  rcases style with ⟨bold, colour⟩
  cases bold <;> rcases colour with _ | colour
  all_goals try cases colour
  all_goals decide

theorem closing : LosesStyles Style.closing [] :=
  sequence (show ['0'].all isParameter = true by decide)

theorem flatMap {α : Type} {items : List α} {styled plain : α → List Char}
    (loses : ∀ item ∈ items, LosesStyles (styled item) (plain item)) :
    LosesStyles (items.flatMap styled) (items.flatMap plain) := by
  induction items with
  | nil => exact nil
  | cons item items ih =>
      rw [List.forall_mem_cons] at loses
      exact loses.1.append (ih loses.2)

theorem intercalate {α : Type} {items : List α} {styled plain : α → List Char}
    {separator : List Char} (between : LosesStyles separator separator)
    (loses : ∀ item ∈ items, LosesStyles (styled item) (plain item)) :
    LosesStyles (separator.intercalate (items.map styled))
      (separator.intercalate (items.map plain)) := by
  induction items with
  | nil => exact nil
  | cons item items ih =>
      rw [List.forall_mem_cons] at loses
      cases items with
      | nil => simpa using loses.1
      | cons next items =>
          simp only [List.map_cons, List.intercalate_cons_cons] at ih ⊢
          exact (loses.1.append between).append (ih loses.2)

end LosesStyles

theorem reopen_eq_self (opening : List Char) {text : List Char} (absent : '\x1b' ∉ text) :
    Span.reopen opening text = text := by
  induction text with
  | nil => rfl
  | cons c text ih =>
      rw [List.mem_cons, not_or] at absent
      rw [Span.reopen]
      · rw [ih absent.2]
      · intro _ escape
        exact absurd escape.symm absent.1

theorem losesStyles_render {span : Span} (absent : '\x1b' ∉ span.text.toList) :
    LosesStyles (span.render true) (span.render false) := by
  have padded : '\x1b' ∉ Span.pad span.width span.text.toList := by
    simp [Span.pad, absent]
  have text := LosesStyles.of_notMem padded
  rw [Span.render, Span.render, reopen_eq_self _ absent]
  split
  · simpa using ((LosesStyles.opening span.style).append text).append LosesStyles.closing
  · simpa using text

/-- Diagnostics without escapes in their texts and in the source are the same with and without
colours, apart from the sequences that set them. -/
theorem unstyled_formatAll {source : Option String} {diagnostics : List Diagnostic}
    (avoids : ∀ diagnostic ∈ diagnostics, diagnostic.Avoids '\x1b')
    (avoidsSource : ∀ text, source = some text → '\x1b' ∉ text.toList) :
    unstyled (formatAll true source diagnostics).toList =
      (formatAll false source diagnostics).toList := by
  have within : ∀ line text, sourceLine? source line = some text → '\x1b' ∉ text.toList := by
    intro line text found escapeMem
    rcases (mem_of_sourceLine? found escapeMem).2 with ⟨whole, given, wholeMem⟩
    exact avoidsSource whole given wholeMem
  apply LosesStyles.unstyled_eq
  rw [toList_formatAll, toList_formatAll]
  apply LosesStyles.intercalate (LosesStyles.of_notMem (by decide))
  intro diagnostic diagnosticMem
  simp only [format, String.toList_ofList]
  apply LosesStyles.flatMap
  intro row rowMem
  have rowAvoids := avoids_of_mem_rows (by decide) (avoids diagnostic diagnosticMem) within rowMem
  refine LosesStyles.append ?_ (LosesStyles.of_notMem (by decide))
  apply LosesStyles.flatMap
  intro span spanMem
  exact losesStyles_render (rowAvoids span spanMem)

/-- A warning with an empty code, whose message looks like the end of a sequence. -/
def styledSample : Diagnostic :=
  ((Diagnostic.warning "[0m").withCode "").atLocation ⟨none, some 2⟩

theorem unstyled_formatAll_styledSample :
    styledSample.Avoids '\x1b' ∧ '\x1b' ∉ "\nx".toList ∧
      formatAll true (some "\nx") [styledSample] =
        "\x1b[1;33mwarning\x1b[0m[\x1b[1;31m\x1b[0m]: \x1b[1m[0m\x1b[0m\n"
          ++ "  \x1b[34m-->\x1b[0m line 2\n    \x1b[34m|\x1b[0m\n"
          ++ "\x1b[1;34m  2\x1b[0m \x1b[34m|\x1b[0m x\n    \x1b[34m|\x1b[0m\n" ∧
      unstyled (formatAll true (some "\nx") [styledSample]).toList =
        "warning[]: [0m\n  --> line 2\n    |\n  2 | x\n    |\n".toList := by
  have avoids : styledSample.Avoids '\x1b' := by decide
  have escapeless : '\x1b' ∉ "\nx".toList := by decide
  have plain : formatAll false (some "\nx") [styledSample] =
      "warning[]: [0m\n  --> line 2\n    |\n  2 | x\n    |\n" := by
    decide +kernel
  refine ⟨avoids, escapeless, by decide +kernel, ?_⟩
  rw [← plain]
  apply unstyled_formatAll
  · simpa using avoids
  · rintro text ⟨⟩
    exact escapeless

end Manifest.Terminal
