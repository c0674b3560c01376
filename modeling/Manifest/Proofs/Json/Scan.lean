import Manifest.Json.Basic
import Manifest.Json.Lexer

/-!
# The tokens of a written value

`Json.tokens` says which tokens a JSON value is made of, and scanning its compact text yields just
these, whatever is written behind it (`scan_compactText`). The one thing that is asked of the
text behind is that it does not carry on a number (`StandsApart`); a comma, a colon and the closing
brackets do not. The same holds of its indented text (`scan_indentedText`), whose line ends and
blanks stand between tokens only.

There is one lemma for each kind of token. That a string is scanned as it was written comes down to
single characters: each escape is read as the character that it was written for.
-/

namespace Manifest.Json

/-- The numeral that a whole number is written as. -/
def Numeral.ofInt (number : Int) : Numeral :=
  ⟨number < 0, Nat.toDigits 10 number.natAbs, [], false, []⟩

mutual

def tokens : Json → List Token
  | .null => [.word .null]
  | .boolean true => [.word .true]
  | .boolean false => [.word .false]
  | .integer number => [.numeral (.ofInt number)]
  | .string text => [.string (text.toList.map .char)]
  | .array items => .openBracket :: itemTokens [] items
  | .object members => .openBrace :: memberTokens [] members

/-- The tokens of items, the first one behind a lead and the others behind a comma, and the closing
bracket. -/
def itemTokens (lead : List Token) : List Json → List Token
  | [] => [.closeBracket]
  | item :: rest => lead ++ item.tokens ++ itemTokens [.comma] rest

/-- The tokens of members, the first one behind a lead and the others behind a comma, and the
closing brace. -/
def memberTokens (lead : List Token) : List (String × Json) → List Token
  | [] => [.closeBrace]
  | (key, content) :: rest =>
      lead ++ .string (key.toList.map .char) :: .colon :: content.tokens ++
        memberTokens [.comma] rest

end

/-- A text that does not carry on a number that is written before it. -/
def StandsApart (text : List Char) : Prop :=
  ∀ c, text.head? = some c → c.isDigit = false ∧ c ≠ '.' ∧ c ≠ 'e' ∧ c ≠ 'E'

theorem standsApart_nil : StandsApart [] := by
  intro c first
  contradiction

theorem standsApart_cons {c : Char}
    (apart : c.isDigit = false ∧ c ≠ '.' ∧ c ≠ 'e' ∧ c ≠ 'E') (rest : List Char) :
    StandsApart (c :: rest) := by
  intro first found
  rw [List.head?_cons, Option.some.injEq] at found
  exact found ▸ apart

section Words

theorem isGap_of_ofPunctuation? {c : Char} {token : Token}
    (stands : Token.ofPunctuation? c = some token) : isGap c = false := by
  unfold Token.ofPunctuation? at stands
  split at stands
  case h_7 => contradiction
  all_goals rfl

theorem scan_of_ofPunctuation? {c : Char} {token : Token}
    (stands : Token.ofPunctuation? c = some token) (rest : List Char) :
    Token.scan (c :: rest) = token :: Token.scan rest := by
  rw [Token.scan]
  simp only [isGap_of_ofPunctuation? stands, stands, Bool.false_eq_true, if_false]

theorem scan_comma (rest : List Char) :
    Token.scan ([','] ++ rest) = [.comma] ++ Token.scan rest :=
  scan_of_ofPunctuation? rfl rest

theorem scan_of_wordFrom? {c : Char} {letters : List Char} {word : Word} {rest behind : List Char}
    (solid : isGap c = false) (other : Token.ofPunctuation? c = none)
    (starts : wordFrom? c = some (letters, word)) (spelled : scanWord letters rest = .ok behind) :
    Token.scan (c :: rest) = .word word :: Token.scan behind := by
  rw [Token.scan]
  simp only [solid, other, starts, Bool.false_eq_true, if_false]
  split
  · next found =>
      rw [spelled, Except.ok.injEq] at found
      rw [found]
  · next found =>
      rw [spelled] at found
      contradiction

end Words

section Strings

theorem hexDigit?_digitChar {digit : Nat} (small : digit < 16) :
    hexDigit? (Nat.digitChar digit) = some digit := by
  decide +revert

/-- An escape by code point is read as the control character that it was written for. -/
theorem scanString_control {c : Char} (control : c.toNat < 0x20) (rest : List Char) :
    scanString ('\\' :: 'u' :: '0' :: '0' :: Nat.digitChar (c.toNat / 16) ::
        Nat.digitChar (c.toNat % 16) :: rest) =
      (scanString rest).map (Piece.char c :: ·) id := by
  have unit : hexUnit? '0' '0' (Nat.digitChar (c.toNat / 16)) (Nat.digitChar (c.toNat % 16)) =
      some c.toNat := by
    have zero : hexDigit? '0' = some 0 := rfl
    simp only [hexUnit?, zero, hexDigit?_digitChar (show c.toNat / 16 < 16 by omega),
      hexDigit?_digitChar (Nat.mod_lt c.toNat (by decide : 0 < 16)), Option.some.injEq]
    omega
  have piece : Piece.ofUnit c.toNat = .char c := by
    have low : Piece.isHigh c.toNat = false ∧ Piece.isLow c.toNat = false := by
      simp only [Piece.isHigh, Piece.isLow, Bool.and_eq_false_iff, decide_eq_false_iff_not]
      omega
    simp only [Piece.ofUnit, low, Bool.or_self, Bool.false_eq_true, if_false, Char.ofNat_toNat]
  simp only [scanString, unit, piece]

theorem scanString_escapeChar (c : Char) (rest : List Char) :
    scanString (escapeChar c ++ rest) = (scanString rest).map (Piece.char c :: ·) id := by
  unfold escapeChar
  split
  -- the cases before this one are the characters that are escaped by a letter
  case h_8 =>
    split
    next control => exact scanString_control control rest
    next printed =>
      rw [List.singleton_append, scanString]
      · rw [if_neg printed]
      all_goals simp_all
  all_goals rfl

theorem scanString_flatMap_escapeChar (text rest : List Char) :
    scanString (text.flatMap escapeChar ++ '"' :: rest) = (text.map Piece.char, .ok rest) := by
  induction text with
  | nil => rfl
  | cons c text ih =>
      rw [List.flatMap_cons, List.append_assoc, scanString_escapeChar, ih]
      rfl

theorem scan_stringText (text : String) (rest : List Char) :
    Token.scan (stringText text ++ rest) =
      .string (text.toList.map .char) :: Token.scan rest := by
  have closed := scanString_flatMap_escapeChar text.toList rest
  have opened : stringText text ++ rest =
      '"' :: (text.toList.flatMap escapeChar ++ '"' :: rest) := by
    simp only [stringText, List.cons_append, List.append_assoc, List.nil_append]
  rw [opened, Token.scan]
  have quote : isGap '"' = false ∧ Token.ofPunctuation? '"' = none ∧ wordFrom? '"' = none :=
    ⟨rfl, rfl, rfl⟩
  simp only [quote, Bool.false_eq_true, if_false, if_true]
  split
  · next found =>
      rw [closed, Prod.mk.injEq, Except.ok.injEq] at found
      rw [found.1, found.2]
  · next found =>
      rw [closed, Prod.mk.injEq] at found
      exact absurd found.2 (by simp)

end Strings

section Numbers

theorem other_of_isDigit {c : Char} (digit : c.isDigit = true) :
    isGap c = false ∧ Token.ofPunctuation? c = none ∧ wordFrom? c = none ∧ c ≠ '"' := by
  refine ⟨?_, ?_, ?_, ?_⟩
  · refine Bool.eq_false_iff.2 fun gap => ?_
    simp only [isGap, Bool.or_eq_true, beq_iff_eq] at gap
    rcases gap with ((rfl | rfl) | rfl) | rfl <;> contradiction
  · unfold Token.ofPunctuation?
    split
    case h_7 => rfl
    all_goals contradiction
  · unfold wordFrom?
    split
    case h_4 => rfl
    all_goals contradiction
  · rintro rfl
    contradiction

theorem scan_of_scanNumeral {c : Char} {rest behind : List Char} {numeral : Numeral}
    (starts : c = '-' ∨ c.isDigit = true)
    (scanned : scanNumeral (c :: rest) = .ok (numeral, behind)) :
    Token.scan (c :: rest) = .numeral numeral :: Token.scan behind := by
  have other : isGap c = false ∧ Token.ofPunctuation? c = none ∧ wordFrom? c = none ∧ c ≠ '"' := by
    rcases starts with rfl | digit
    · exact ⟨rfl, rfl, rfl, by decide⟩
    · exact other_of_isDigit digit
  rw [Token.scan]
  simp only [other, starts, Bool.false_eq_true, if_false, if_true]
  split
  · next found =>
      rw [scanned, Except.ok.injEq, Prod.mk.injEq] at found
      rw [found.1, found.2]
  · next found =>
      rw [scanned] at found
      contradiction

/-- The digits of a number are digits, and the first one of several is not a zero. -/
theorem exists_toDigits_eq_cons (number : Nat) :
    ∃ c rest, Nat.toDigits 10 number = c :: rest ∧ c.isDigit = true ∧
      (∀ d ∈ rest, d.isDigit = true) ∧ (c = '0' → number = 0) := by
  have digits : ∀ d ∈ Nat.toDigits 10 number, d.isDigit = true := fun d member =>
    Nat.isDigit_of_mem_toDigits (by decide) (by decide) member
  suffices leading : ∃ c rest, Nat.toDigits 10 number = c :: rest ∧ (c = '0' → number = 0) by
    rcases leading with ⟨c, rest, parts, zero⟩
    rw [parts] at digits
    exact ⟨c, rest, parts, digits c List.mem_cons_self,
      fun d member => digits d (List.mem_cons_of_mem _ member), zero⟩
  clear digits
  induction number using Nat.strongRecOn with
  | ind number ih =>
      by_cases small : number < 10
      · refine ⟨number.digitChar, [], Nat.toDigits_of_lt_base small, ?_⟩
        clear ih
        decide +revert
      · rcases ih (number / 10) (by omega) with ⟨c, rest, parts, zero⟩
        rw [Nat.toDigits_of_base_le (by decide) (by omega), parts]
        refine ⟨c, rest ++ [(number % 10).digitChar], rfl, ?_⟩
        intro isZero
        have := zero isZero
        omega

variable {rest : List Char}

theorem takeWhile_isDigit (apart : StandsApart rest) : rest.takeWhile Char.isDigit = [] := by
  cases rest with
  | nil => rfl
  | cons c rest => simp [(apart c rfl).1]

theorem dropWhile_isDigit (apart : StandsApart rest) : rest.dropWhile Char.isDigit = rest := by
  cases rest with
  | nil => rfl
  | cons c rest => simp [(apart c rfl).1]

theorem scanWhole_toDigits (number : Nat) (apart : StandsApart rest) :
    scanWhole (Nat.toDigits 10 number ++ rest) = .ok (Nat.toDigits 10 number, rest) := by
  rcases exists_toDigits_eq_cons number with ⟨c, digits, parts, first, others, leading⟩
  by_cases zero : c = '0'
  · obtain rfl := leading zero
    have alone : rest.head?.any Char.isDigit = false := by
      cases rest with
      | nil => rfl
      | cons d rest => exact (apart d rfl).1
    simp only [Nat.toDigits_zero, List.singleton_append, scanWhole, alone, if_true,
      Bool.false_eq_true, if_false]
  · rw [parts, List.cons_append, scanWhole, if_neg zero, if_pos first,
      List.takeWhile_append_of_pos others, List.dropWhile_append_of_pos others,
      takeWhile_isDigit apart, dropWhile_isDigit apart, List.append_nil]

theorem scanFraction_of_standsApart (apart : StandsApart rest) :
    scanFraction rest = .ok ([], rest) := by
  unfold scanFraction
  split
  · exact absurd rfl (apart '.' rfl).2.1
  · rfl

theorem scanExponent_of_standsApart (apart : StandsApart rest) :
    scanExponent rest = .ok (false, [], rest) := by
  cases rest with
  | nil => rfl
  | cons c rest =>
      have other := (apart c rfl).2.2
      simp only [scanExponent, other, or_self, if_false]

theorem scanUnsigned_toDigits (negative : Bool) (number : Nat) (apart : StandsApart rest) :
    scanUnsigned negative (Nat.toDigits 10 number ++ rest) =
      .ok (⟨negative, Nat.toDigits 10 number, [], false, []⟩, rest) := by
  simp only [scanUnsigned, scanWhole_toDigits number apart, scanFraction_of_standsApart apart,
    scanExponent_of_standsApart apart]

theorem toList_toString_int (number : Int) :
    (toString number).toList =
      if number < 0 then '-' :: Nat.toDigits 10 number.natAbs
      else Nat.toDigits 10 number.natAbs := by
  cases number with
  | ofNat number => exact Nat.toList_repr
  | negSucc number =>
      rw [if_pos (Int.negSucc_lt_zero number)]
      show ("-" ++ Nat.repr (number + 1)).toList = _
      rw [String.toList_append, Nat.toList_repr]
      rfl

theorem scan_toString_int (number : Int) (apart : StandsApart rest) :
    Token.scan ((toString number).toList ++ rest) =
      .numeral (.ofInt number) :: Token.scan rest := by
  rw [toList_toString_int]
  by_cases negative : number < 0
  · have scanned := scanUnsigned_toDigits true number.natAbs apart
    rw [if_pos negative, List.cons_append]
    refine scan_of_scanNumeral (.inl rfl) ?_
    rw [scanNumeral, Numeral.ofInt, decide_eq_true negative]
    exact scanned
  · have scanned := scanUnsigned_toDigits false number.natAbs apart
    rcases exists_toDigits_eq_cons number.natAbs with ⟨c, digits, parts, digit, -⟩
    rw [if_neg negative, parts, List.cons_append]
    refine scan_of_scanNumeral (.inr digit) ?_
    rw [← List.cons_append, ← parts, scanNumeral, Numeral.ofInt, decide_eq_false negative]
    · exact scanned
    · intro text signed
      rw [parts, List.cons_append, List.cons.injEq] at signed
      rw [signed.1] at digit
      contradiction

end Numbers

theorem standsApart_compactItems (items : List Json) (rest : List Char) :
    StandsApart (compactItems [','] items ++ rest) := by
  cases items with
  | nil => exact standsApart_cons (by decide) rest
  | cons item items => exact standsApart_cons (by decide) _

theorem standsApart_compactMembers (members : List (String × Json)) (rest : List Char) :
    StandsApart (compactMembers [','] members ++ rest) := by
  rcases members with - | ⟨⟨key, content⟩, members⟩
  · exact standsApart_cons (by decide) rest
  · exact standsApart_cons (by decide) _

mutual

/-- The compact text of a value is scanned as the tokens that the value is made of. -/
theorem scan_compactText (json : Json) {rest : List Char} (apart : StandsApart rest) :
    Token.scan (json.compactText ++ rest) = json.tokens ++ Token.scan rest := by
  cases json with
  | null => exact scan_of_wordFrom? rfl rfl rfl rfl
  | boolean truth =>
      cases truth with
      | true => exact scan_of_wordFrom? rfl rfl rfl rfl
      | false => exact scan_of_wordFrom? rfl rfl rfl rfl
  | integer number => exact scan_toString_int number apart
  | string text => exact scan_stringText text rest
  | array items =>
      have nothing (rest : List Char) : Token.scan ([] ++ rest) = [] ++ Token.scan rest := rfl
      rw [compactText, tokens, List.cons_append, List.cons_append,
        scan_of_ofPunctuation? rfl, scan_compactItems items nothing]
  | object members =>
      have nothing (rest : List Char) : Token.scan ([] ++ rest) = [] ++ Token.scan rest := rfl
      rw [compactText, tokens, List.cons_append, List.cons_append,
        scan_of_ofPunctuation? rfl, scan_compactMembers members nothing]

theorem scan_compactItems (items : List Json) {lead : List Char} {leading : List Token}
    (leads : ∀ rest, Token.scan (lead ++ rest) = leading ++ Token.scan rest) (rest : List Char) :
    Token.scan (compactItems lead items ++ rest) =
      itemTokens leading items ++ Token.scan rest := by
  cases items with
  | nil => exact scan_of_ofPunctuation? rfl rest
  | cons item items =>
      simp only [compactItems, itemTokens, List.append_assoc]
      rw [leads, scan_compactText item (standsApart_compactItems items rest),
        scan_compactItems items scan_comma rest]

theorem scan_compactMembers (members : List (String × Json)) {lead : List Char}
    {leading : List Token}
    (leads : ∀ rest, Token.scan (lead ++ rest) = leading ++ Token.scan rest) (rest : List Char) :
    Token.scan (compactMembers lead members ++ rest) =
      memberTokens leading members ++ Token.scan rest := by
  rcases members with - | ⟨⟨key, content⟩, members⟩
  · exact scan_of_ofPunctuation? rfl rest
  · simp only [compactMembers, memberTokens, List.append_assoc, List.cons_append]
    rw [leads, scan_stringText, scan_of_ofPunctuation? rfl,
      scan_compactText content (standsApart_compactMembers members rest),
      scan_compactMembers members scan_comma rest]

end

theorem scan_compact (json : Json) : Token.scan json.compact.toList = json.tokens := by
  have scanned := scan_compactText json standsApart_nil
  rw [List.append_nil] at scanned
  rw [compact, String.toList_ofList, scanned, Token.scan, List.append_nil]

section Indented

theorem scan_of_isGap {c : Char} (gap : isGap c = true) (rest : List Char) :
    Token.scan (c :: rest) = Token.scan rest := by
  rw [Token.scan]
  simp [gap]

theorem scan_newLine (depth : Nat) (rest : List Char) :
    Token.scan (newLine depth ++ rest) = Token.scan rest := by
  have blanks (count : Nat) : Token.scan (List.replicate count ' ' ++ rest) = Token.scan rest := by
    induction count with
    | zero => rfl
    | succ count ih => rw [List.replicate_succ, List.cons_append, scan_of_isGap rfl, ih]
  rw [newLine, List.cons_append, scan_of_isGap rfl, blanks]

theorem standsApart_indentedItems (depth : Nat) (items : List Json) (rest : List Char) :
    StandsApart (indentedItems depth [','] items ++ rest) := by
  cases items with
  | nil => exact standsApart_cons (by decide) _
  | cons item items => exact standsApart_cons (by decide) _

theorem standsApart_indentedMembers (depth : Nat) (members : List (String × Json))
    (rest : List Char) : StandsApart (indentedMembers depth [','] members ++ rest) := by
  rcases members with - | ⟨⟨key, content⟩, members⟩
  · exact standsApart_cons (by decide) _
  · exact standsApart_cons (by decide) _

mutual

/-- The indented text of a value is scanned as the same tokens as the compact one. -/
theorem scan_indentedText (json : Json) (depth : Nat) {rest : List Char}
    (apart : StandsApart rest) :
    Token.scan (json.indentedText depth ++ rest) = json.tokens ++ Token.scan rest := by
  cases json with
  | null => exact scan_of_wordFrom? rfl rfl rfl rfl
  | boolean truth =>
      cases truth with
      | true => exact scan_of_wordFrom? rfl rfl rfl rfl
      | false => exact scan_of_wordFrom? rfl rfl rfl rfl
  | integer number => exact scan_toString_int number apart
  | string text => exact scan_stringText text rest
  | array items =>
      have nothing (rest : List Char) : Token.scan ([] ++ rest) = [] ++ Token.scan rest := rfl
      cases items with
      | nil =>
          rw [indentedText, List.cons_append, scan_of_ofPunctuation? rfl, List.cons_append,
            scan_of_ofPunctuation? rfl]
          rfl
      | cons item items =>
          rw [indentedText, tokens, List.cons_append, List.cons_append,
            scan_of_ofPunctuation? rfl, scan_indentedItems (item :: items) depth nothing]
  | object members =>
      have nothing (rest : List Char) : Token.scan ([] ++ rest) = [] ++ Token.scan rest := rfl
      cases members with
      | nil =>
          rw [indentedText, List.cons_append, scan_of_ofPunctuation? rfl, List.cons_append,
            scan_of_ofPunctuation? rfl]
          rfl
      | cons member members =>
          rw [indentedText, tokens, List.cons_append, List.cons_append,
            scan_of_ofPunctuation? rfl, scan_indentedMembers (member :: members) depth nothing]

theorem scan_indentedItems (items : List Json) (depth : Nat) {lead : List Char}
    {leading : List Token}
    (leads : ∀ rest, Token.scan (lead ++ rest) = leading ++ Token.scan rest) (rest : List Char) :
    Token.scan (indentedItems depth lead items ++ rest) =
      itemTokens leading items ++ Token.scan rest := by
  cases items with
  | nil =>
      simp only [indentedItems, itemTokens, List.append_assoc, List.singleton_append]
      rw [scan_newLine, scan_of_ofPunctuation? rfl]
  | cons item items =>
      simp only [indentedItems, itemTokens, List.append_assoc]
      rw [leads, scan_newLine,
        scan_indentedText item (depth + 1) (standsApart_indentedItems depth items rest),
        scan_indentedItems items depth scan_comma rest]

theorem scan_indentedMembers (members : List (String × Json)) (depth : Nat) {lead : List Char}
    {leading : List Token}
    (leads : ∀ rest, Token.scan (lead ++ rest) = leading ++ Token.scan rest) (rest : List Char) :
    Token.scan (indentedMembers depth lead members ++ rest) =
      memberTokens leading members ++ Token.scan rest := by
  rcases members with - | ⟨⟨key, content⟩, members⟩
  · simp only [indentedMembers, memberTokens, List.append_assoc, List.singleton_append]
    rw [scan_newLine, scan_of_ofPunctuation? rfl]
  · simp only [indentedMembers, memberTokens, List.append_assoc, List.cons_append]
    rw [leads, scan_newLine, scan_stringText, scan_of_ofPunctuation? rfl, scan_of_isGap rfl,
      scan_indentedText content (depth + 1) (standsApart_indentedMembers depth members rest),
      scan_indentedMembers members depth scan_comma rest]

end

theorem scan_pretty (json : Json) : Token.scan json.pretty.toList = json.tokens := by
  have scanned := scan_indentedText json 0 standsApart_nil
  rw [List.append_nil] at scanned
  rw [pretty, String.toList_ofList, scanned, Token.scan, List.append_nil]

end Indented

end Manifest.Json
