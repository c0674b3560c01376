import Manifest.Json.Token

/-!
# From text to tokens

`Token.scan` cuts a text into tokens and drops the blanks between them. It stops after the first
token that is not well formed. Each scanner takes the characters from where its token may start and
gives back those behind the token; they are fewer, which is why the whole ends.
-/

namespace Manifest.Json

/-- What is left behind a word, whose remaining letters are given. -/
def scanWord : List Char → List Char → Except Fault (List Char)
  | [], text => .ok text
  | _ :: _, [] => .error .truncated
  | letter :: letters, c :: rest => if c = letter then scanWord letters rest else .error .malformed

def hexDigit? (c : Char) : Option Nat :=
  if '0' ≤ c ∧ c ≤ '9' then some (c.toNat - '0'.toNat)
  else if 'a' ≤ c ∧ c ≤ 'f' then some (c.toNat - 'a'.toNat + 10)
  else if 'A' ≤ c ∧ c ≤ 'F' then some (c.toNat - 'A'.toNat + 10)
  else none

/-- The unit that four hexadecimal digits stand for. -/
def hexUnit? (a b c d : Char) : Option Nat :=
  match hexDigit? a, hexDigit? b, hexDigit? c, hexDigit? d with
  | some a, some b, some c, some d => some (((a * 16 + b) * 16 + c) * 16 + d)
  | _, _, _, _ => none

/-- How many bytes a text takes in UTF-8. -/
def byteCount (text : List Char) : Nat :=
  text.foldl (fun bytes letter => bytes + letter.utf8Size) 0

/-- The character that an escape of one letter stands for. -/
def shortEscape? : Char → Option Char
  | '"' => some '"'
  | '\\' => some '\\'
  | '/' => some '/'
  | 'b' => some '\x08'
  | 'f' => some '\x0c'
  | 'n' => some '\n'
  | 'r' => some '\r'
  | 't' => some '\t'
  | _ => none

/-- The elements of a string behind its opening quote, and then either what is left behind its
closing quote or what is wrong with it. An escape by code point has four digits; it is cut short,
rather than wrong, if fewer than four bytes are left. -/
def scanString : List Char → List Piece × Except Fault (List Char)
  | [] => ([], .error .truncated)
  | '"' :: rest => ([], .ok rest)
  | ['\\'] => ([], .error .truncated)
  | '\\' :: 'u' :: a :: b :: c :: d :: rest =>
      match hexUnit? a b c d with
      | some unit => (scanString rest).map (Piece.ofUnit unit :: ·) id
      | none => ([], .error .malformed)
  | '\\' :: 'u' :: rest => ([], .error (if byteCount rest < 4 then .truncated else .malformed))
  | '\\' :: letter :: rest =>
      match shortEscape? letter with
      | some c => (scanString rest).map (Piece.char c :: ·) id
      | none => ([], .error .malformed)
  | c :: rest =>
      if c.toNat < 0x20 then ([], .error .malformed)
      else (scanString rest).map (Piece.char c :: ·) id

/-- The digits of the whole part of a number and what is left behind them. A zero stands alone. -/
def scanWhole : List Char → Except Fault (List Char × List Char)
  | [] => .error .truncated
  | c :: rest =>
      if c = '0' then
        if (rest.head?.any Char.isDigit) then .error .malformed else .ok (['0'], rest)
      else if c.isDigit then .ok (c :: rest.takeWhile Char.isDigit, rest.dropWhile Char.isDigit)
      else .error .malformed

def scanDigits : List Char → Except Fault (List Char × List Char)
  | [] => .error .truncated
  | c :: rest =>
      if c.isDigit then .ok (c :: rest.takeWhile Char.isDigit, rest.dropWhile Char.isDigit)
      else .error .malformed

/-- The digits of a fraction, none if there is no point, and what is left behind them. -/
def scanFraction : List Char → Except Fault (List Char × List Char)
  | '.' :: rest => scanDigits rest
  | text => .ok ([], text)

/-- The sign and the digits of an exponent, none if there is none, and what is left behind. -/
def scanExponent (text : List Char) : Except Fault (Bool × List Char × List Char) :=
  match text with
  | [] => .ok (false, [], [])
  | c :: rest =>
      if c = 'e' ∨ c = 'E' then
        match rest with
        | '+' :: digits => (scanDigits digits).map fun found => (false, found)
        | '-' :: digits => (scanDigits digits).map fun found => (true, found)
        | digits => (scanDigits digits).map fun found => (false, found)
      else .ok (false, [], text)

/-- A number without its sign, and what is left behind it. -/
def scanUnsigned (negative : Bool) (text : List Char) : Except Fault (Numeral × List Char) :=
  match scanWhole text with
  | .error fault => .error fault
  | .ok (whole, afterWhole) =>
      match scanFraction afterWhole with
      | .error fault => .error fault
      | .ok (fraction, afterFraction) =>
          match scanExponent afterFraction with
          | .error fault => .error fault
          | .ok (exponentNegative, exponent, rest) =>
              .ok (⟨negative, whole, fraction, exponentNegative, exponent⟩, rest)

def scanNumeral : List Char → Except Fault (Numeral × List Char)
  | '-' :: rest => scanUnsigned true rest
  | text => scanUnsigned false text

theorem length_dropWhile_le (keep : Char → Bool) (text : List Char) :
    (text.dropWhile keep).length ≤ text.length :=
  (List.dropWhile_sublist keep).length_le

theorem length_le_of_scanWord {letters text rest : List Char}
    (scanned : scanWord letters text = .ok rest) : rest.length ≤ text.length := by
  induction letters generalizing text with
  | nil => simp_all [scanWord]
  | cons letter letters ih =>
      cases text with
      | nil => simp [scanWord] at scanned
      | cons c tail =>
          simp only [scanWord] at scanned
          split at scanned
          · exact Nat.le_succ_of_le (ih scanned)
          · simp at scanned

theorem length_lt_of_scanString {text rest : List Char} (scanned : (scanString text).2 = .ok rest) :
    rest.length < text.length := by
  fun_induction scanString text with
  | case1 => simp at scanned
  | case2 tail => simp_all
  | case3 => simp at scanned
  | case4 a b c d tail unit found ih => simp_all; omega
  | case5 => simp at scanned
  | case6 => simp at scanned
  | case7 letter tail _ _ c found ih => simp_all; omega
  | case8 => simp at scanned
  | case9 => simp at scanned
  | case10 c tail _ _ _ _ _ ih => simp_all; omega

theorem length_lt_of_scanDigits {text digits rest : List Char}
    (scanned : scanDigits text = .ok (digits, rest)) : rest.length < text.length := by
  cases text with
  | nil => simp [scanDigits] at scanned
  | cons c tail =>
      simp only [scanDigits] at scanned
      split at scanned
      · obtain ⟨-, rfl⟩ := by simpa using scanned
        exact Nat.lt_succ_of_le (length_dropWhile_le _ _)
      · simp at scanned

theorem length_lt_of_scanWhole {text digits rest : List Char}
    (scanned : scanWhole text = .ok (digits, rest)) : rest.length < text.length := by
  cases text with
  | nil => simp [scanWhole] at scanned
  | cons c tail =>
      simp only [scanWhole] at scanned
      split at scanned
      · split at scanned
        · simp at scanned
        · obtain ⟨-, rfl⟩ := by simpa using scanned
          exact Nat.lt_succ_self _
      · split at scanned
        · obtain ⟨-, rfl⟩ := by simpa using scanned
          exact Nat.lt_succ_of_le (length_dropWhile_le _ _)
        · simp at scanned

theorem length_le_of_scanFraction {text digits rest : List Char}
    (scanned : scanFraction text = .ok (digits, rest)) : rest.length ≤ text.length := by
  unfold scanFraction at scanned
  split at scanned
  · exact Nat.le_succ_of_le (Nat.le_of_lt (length_lt_of_scanDigits scanned))
  · obtain ⟨-, rfl⟩ := by simpa using scanned
    exact Nat.le_refl _

theorem length_lt_of_map_scanDigits {negative : Bool} {text rest digits : List Char} {sign : Bool}
    (scanned : ((scanDigits text).map fun found => (negative, found)) = .ok (sign, digits, rest)) :
    rest.length < text.length := by
  cases found : scanDigits text with
  | error fault => simp [found, Except.map] at scanned
  | ok parts =>
      obtain ⟨-, rfl⟩ := by simpa [found, Except.map] using scanned
      exact length_lt_of_scanDigits found

theorem length_le_of_scanExponent {text digits rest : List Char} {sign : Bool}
    (scanned : scanExponent text = .ok (sign, digits, rest)) : rest.length ≤ text.length := by
  unfold scanExponent at scanned
  split at scanned
  · simp_all
  · split at scanned
    · split at scanned <;>
        exact Nat.le_of_lt
          (Nat.lt_of_lt_of_le (length_lt_of_map_scanDigits scanned) (by simp; try omega))
    · simp_all

theorem length_lt_of_scanUnsigned {negative : Bool} {text rest : List Char} {numeral : Numeral}
    (scanned : scanUnsigned negative text = .ok (numeral, rest)) : rest.length < text.length := by
  unfold scanUnsigned at scanned
  split at scanned
  · simp at scanned
  · next whole afterWhole scannedWhole =>
      split at scanned
      · simp at scanned
      · next fraction afterFraction scannedFraction =>
          split at scanned
          · simp at scanned
          · next sign exponent behind scannedExponent =>
              obtain ⟨-, rfl⟩ := by simpa using scanned
              have first := length_lt_of_scanWhole scannedWhole
              have second := length_le_of_scanFraction scannedFraction
              have third := length_le_of_scanExponent scannedExponent
              omega

theorem length_lt_of_scanNumeral {text rest : List Char} {numeral : Numeral}
    (scanned : scanNumeral text = .ok (numeral, rest)) : rest.length < text.length := by
  unfold scanNumeral at scanned
  split at scanned
  · exact Nat.lt_succ_of_lt (length_lt_of_scanUnsigned scanned)
  · exact length_lt_of_scanUnsigned scanned

/-- The letters behind the first one of the word that starts with a letter, and the word. -/
def wordFrom? : Char → Option (List Char × Word)
  | 'n' => some (['u', 'l', 'l'], .null)
  | 't' => some (['r', 'u', 'e'], .true)
  | 'f' => some (['a', 'l', 's', 'e'], .false)
  | _ => none

def Token.ofPunctuation? : Char → Option Token
  | '{' => some .openBrace
  | '}' => some .closeBrace
  | '[' => some .openBracket
  | ']' => some .closeBracket
  | ',' => some .comma
  | ':' => some .colon
  | _ => none

/-- Whether a character may stand between tokens. -/
def isGap (c : Char) : Bool :=
  c == ' ' || c == '\n' || c == '\t' || c == '\r'

/-- The tokens of a text, up to and with the first one that is not well formed. -/
def Token.scan (text : List Char) : List Token :=
  match text with
  | [] => []
  | c :: rest =>
      if isGap c then scan rest
      else
        match Token.ofPunctuation? c with
        | some token => token :: scan rest
        | none =>
            match wordFrom? c with
            | some (letters, spelled) =>
                match _scanned : scanWord letters rest with
                | .ok behind => .word spelled :: scan behind
                | .error fault => [.brokenWord fault]
            | none =>
                if c = '"' then
                  match _scanned : scanString rest with
                  | (pieces, .ok behind) => .string pieces :: scan behind
                  | (pieces, .error fault) => [.brokenString pieces fault]
                else if c = '-' ∨ c.isDigit then
                  match _scanned : scanNumeral (c :: rest) with
                  | .ok (number, behind) => .numeral number :: scan behind
                  | .error fault => [.brokenNumeral fault]
                else [.stray]
termination_by text.length
decreasing_by
  · simp
  · simp
  · exact Nat.lt_succ_of_le (length_le_of_scanWord _scanned)
  · exact Nat.lt_succ_of_lt (length_lt_of_scanString (by rw [_scanned]))
  · exact length_lt_of_scanNumeral _scanned

end Manifest.Json
