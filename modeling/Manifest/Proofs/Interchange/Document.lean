import Manifest.Proofs.Interchange.RoundTrip

/-!
# Reading documents of any kind

A document need not be one of the entities. `readJson` reads any JSON value whose numbers are whole,
nested as deeply as readers allow, with the readers of lists and of objects that the entities are
read with. A number may be of any size here, since only who asks for it can say how large it
may be.

Whatever is written comes back (`readAll_pretty`), also from the indented form with its line ends
and blanks.
-/

namespace Manifest

/-- The whole number that a numeral stands for, unless it has a fraction or an exponent. -/
def Json.Numeral.whole? (numeral : Json.Numeral) : Option Int :=
  if numeral.isFloating then none
  else
    let magnitude : Int := Nat.ofDigitChars 10 numeral.whole 0
    some (if numeral.negative then -magnitude else magnitude)

namespace Interchange

open Json

/-- Reads the member of an object behind its key, and puts it behind the members before it. -/
def appendMember (content : Reader Json) (key : String) (members : List (String × Json)) :
    Reader (List (String × Json)) := fun tokens => do
  let (json, rest) ← content (← behindColon tokens)
  return (members ++ [(key, json)], rest)

/-- Reads any JSON value whose numbers are whole. -/
def readJson (depth : Nat) : Reader Json := fun tokens =>
  match tokens with
  | .word .null :: rest => .ok (.null, rest)
  | .word .true :: rest => .ok (.boolean true, rest)
  | .word .false :: rest => .ok (.boolean false, rest)
  | .string pieces :: rest => (readPieces pieces).map fun text => (.string text, rest)
  | .numeral numeral :: rest =>
      match numeral.whole? with
      | some number => .ok (.integer number, rest)
      | none => wrongKind "a whole number" tokens
  | .openBracket :: _ =>
      match depth with
      | 0 => fail .malformed
      | depth + 1 =>
          (readList (depth + 1) (readJson depth) tokens).map fun (items, rest) =>
            (.array items, rest)
  | .openBrace :: rest =>
      match depth with
      | 0 => fail .malformed
      | depth + 1 =>
          (readObject (appendMember (readJson depth)) [] rest).map fun (members, rest) =>
            (.object members, rest)
  | _ => wrongKind "a value" tokens

theorem whole?_ofInt (number : Int) : (Numeral.ofInt number).whole? = some number := by
  have digits : Nat.ofDigitChars 10 (Nat.toDigits 10 number.natAbs) 0 = number.natAbs :=
    Nat.ofDigitChars_ten_toDigits
  simp only [Numeral.ofInt, Numeral.whole?, Numeral.isFloating, digits, List.isEmpty_nil,
    Bool.and_self, Bool.not_true, Bool.false_eq_true, if_false, Option.some.injEq,
    decide_eq_true_eq]
  by_cases negative : number < 0
  · rw [if_pos negative]
    omega
  · rw [if_neg negative]
    omega

mutual

/-- A value is read from what is written of it, if it is not nested too deeply. -/
theorem reads_json (json : Json) {depth : Nat} (within : json.depth ≤ depth) :
    Reads (readJson depth) json json := by
  intro rest
  cases json with
  | null => simp [tokens, readJson]
  | boolean truth => cases truth <;> simp [tokens, readJson]
  | integer number => simp [tokens, readJson, whole?_ofInt]
  | string text => simp [tokens, readJson, readPieces_map_char, Except.map]
  | array items =>
      rw [Json.depth] at within
      cases depth with
      | zero => omega
      | succ depth =>
          have items := reads_list (reads_jsons items (show _ ≤ depth by omega))
            (show depth + 1 ≠ 0 by omega) rest
          simp only [tokens, List.cons_append] at items ⊢
          rw [readJson, items]
          rfl
  | object members =>
      rw [Json.depth] at within
      cases depth with
      | zero => omega
      | succ depth =>
          have collected := collects_members members (show _ ≤ depth by omega) []
          have read := readObject_memberTokens collected rest
          simp only [tokens, List.cons_append]
          rw [readJson, read]
          rfl

theorem reads_jsons (items : List Json) {depth : Nat} (within : depthOfItems items ≤ depth) :
    List.Forall₂ (Reads (readJson depth)) items items := by
  cases items with
  | nil => exact .nil
  | cons item items =>
      rw [depthOfItems] at within
      exact .cons (reads_json item (by omega)) (reads_jsons items (by omega))

theorem collects_members (members : List (String × Json)) {depth : Nat}
    (within : depthOfMembers members ≤ depth) (before : List (String × Json)) :
    Collects (appendMember (readJson depth)) members before (before ++ members) := by
  rcases members with - | ⟨⟨key, content⟩, members⟩
  · rw [List.append_nil]
    exact .nil
  · rw [depthOfMembers] at within
    have others := collects_members members (show _ ≤ depth by omega) (before ++ [(key, content)])
    rw [List.append_assoc, List.singleton_append] at others
    refine .cons ?_ others
    intro rest
    have read := reads_json content (show _ ≤ depth by omega) rest
    simp only [appendMember, behindColon, read, bind, Except.bind, pure, Except.pure]

end

theorem readAll_pretty {json : Json} (within : json.depth ≤ maximalDepth) :
    readAll readJson json.pretty = .ok json := by
  have read := reads_json json within []
  rw [List.append_nil] at read
  simp only [readAll, scan_pretty, read, bind, Except.bind, List.isEmpty_nil, if_true, pure,
    Except.pure]

end Interchange

end Manifest
