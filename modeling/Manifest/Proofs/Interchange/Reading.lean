import Mathlib.Algebra.Ring.Int.Defs
import Mathlib.Data.List.Forall2
import Manifest.Interchange.Record
import Manifest.Proofs.Json.Scan

/-!
# Readers read what is written

A reader reads a content from a JSON value if it takes the tokens of the value from the front and
leaves whatever is behind them (`Reads`). There is one lemma for each way in which readers are put
together: a list is read if its items are, an object if its members are taken up one after the
other (`Collects`), a record if this leads to a draft that can be finished, and a variant if its
content is read.
-/

namespace Manifest.Interchange

open Json

variable {α β δ : Type}

/-- A reader takes a content from some tokens, whatever is behind them. -/
def Takes (reader : Reader α) (tokens : List Token) (content : α) : Prop :=
  ∀ rest, reader (tokens ++ rest) = .ok (content, rest)

theorem Takes.map {reader : Reader α} {tokens : List Token} {content : α}
    (takes : Takes reader tokens content) (f : α → β) :
    Takes (fun tokens => (reader tokens).map fun (content, rest) => (f content, rest)) tokens
      (f content) := by
  intro rest
  simp only [takes rest, Except.map]

/-- A reader reads a content from a JSON value, whatever is behind the value. -/
def Reads (reader : Reader α) (json : Json) (content : α) : Prop :=
  ∀ rest, reader (json.tokens ++ rest) = .ok (content, rest)

theorem Reads.map {reader : Reader α} {json : Json} {content : α}
    (reads : Reads reader json content) (f : α → β) :
    Reads (fun tokens => (reader tokens).map fun (content, rest) => (f content, rest)) json
      (f content) :=
  Takes.map reads f

/-- No value starts with a closing bracket, and only one starts with the word for nothing. -/
theorem exists_tokens_eq_cons (json : Json) :
    ∃ token rest, json.tokens = token :: rest ∧ token ≠ .closeBracket ∧
      (token = .word .null → json = .null) := by
  cases json with
  | null => exact ⟨_, _, rfl, by simp, fun _ => rfl⟩
  | boolean truth => cases truth <;> exact ⟨_, _, rfl, by simp, by simp⟩
  | integer number => exact ⟨_, _, rfl, by simp, by simp⟩
  | string text => exact ⟨_, _, rfl, by simp, by simp⟩
  | array items => exact ⟨_, _, rfl, by simp, by simp⟩
  | object members => exact ⟨_, _, rfl, by simp, by simp⟩

section Scalars

theorem characters_map_char (text : List Char) : Piece.characters (text.map .char) = .ok text := by
  induction text with
  | nil => rfl
  | cons c text ih =>
      rw [List.map_cons, Piece.characters, ih]
      rfl

theorem readPieces_map_char (text : String) :
    readPieces (text.toList.map .char) = .ok text := by
  rw [readPieces, characters_map_char]
  simp only [String.ofList_toList]

theorem reads_string (text : String) : Reads readString (.string text) text := by
  intro rest
  simp only [tokens, List.singleton_append, readString, readPieces_map_char, Except.map]

theorem reads_boolean (truth : Bool) : Reads readBoolean (.boolean truth) truth := by
  intro rest
  cases truth <;> rfl

theorem le_ofDigitChars (digits : List Char) (significand : Nat) :
    significand ≤ Nat.ofDigitChars 10 digits significand := by
  rw [Nat.ofDigitChars_eq_ofDigitChars_zero]
  have positive : 0 < 10 ^ digits.length := Nat.pow_pos (by decide)
  exact Nat.le_trans (Nat.le_mul_of_pos_left _ positive) (Nat.le_add_right _ _)

theorem extendSignificand_eq {digits : List Char} {significand : Nat}
    (fits : Nat.ofDigitChars 10 digits significand < UInt64.size) :
    extendSignificand significand digits =
      (Nat.ofDigitChars 10 digits significand, []) := by
  induction digits generalizing significand with
  | nil => simp only [extendSignificand, Nat.ofDigitChars_nil]
  | cons digit digits ih =>
      -- no prefix of the digits is more than all of them
      rw [Nat.ofDigitChars_cons, Nat.mul_comm] at fits ⊢
      have extended := le_ofDigitChars digits (significand * 10 + (digit.toNat - '0'.toNat))
      rw [extendSignificand, if_pos (Nat.lt_of_le_of_lt extended fits), ih fits]

theorem extendSignificand_toDigits (number : Nat) (fits : number < UInt64.size) :
    extendSignificand 0 (Nat.toDigits 10 number) = (number, []) := by
  have whole := Nat.ofDigitChars_ten_toDigits (n := number)
  rw [extendSignificand_eq (by rwa [whole]), whole]

theorem number?_ofInt_of_not_neg {number : Int} (unsigned : ¬number < 0)
    (below : number < 2 ^ 64) :
    (Numeral.ofInt number).number? = some (.natural number.natAbs.toUInt64) := by
  have whole := extendSignificand_toDigits number.natAbs (by rw [UInt64.size]; omega)
  simp [Numeral.ofInt, Numeral.number?, whole, Numeral.isFloating, extendSignificand, unsigned]

theorem number?_ofInt_of_neg {number : Int} (negative : number < 0)
    (above : -2 ^ 63 ≤ number) :
    (Numeral.ofInt number).number? = some (.negative (.ofInt number)) := by
  have small : 0 < number.natAbs ∧ number.natAbs ≤ Nat.pow 2 63 := by
    rw [Nat.pow_eq]
    omega
  have back : Int64.ofInt (-(number.natAbs : Int)) = .ofInt number := by
    rw [Int.ofNat_natAbs_of_nonpos (by omega), Int.neg_neg]
  have whole := extendSignificand_toDigits number.natAbs (by rw [UInt64.size]; omega)
  simp only [Numeral.ofInt, Numeral.number?, whole, Numeral.isFloating, extendSignificand,
    negative, small, back]
  rfl

/-- A whole number that 64 bits hold is read if it is within the bounds. -/
theorem reads_whole {low high number : Int} (above : low ≤ number) (below : number ≤ high)
    (lowest : -2 ^ 63 ≤ low) (highest : high < 2 ^ 64) (expected : String) :
    Reads (readWhole low high expected) (.integer number) number := by
  intro rest
  simp only [tokens, List.singleton_append, readWhole, readNumeral]
  by_cases negative : number < 0
  · have back : (Int64.ofInt number).toInt = number :=
      Int64.toInt_ofInt_of_le (by omega) (by omega)
    rw [number?_ofInt_of_neg negative (by omega)]
    simp only [bind, Except.bind, pure, Except.pure, wholeWithin, back, above, below, and_self,
      if_true]
  · have back : (number.natAbs.toUInt64.toNat : Int) = number := by
      rw [Nat.toUInt64, UInt64.toNat_ofNat_of_lt' (by simp [UInt64.size]; omega)]
      omega
    rw [number?_ofInt_of_not_neg negative (by omega)]
    simp only [bind, Except.bind, pure, Except.pure, wholeWithin, back, above, below, and_self,
      if_true]

theorem reads_int64 (number : Int64) : Reads readInt64 (.integer number.toInt) number := by
  have whole := (reads_whole (Int64.le_iff_toInt_le.1 (Int64.minValue_le number))
    (Int64.le_iff_toInt_le.1 (Int64.le_maxValue number)) (by decide) (by decide) "i64").map
      Int64.ofInt
  rw [Int64.ofInt_toInt] at whole
  exact whole

theorem reads_uint32 (number : UInt32) : Reads readUInt32 (.integer number.toNat) number := by
  have below : (number.toNat : Int) ≤ 2 ^ 32 - 1 := by
    have := number.toNat_lt
    omega
  have whole := (reads_whole (Int.natCast_nonneg _) below (by decide) (by decide) "u32").map
    fun number => UInt32.ofNat number.toNat
  rw [Int.toNat_natCast, UInt32.ofNat_toNat] at whole
  exact whole

end Scalars

section Containers

variable {depth : Nat}

theorem reads_option {encode : α → Json} {inner : Reader α} {found : Option α}
    (known : ∀ content, encode content ≠ .null)
    (reads : ∀ content, found = some content → Reads inner (encode content) content) :
    Reads (readOption inner) (.ofOption encode found) found := by
  intro rest
  cases found with
  | none => rfl
  | some content =>
      rcases exists_tokens_eq_cons (encode content) with ⟨token, more, parts, -, isNull⟩
      have read := reads content rfl rest
      rw [parts, List.cons_append] at read
      rw [Json.ofOption, parts, List.cons_append, readOption]
      · rw [read]
        rfl
      · intro others same
        exact known content (isNull (List.cons.inj same).1)

theorem length_le_itemTokens (items : List Json) (rest : List Token) :
    items.length ≤ (itemTokens [.comma] items ++ rest).length := by
  induction items with
  | nil => simp
  | cons item items ih =>
      simp only [itemTokens, List.length_append, List.length_cons] at *
      omega

theorem readItems_itemTokens {item : Reader α} {jsons : List Json} {contents : List α}
    (reads : List.Forall₂ (Reads item) jsons contents) {bound : Nat}
    (enough : jsons.length ≤ bound) (rest : List Token) :
    readItems item bound (itemTokens [.comma] jsons ++ rest) = .ok (contents, rest) := by
  induction reads generalizing bound with
  | nil => cases bound <;> rfl
  | @cons json content jsons contents first others ih =>
      rcases exists_tokens_eq_cons json with ⟨token, more, parts, inside, -⟩
      cases bound with
      | zero => contradiction
      | succ bound =>
          have read := first (itemTokens [.comma] jsons ++ rest)
          rw [parts] at read
          simp only [itemTokens, parts, List.append_assoc, List.cons_append, List.nil_append]
            at read ⊢
          rw [readItems]
          · simp only [read, bind, Except.bind, ih (Nat.le_of_succ_le_succ enough), pure,
              Except.pure]
          · simpa using inside

theorem reads_list {item : Reader α} {jsons : List Json} {contents : List α}
    (reads : List.Forall₂ (Reads item) jsons contents) (deep : depth ≠ 0) :
    Reads (readList depth item) (.array jsons) contents := by
  intro rest
  cases reads with
  | nil => simp only [tokens, itemTokens, List.cons_append, readList, deep, if_false,
      List.nil_append]
  | @cons json content jsons contents first others =>
      rcases exists_tokens_eq_cons json with ⟨token, more, parts, inside, -⟩
      have read := first (itemTokens [.comma] jsons ++ rest)
      have later := readItems_itemTokens others (length_le_itemTokens jsons rest) rest
      rw [parts] at read
      simp only [tokens, itemTokens, parts, List.append_assoc, List.cons_append, List.nil_append,
        readList, deep, if_false] at read ⊢
      split
      · contradiction
      · next closing => exact absurd (List.cons.inj closing).1 inside
      · simp only [read, later, bind, Except.bind, pure, Except.pure]

/-- Members are taken up one after the other by a step, which leads from a state to another. -/
inductive Collects (step : String → δ → Reader δ) : List (String × Json) → δ → δ → Prop where
  | nil {state : δ} : Collects step [] state state
  | cons {key : String} {json : Json} {members : List (String × Json)} {state next final : δ}
      (first : ∀ rest, step key state (.colon :: (json.tokens ++ rest)) = .ok (next, rest))
      (others : Collects step members next final) :
      Collects step ((key, json) :: members) state final

/-- The tokens of members whose keys and contents may be spelled in any way, the first one behind a
lead and the others behind a comma, and the closing brace. -/
def spelledTokens (lead : List Token) : List (List Piece × List Token) → List Token
  | [] => [.closeBrace]
  | (key, content) :: rest =>
      lead ++ .string key :: .colon :: content ++ spelledTokens [.comma] rest

/-- How a member is spelled when it is written. -/
def spelling (member : String × Json) : List Piece × List Token :=
  (member.1.toList.map .char, member.2.tokens)

theorem spelledTokens_map_spelling (lead : List Token) (members : List (String × Json)) :
    spelledTokens lead (members.map spelling) = memberTokens lead members := by
  induction members generalizing lead with
  | nil => rfl
  | cons member members ih =>
      rw [List.map_cons, spelling, spelledTokens, memberTokens, ih]

/-- Members are taken up one after the other by a step, however they are spelled. -/
inductive Gathers (step : String → δ → Reader δ) : List (List Piece × List Token) → δ → δ → Prop
    where
  | nil {state : δ} : Gathers step [] state state
  | cons {key : String} {pieces : List Piece} {content : List Token}
      {members : List (List Piece × List Token)} {state next final : δ}
      (named : readPieces pieces = .ok key)
      (first : Takes (step key state) (.colon :: content) next)
      (others : Gathers step members next final) :
      Gathers step ((pieces, content) :: members) state final

theorem Collects.gathers {step : String → δ → Reader δ} {members : List (String × Json)}
    {state final : δ} (collects : Collects step members state final) :
    Gathers step (members.map spelling) state final := by
  induction collects with
  | nil => exact .nil
  | cons first others ih => exact .cons (readPieces_map_char _) first ih

theorem length_le_spelledTokens (members : List (List Piece × List Token)) (rest : List Token) :
    members.length ≤ (spelledTokens [.comma] members ++ rest).length := by
  induction members with
  | nil => simp
  | cons member members ih =>
      simp only [spelledTokens, List.length_append, List.length_cons] at *
      omega

theorem readMember_of_takes {step : String → δ → Reader δ} {key : String} {pieces : List Piece}
    {content : List Token} {state next : δ} (named : readPieces pieces = .ok key)
    (takes : Takes (step key state) (.colon :: content) next) (rest : List Token) :
    readMember step state (.string pieces :: .colon :: (content ++ rest)) = .ok (next, rest) := by
  have taken := takes rest
  rw [List.cons_append] at taken
  simp only [readMember, readKey, named, Except.map, bind, Except.bind, taken]

namespace Gathers

variable {step : String → δ → Reader δ} {members : List (List Piece × List Token)}
  {state final : δ}

theorem readMembers_eq (gathers : Gathers step members state final) {bound : Nat}
    (enough : members.length ≤ bound) (rest : List Token) :
    readMembers step bound state (spelledTokens [.comma] members ++ rest) = .ok (final, rest) := by
  induction gathers generalizing bound with
  | nil => cases bound <;> rfl
  | @cons _ _ _ members _ _ _ named first others ih =>
      cases bound with
      | zero => contradiction
      | succ bound =>
          have taken := readMember_of_takes named first (spelledTokens [.comma] members ++ rest)
          simp only [spelledTokens, List.append_assoc, List.cons_append, List.nil_append,
            readMembers, taken, bind, Except.bind]
          exact ih (Nat.le_of_succ_le_succ enough)

theorem takes_readObject (gathers : Gathers step members state final) :
    Takes (readObject step state) (spelledTokens [] members) final := by
  intro rest
  cases gathers with
  | nil => rfl
  | @cons _ _ _ members _ _ _ named first others =>
      have taken := readMember_of_takes named first (spelledTokens [.comma] members ++ rest)
      simp only [spelledTokens, List.append_assoc, List.cons_append, List.nil_append,
        readObject, taken, bind, Except.bind]
      exact others.readMembers_eq (length_le_spelledTokens members rest) rest

end Gathers

theorem readObject_memberTokens {step : String → δ → Reader δ}
    {members : List (String × Json)} {state final : δ}
    (collects : Collects step members state final) (rest : List Token) :
    readObject step state (memberTokens [] members ++ rest) = .ok (final, rest) := by
  rw [← spelledTokens_map_spelling]
  exact collects.gathers.takes_readObject rest

theorem takes_readField {fields : List (Field δ)} {field : Field δ} {key : String}
    {content : List Token} {draft next : δ}
    (found : (fields.find? fun field => field.name == key) = some field)
    (fresh : field.given draft = false) (takes : Takes (field.read draft) content next) :
    Takes (readField fields key draft) (.colon :: content) next := by
  intro rest
  simp only [List.cons_append, readField, found, fresh, behindColon, takes rest, bind, Except.bind,
    Bool.false_eq_true, if_false]

theorem readField_of_read {fields : List (Field δ)} {field : Field δ} {key : String}
    {json : Json} {draft next : δ}
    (found : (fields.find? fun field => field.name == key) = some field)
    (fresh : field.given draft = false) (reads : Reads (field.read draft) json next)
    (rest : List Token) :
    readField fields key draft (.colon :: (json.tokens ++ rest)) = .ok (next, rest) :=
  takes_readField found fresh reads rest

/-- The object of a record is read into a draft, which is then finished. -/
theorem Gathers.readRecord_eq {fields : List (Field δ)}
    {members : List (List Piece × List Token)} {start draft : δ}
    (gathers : Gathers (readField fields) members start draft) (deep : depth ≠ 0) (title : String)
    (finish : δ → Except ReadError α) (rest : List Token) :
    readRecord depth title fields start finish (.openBrace :: (spelledTokens [] members ++ rest)) =
      (finish draft).map fun content => (content, rest) := by
  simp only [readRecord, deep, if_false, gathers.takes_readObject rest, bind, Except.bind, pure,
    Except.pure]
  cases finish draft <;> rfl

theorem reads_record {fields : List (Field δ)} {members : List (String × Json)}
    {start : δ} {finish : δ → Except ReadError α} {content : α} (deep : depth ≠ 0)
    (title : String) (draft : δ) (collects : Collects (readField fields) members start draft)
    (finished : finish draft = .ok content) :
    Reads (readRecord depth title fields start finish) (.object members) content := by
  intro rest
  rw [tokens, List.cons_append, ← spelledTokens_map_spelling,
    collects.gathers.readRecord_eq deep, finished]
  rfl

theorem reads_variant {variants : List (String × Reader α)} {name : String}
    {payload : Reader α} {json : Json} {content : α} (deep : depth ≠ 0)
    (found : Entries.lookup name variants = some payload) (reads : Reads payload json content) :
    Reads (readVariant depth variants) (.object [(name, json)]) content := by
  intro rest
  have known : name ∈ variants.map Prod.fst := by
    by_cases present : name ∈ variants.map Prod.fst
    · exact present
    · rw [(Entries.lookup_eq_none_iff name variants).2 present] at found
      contradiction
  simp only [tokens, memberTokens, List.cons_append, List.nil_append, List.append_assoc,
    readVariant, deep, if_false, readVariantName, readKey, readPieces_map_char, Except.map, known,
    if_true, bind, Except.bind, behindColon, found, reads (.closeBrace :: rest), pure, Except.pure]

end Containers

end Manifest.Interchange
