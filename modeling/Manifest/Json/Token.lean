/-!
# JSON tokens

The text of a JSON document, cut into tokens. A token that is not well formed is kept as such,
together with what is wrong with it, since whether and how it counts depends on what was to be read
in its place: a string that is skipped may hold half a surrogate pair, one that is read may not.
-/

namespace Manifest.Json

/-- What is wrong with a text. -/
inductive Fault where
  /-- Something stands where it cannot stand. -/
  | malformed
  /-- The text ends too early. -/
  | truncated
  deriving DecidableEq, Repr

/-- The three words of the format. -/
inductive Word where
  | null
  | true
  | false
  deriving DecidableEq, Repr

/-- A number as it is written: its sign, and the digits of its parts. A fraction or an exponent that
is not written has no digits; one that is written has some. -/
structure Numeral where
  negative : Bool
  whole : List Char
  fraction : List Char
  exponentNegative : Bool
  exponent : List Char
  deriving DecidableEq, Repr

/-- An element of a string: a character, or a unit of 16 bits that is half a surrogate pair. -/
inductive Piece where
  | char (c : Char)
  | half (unit : Nat)
  deriving DecidableEq, Repr

/-- A token, well formed or not. -/
inductive Token where
  | openBrace
  | closeBrace
  | openBracket
  | closeBracket
  | comma
  | colon
  | word (word : Word)
  | numeral (numeral : Numeral)
  | string (pieces : List Piece)
  /-- A word that is not spelled out. -/
  | brokenWord (fault : Fault)
  /-- A number that lacks digits or has too many zeros. -/
  | brokenNumeral (fault : Fault)
  /-- A string that is not closed, and what it holds up to the fault. -/
  | brokenString (pieces : List Piece) (fault : Fault)
  /-- A character that starts no token. -/
  | stray
  deriving DecidableEq, Repr

namespace Piece

/-- Whether a unit is the first half of a surrogate pair. -/
def isHigh (unit : Nat) : Bool := 0xd800 ≤ unit && unit < 0xdc00

/-- Whether a unit is the second half of a surrogate pair. -/
def isLow (unit : Nat) : Bool := 0xdc00 ≤ unit && unit < 0xe000

/-- The character that a surrogate pair stands for. -/
def combine (high low : Nat) : Char :=
  Char.ofNat (0x10000 + (high - 0xd800) * 0x400 + (low - 0xdc00))

def ofUnit (unit : Nat) : Piece :=
  if isHigh unit || isLow unit then .half unit else .char (Char.ofNat unit)

/-- The characters of a string, unless a surrogate lacks its partner. -/
def characters : List Piece → Except Fault (List Char)
  | [] => .ok []
  | .char c :: rest => (characters rest).map (c :: ·)
  | .half high :: .half low :: rest =>
      if isHigh high && isLow low then (characters rest).map (combine high low :: ·)
      else .error .malformed
  | .half _ :: _ => .error .malformed

/-- What is wrong with a string that ends in a fault: a surrogate without its partner comes before
the fault, unless the partner may still have been to come. -/
def firstFault (fault : Fault) : List Piece → Fault
  | [] => fault
  | [.half unit] => if isHigh unit then fault else .malformed
  | .char _ :: rest => firstFault fault rest
  | .half high :: .half low :: rest =>
      if isHigh high && isLow low then firstFault fault rest else .malformed
  | .half _ :: .char _ :: _ => .malformed

end Piece

end Manifest.Json
