import Manifest.Interchange.ReadError
import Manifest.Dictionary
import Manifest.Json.Lexer

/-!
# Readers

A reader takes what it reads from the front of a sequence of tokens. It fails at the first token
that does not fit, so that of several problems in a text the first one is reported. Containers are
opened only up to a given depth, which readers of containers count down.
-/

namespace Manifest.Interchange

open Json

/-- Takes something from the front of the tokens and leaves the others. -/
abbrev Reader (α : Type) := List Token → Except ReadError (α × List Token)

/-- How many containers may be open at the same time. -/
def maximalDepth : Nat := 127

def fail (fault : Fault) : Except ReadError α := .error (.fault fault)

/-- Fails because the JSON does not describe what is read. -/
def refuse (cause : Mismatch) : Except ReadError α := .error (.mismatch cause)

/-- The text that the elements of a string make up. -/
def readPieces (pieces : List Piece) : Except ReadError String :=
  match Piece.characters pieces with
  | .ok characters => .ok (String.ofList characters)
  | .error fault => fail fault

def readNumeral (numeral : Numeral) : Except ReadError Number :=
  match numeral.number? with
  | some number => .ok number
  | none => fail .malformed

def findKind : List Token → Except ReadError Found
  | [] => fail .truncated
  | .word .null :: _ => .ok .null
  | .word .true :: _ => .ok (.boolean true)
  | .word .false :: _ => .ok (.boolean false)
  | .numeral numeral :: _ => (readNumeral numeral).map Found.number
  | .string pieces :: _ => (readPieces pieces).map Found.string
  | .openBracket :: _ => .ok .sequence
  | .openBrace :: _ => .ok .map
  | .brokenWord fault :: _ => fail fault
  | .brokenNumeral fault :: _ => fail fault
  | .brokenString pieces fault :: _ => fail (Piece.firstFault fault pieces)
  | _ => fail .malformed

/-- Refuses what the tokens start with, since something else is expected. -/
def wrongKind (expected : String) : Reader α := fun tokens => do
  refuse (.wrongKind (← findKind tokens) expected)

/-- Takes nothing, since the container it would stand in is too deep. -/
def tooDeep : Reader α := fun _ => fail .malformed

def readString : Reader String
  | .string pieces :: rest => (readPieces pieces).map (·, rest)
  | tokens => wrongKind "a string" tokens

def readBoolean : Reader Bool
  | .word .true :: rest => .ok (true, rest)
  | .word .false :: rest => .ok (false, rest)
  | tokens => wrongKind "a boolean" tokens

def wholeWithin (low high : Int) (expected : String) : Number → Except ReadError Int
  | .natural number =>
      if low ≤ number.toNat ∧ number.toNat ≤ high then .ok number.toNat
      else refuse (.outOfRange number.toNat expected)
  | .negative number =>
      if low ≤ number.toInt ∧ number.toInt ≤ high then .ok number.toInt
      else refuse (.outOfRange number.toInt expected)
  | .floating number => refuse (.wrongKind (.number (.floating number)) expected)

def readWhole (low high : Int) (expected : String) : Reader Int
  | .numeral numeral :: rest => do
      return (← wholeWithin low high expected (← readNumeral numeral), rest)
  | tokens => wrongKind expected tokens

def readInt64 : Reader Int64 := fun tokens =>
  (readWhole Int64.minValue.toInt Int64.maxValue.toInt "i64" tokens).map fun (number, rest) => (.ofInt number, rest)

def readUInt32 : Reader UInt32 := fun tokens =>
  (readWhole 0 (UInt32.size - 1) "u32" tokens).map fun (number, rest) => (.ofNat number.toNat, rest)

def readOption (inner : Reader α) : Reader (Option α)
  | .word .null :: rest => .ok (none, rest)
  | tokens => (inner tokens).map fun (content, rest) => (some content, rest)

def behindColon : List Token → Except ReadError (List Token)
  | [] => fail .truncated
  | .colon :: rest => .ok rest
  | _ => fail .malformed

/-- Reads the items behind the first one, and the bracket that closes them. There are no more of
them than the bound says. -/
def readItems (item : Reader α) : Nat → Reader (List α)
  | _, [] => fail .truncated
  | _, .closeBracket :: rest => .ok ([], rest)
  | _, .comma :: .closeBracket :: _ => fail .malformed
  | bound + 1, .comma :: tokens => do
      let (content, behind) ← item tokens
      let (contents, rest) ← readItems item bound behind
      return (content :: contents, rest)
  | _, _ => fail .malformed

def readList (depth : Nat) (item : Reader α) : Reader (List α)
  | .openBracket :: tokens =>
      if depth = 0 then fail .malformed
      else
        match tokens with
        | [] => fail .truncated
        | .closeBracket :: rest => .ok ([], rest)
        | tokens => do
            let (content, behind) ← item tokens
            let (contents, rest) ← readItems item behind.length behind
            return (content :: contents, rest)
  | tokens => wrongKind "a sequence" tokens

def readKey : Reader String
  | [] => fail .truncated
  | .string pieces :: rest => (readPieces pieces).map (·, rest)
  | .brokenString pieces fault :: _ => fail (Piece.firstFault fault pieces)
  | _ => fail .malformed

/-- Reads a key, and what belongs to it as the key demands. -/
def readMember (step : String → σ → Reader σ) (state : σ) : Reader σ := fun tokens => do
  let (key, rest) ← readKey tokens
  step key state rest

/-- Reads the members behind the first one, and the brace that closes them. There are no more of
them than the bound says. -/
def readMembers (step : String → σ → Reader σ) : Nat → σ → Reader σ
  | _, _, [] => fail .truncated
  | _, state, .closeBrace :: rest => .ok (state, rest)
  | bound + 1, state, .comma :: tokens => do
      let (next, behind) ← readMember step state tokens
      readMembers step bound next behind
  | _, _, _ => fail .malformed

/-- Reads the members of an object behind its opening brace. -/
def readObject (step : String → σ → Reader σ) (state : σ) : Reader σ
  | [] => fail .truncated
  | .closeBrace :: rest => .ok (state, rest)
  | tokens => do
      let (next, behind) ← readMember step state tokens
      readMembers step behind.length next behind

def readVariantName (known : List String) : Reader String := fun tokens => do
  let (name, rest) ← readKey tokens
  if name ∈ known then .ok (name, rest) else refuse (.unknownVariant name known)

/-- Reads an object with one member, whose key is the name of a variant and says how to read the
rest. A bare name would be a variant without content, which there is none of. -/
def readVariant (depth : Nat) (variants : List (String × Reader α)) : Reader α
  | .openBrace :: tokens =>
      if depth = 0 then fail .malformed
      else do
        let (name, behindName) ← readVariantName (variants.map Prod.fst) tokens
        let behind ← behindColon behindName
        match Entries.lookup name variants with
        | none => refuse (.unknownVariant name (variants.map Prod.fst))
        | some payload =>
            let (content, afterContent) ← payload behind
            match afterContent with
            | [] => fail .truncated
            | .closeBrace :: rest => return (content, rest)
            | _ => fail .malformed
  | tokens => do
      let _ ← readVariantName (variants.map Prod.fst) tokens
      refuse (.wrongKind .unitVariant "newtype variant")

end Manifest.Interchange
