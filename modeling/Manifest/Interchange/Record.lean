import Manifest.Interchange.Skip

/-!
# Reading records

A record with named fields is an object whose members come in any order, or an array with one item
per field in the order of the fields. What has been read so far is kept in a draft, whose fields may
be missing. In an object unknown members are skipped and no field may be given twice; in an array
only the fields at the end that are marked so may be left out.
-/

namespace Manifest.Interchange

open Json

/-- A field of a record that is read into a draft. -/
structure Field (δ : Type) where
  name : String
  /-- Whether a draft has the field already. -/
  given : δ → Bool
  /-- Reads the field into a draft. -/
  read : δ → Reader δ
  /-- Whether the array form may end before the field. -/
  droppable : Bool

/-- Reads one member of a record's object behind its key. -/
def readField (fields : List (Field δ)) (key : String) (draft : δ) : Reader δ := fun tokens => do
  match fields.find? fun field => field.name == key with
  | none =>
      let ((), rest) ← readIgnored (← behindColon tokens)
      return (draft, rest)
  | some field =>
      if field.given draft then refuse (.repeatedField key)
      else field.read draft (← behindColon tokens)

/-- Reads the items of a record's array from a position on. -/
def readPositions (title : String) (count : Nat) : Nat → List (Field δ) → δ → Reader δ
  | _, _, _, [] => fail .truncated
  | _, [], draft, .closeBracket :: rest => .ok (draft, rest)
  | _, [], _, _ => fail .malformed
  | position, field :: fields, draft, .closeBracket :: rest =>
      if field.droppable then
        readPositions title count (position + 1) fields draft (.closeBracket :: rest)
      else refuse (.wrongLength position (title ++ " with " ++ toString count ++ " elements"))
  | 0, field :: fields, draft, tokens => do
      let (next, behind) ← field.read draft tokens
      readPositions title count 1 fields next behind
  | _ + 1, _ :: _, _, .comma :: .closeBracket :: _ => fail .malformed
  | position + 1, field :: fields, draft, .comma :: tokens => do
      let (next, behind) ← field.read draft tokens
      readPositions title count (position + 2) fields next behind
  | _ + 1, _ :: _, _, _ => fail .malformed

/-- Reads a record in either form and finishes the draft. -/
def readRecord (depth : Nat) (title : String) (fields : List (Field δ)) (start : δ)
    (finish : δ → Except ReadError α) : Reader α
  | .openBracket :: tokens =>
      if depth = 0 then fail .malformed
      else do
        let (draft, rest) ← readPositions title fields.length 0 fields start tokens
        return (← finish draft, rest)
  | .openBrace :: tokens =>
      if depth = 0 then fail .malformed
      else do
        let (draft, rest) ← readObject (readField fields) start tokens
        return (← finish draft, rest)
  | tokens => wrongKind title tokens

def require (name : String) : Option α → Except ReadError α
  | some content => .ok content
  | none => refuse (.missingField name)

end Manifest.Interchange
