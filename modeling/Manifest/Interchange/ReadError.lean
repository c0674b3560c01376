import Manifest.Json.Number
import Manifest.StructureError

/-!
# What can go wrong in reading

A text can fail to be JSON, or it can be JSON that describes no entity. The first problem in the
order of the text is the one that is reported.
-/

namespace Manifest.Interchange

open Json

/-- What stood where something else was expected. -/
inductive Found where
  | null
  | boolean (truth : Bool)
  | number (number : Number)
  | string (text : String)
  | sequence
  | map
  | unitVariant

/-- Why a JSON text does not describe an entity. -/
inductive Mismatch where
  | missingField (field : String)
  | repeatedField (field : String)
  | unknownVariant (variant : String) (known : List String)
  | wrongKind (found : Found) (expected : String)
  | outOfRange (number : Int) (expected : String)
  | wrongLength (length : Nat) (expected : String)
  | refused (cause : StructureError)

/-- Why an entity could not be read. -/
inductive ReadError where
  | fault (fault : Fault)
  | mismatch (cause : Mismatch)

def Found.message : Found → String
  | .null => "null"
  | .boolean truth => "boolean `" ++ (if truth then "true" else "false") ++ "`"
  | .number (.natural whole) => "integer `" ++ toString whole.toNat ++ "`"
  | .number (.negative whole) => "integer `" ++ toString whole.toInt ++ "`"
  | .number (.floating broken) => "floating point `" ++ floatText broken ++ "`"
  | .string text => "string " ++ Text.quote text
  | .sequence => "sequence"
  | .map => "map"
  | .unitVariant => "unit variant"

def choice : List String → String
  | [first, second] => "`" ++ first ++ "` or `" ++ second ++ "`"
  | names => "one of " ++ ", ".intercalate (names.map fun name => "`" ++ name ++ "`")

def Mismatch.message : Mismatch → String
  | .missingField field => "missing field `" ++ field ++ "`"
  | .repeatedField field => "duplicate field `" ++ field ++ "`"
  | .unknownVariant variant known =>
      "unknown variant `" ++ variant ++ "`, expected " ++ choice known
  | .wrongKind found expected => "invalid type: " ++ found.message ++ ", expected " ++ expected
  | .outOfRange number expected =>
      "invalid value: integer `" ++ toString number ++ "`, expected " ++ expected
  | .wrongLength length expected =>
      "invalid length " ++ toString length ++ ", expected " ++ expected
  | .refused cause => cause.message

end Manifest.Interchange
