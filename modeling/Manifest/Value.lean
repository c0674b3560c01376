import Manifest.Identity
import Manifest.Text.Quoted

/-!
# Attribute values

A value is a text, a whole number of 64 bits, a truth value, a list of values, or a reference to
another resource. A reference is carried as it was written; nothing here follows it.
-/

namespace Manifest

/-- The value of one attribute. -/
inductive Value where
  | string (text : String)
  | integer (number : Int64)
  | boolean (truth : Bool)
  | list (items : List Value)
  | reference (target : Identity)

namespace Value

instance : Inhabited Value := ⟨.boolean false⟩

/-- The five kinds of values. -/
inductive Kind where
  | string
  | integer
  | boolean
  | list
  | reference
  deriving DecidableEq, Repr

def Kind.name : Kind → String
  | .string => "string"
  | .integer => "integer"
  | .boolean => "boolean"
  | .list => "list"
  | .reference => "reference"

def kind : Value → Kind
  | .string _ => .string
  | .integer _ => .integer
  | .boolean _ => .boolean
  | .list _ => .list
  | .reference _ => .reference

def asString? : Value → Option String
  | .string text => some text
  | _ => none

def asInteger? : Value → Option Int64
  | .integer number => some number
  | _ => none

def asBoolean? : Value → Option Bool
  | .boolean truth => some truth
  | _ => none

mutual

/-- The written form: texts are quoted, and a comma and a space stand between items of a list. -/
def display : Value → String
  | .string text => Text.quote text
  | .integer number => toString number.toInt
  | .boolean truth => if truth then "true" else "false"
  | .list items => "[" ++ ", ".intercalate (displayAll items) ++ "]"
  | .reference target => target.display

def displayAll : List Value → List String
  | [] => []
  | value :: rest => value.display :: displayAll rest

end

mutual

def decideEq : (left right : Value) → Decidable (left = right)
  | .string left, .string right => decidable_of_iff (left = right) (by simp)
  | .integer left, .integer right => decidable_of_iff (left = right) (by simp)
  | .boolean left, .boolean right => decidable_of_iff (left = right) (by simp)
  | .reference left, .reference right => decidable_of_iff (left = right) (by simp)
  | .list left, .list right =>
      match decideEqAll left right with
      | isTrue same => isTrue (by rw [same])
      | isFalse differ => isFalse (by simpa using differ)
  | .string _, .integer _ | .string _, .boolean _ | .string _, .list _ | .string _, .reference _
  | .integer _, .string _ | .integer _, .boolean _ | .integer _, .list _ | .integer _, .reference _
  | .boolean _, .string _ | .boolean _, .integer _ | .boolean _, .list _ | .boolean _, .reference _
  | .list _, .string _ | .list _, .integer _ | .list _, .boolean _ | .list _, .reference _
  | .reference _, .string _ | .reference _, .integer _ | .reference _, .boolean _
  | .reference _, .list _ => isFalse (by simp)

def decideEqAll : (left right : List Value) → Decidable (left = right)
  | [], [] => isTrue rfl
  | [], _ :: _ => isFalse (by simp)
  | _ :: _, [] => isFalse (by simp)
  | first :: left, second :: right =>
      match decideEq first second, decideEqAll left right with
      | isTrue same, isTrue sameRest => isTrue (by rw [same, sameRest])
      | isFalse differ, _ => isFalse (by simp [differ])
      | _, isFalse differ => isFalse (by simp [differ])

end

instance : DecidableEq Value := decideEq

mutual

/-- The identities that a value refers to, at any depth and from left to right. -/
def references : Value → List Identity
  | .list items => referencesAll items
  | .reference target => [target]
  | .string _ => []
  | .integer _ => []
  | .boolean _ => []

/-- The identities that several values refer to, from left to right. -/
def referencesAll : List Value → List Identity
  | [] => []
  | value :: rest => value.references ++ referencesAll rest

end

end Value

end Manifest
