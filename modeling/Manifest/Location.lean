/-!
# Source locations

A location says where something was written, as far as that is known: either half may be missing.
-/

namespace Manifest

/-- Where a declaration or a scope was written. -/
structure Location where
  file : Option String
  line : Option UInt32
  deriving DecidableEq, Repr, Inhabited

namespace Location

def unknown : Location := ⟨none, none⟩

def isUnknown (location : Location) : Bool :=
  location.file.isNone && location.line.isNone

/-- The written form, which has a shape of its own for each combination of known halves. -/
def display (location : Location) : String :=
  match location.file, location.line with
  | some file, some line => file ++ ":" ++ toString line.toNat
  | some file, none => file
  | none, some line => "line " ++ toString line.toNat
  | none, none => "<unknown>"

instance : ToString Location := ⟨display⟩

@[simp]
theorem isUnknown_iff (location : Location) : location.isUnknown = true ↔ location = unknown := by
  obtain ⟨file, line⟩ := location
  cases file <;> cases line <;> simp [isUnknown, unknown]

end Location

end Manifest
