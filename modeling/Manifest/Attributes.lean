import Manifest.Dictionary
import Manifest.Value

/-!
# Attributes

Attributes are a dictionary from keys to values, in the order in which the keys were first written.
-/

namespace Manifest

/-- Named values, in the order in which the names were first written. -/
abbrev Attributes := Dictionary String Value

namespace Attributes

/-- The attribute that holds the name of what it belongs to. -/
def nameKey : String := "name"

/-- The attribute that holds the type of a scope. -/
def typeKey : String := "type"

end Attributes

end Manifest
