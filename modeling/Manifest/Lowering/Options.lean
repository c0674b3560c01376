import Manifest.Text.Blank

/-!
# Options of lowering

The only option is whether failures are reported with a dump of the declaration. It can be switched
on by an environment variable, which counts as off when it is unset, not valid UTF-8, blank, zero or
the word "false".
-/

namespace Manifest

/-- How lowering is to be done. -/
structure Options where
  /-- Whether a failure carries a dump of its declaration. -/
  debug : Bool
  deriving DecidableEq, Repr

namespace Options

def default : Options := ⟨false⟩

instance : Inhabited Options := ⟨default⟩

def withDebug (options : Options) (debug : Bool) : Options :=
  { options with debug }

/-- Whether two texts are the same but for the case of ASCII letters. -/
def sameIgnoringCase (left right : List Char) : Bool :=
  left.map Char.toLower == right.map Char.toLower

/-- Whether the text of a switch means that it is on. -/
def isOn (text : String) : Bool :=
  let core := Text.trim text.toList
  !(core.isEmpty || core == ['0'] || sameIgnoringCase core "false".toList)

/-- The options that the bytes of the environment variable stand for, if it is set. -/
def ofEnvironment (bytes? : Option ByteArray) : Options :=
  match bytes?.bind String.fromUTF8? with
  | some text => ⟨isOn text⟩
  | none => default

end Options

end Manifest
