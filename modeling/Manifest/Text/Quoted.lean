import Manifest.Text.Extending
import Manifest.Text.Invisible

/-!
# Quoted text

Text is quoted by putting it between double quotes and escaping what could be misread: the quote,
the backslash, line ends and tabs by a letter, and every other character that is invisible or clings
to its neighbour by its code point in braces.
-/

namespace Manifest.Text

/-- A character given by its code point, in lower-case hexadecimal digits without leading zeros. -/
def codePointEscape (c : Char) : List Char :=
  '\\' :: 'u' :: '{' :: Nat.toDigits 16 c.toNat ++ ['}']

/-- How one character stands inside quoted text. -/
def quoteChar (c : Char) : List Char :=
  match c with
  | '\x00' => ['\\', '0']
  | '\t' => ['\\', 't']
  | '\r' => ['\\', 'r']
  | '\n' => ['\\', 'n']
  | '"' => ['\\', '"']
  | '\\' => ['\\', '\\']
  | c =>
      if 0x20 ≤ c.toNat ∧ c.toNat < 0x7f then [c]
      else if isExtending c || isInvisible c then codePointEscape c
      else [c]

def quote (text : String) : String :=
  String.ofList ('"' :: text.toList.flatMap quoteChar ++ ['"'])

end Manifest.Text
