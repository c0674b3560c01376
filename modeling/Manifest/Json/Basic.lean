/-!
# JSON values and their text

A JSON value without fractional numbers, which nothing here needs to write, and its two written
forms: the compact one without any blank, and the indented one with a line to each item.
-/

namespace Manifest

/-- A JSON value whose numbers are whole. The members of an object are in written order. -/
inductive Json where
  | null
  | boolean (truth : Bool)
  | integer (number : Int)
  | string (text : String)
  | array (items : List Json)
  | object (members : List (String × Json))

namespace Json

instance : Inhabited Json := ⟨.null⟩

def ofOption (encode : α → Json) : Option α → Json
  | none => .null
  | some content => encode content

def escapeChar (c : Char) : List Char :=
  match c with
  | '"' => ['\\', '"']
  | '\\' => ['\\', '\\']
  | '\x08' => ['\\', 'b']
  | '\x0c' => ['\\', 'f']
  | '\n' => ['\\', 'n']
  | '\r' => ['\\', 'r']
  | '\t' => ['\\', 't']
  | c =>
      if c.toNat < 0x20 then
        ['\\', 'u', '0', '0', Nat.digitChar (c.toNat / 16), Nat.digitChar (c.toNat % 16)]
      else [c]

def stringText (text : String) : List Char :=
  '"' :: text.toList.flatMap escapeChar ++ ['"']

mutual

def compactText : Json → List Char
  | .null => ['n', 'u', 'l', 'l']
  | .boolean true => ['t', 'r', 'u', 'e']
  | .boolean false => ['f', 'a', 'l', 's', 'e']
  | .integer number => (toString number).toList
  | .string text => stringText text
  | .array items => '[' :: compactItems [] items
  | .object members => '{' :: compactMembers [] members

/-- Items, the first one behind a lead and the others behind a comma, and the closing bracket. -/
def compactItems (lead : List Char) : List Json → List Char
  | [] => [']']
  | item :: rest => lead ++ item.compactText ++ compactItems [','] rest

/-- Members, the first one behind a lead and the others behind a comma, and the closing brace. -/
def compactMembers (lead : List Char) : List (String × Json) → List Char
  | [] => ['}']
  | (key, content) :: rest =>
      lead ++ stringText key ++ ':' :: content.compactText ++ compactMembers [','] rest

end

/-- The start of a line at some depth, after the end of the line before. -/
def newLine (depth : Nat) : List Char :=
  '\n' :: List.replicate (2 * depth) ' '

mutual

def indentedText (depth : Nat) : Json → List Char
  | .null => ['n', 'u', 'l', 'l']
  | .boolean true => ['t', 'r', 'u', 'e']
  | .boolean false => ['f', 'a', 'l', 's', 'e']
  | .integer number => (toString number).toList
  | .string text => stringText text
  | .array [] => ['[', ']']
  | .array (item :: rest) => '[' :: indentedItems depth [] (item :: rest)
  | .object [] => ['{', '}']
  | .object (member :: rest) => '{' :: indentedMembers depth [] (member :: rest)

/-- Items, each on a line of its own, and the bracket that closes them. -/
def indentedItems (depth : Nat) (lead : List Char) : List Json → List Char
  | [] => newLine depth ++ [']']
  | item :: rest =>
      lead ++ newLine (depth + 1) ++ indentedText (depth + 1) item ++ indentedItems depth [','] rest

/-- Members, each on a line of its own, and the brace that closes them. -/
def indentedMembers (depth : Nat) (lead : List Char) : List (String × Json) → List Char
  | [] => newLine depth ++ ['}']
  | (key, content) :: rest =>
      lead ++ newLine (depth + 1) ++ stringText key
        ++ ':' :: ' ' :: indentedText (depth + 1) content
        ++ indentedMembers depth [','] rest

end

def compact (value : Json) : String :=
  String.ofList value.compactText

/-- The indented form, with two blanks to a level. -/
def pretty (value : Json) : String :=
  String.ofList (value.indentedText 0)

end Json

end Manifest
