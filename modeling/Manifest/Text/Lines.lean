/-!
# Lines of a text

A line ends at a line feed, and a carriage return just before the line feed belongs to the line's
end. What follows the last line feed is a line only if it holds something.
-/

namespace Manifest.Text

/-- The lines of a sequence of characters, without their ends. -/
def splitLines : List Char → List (List Char)
  | [] => []
  | '\n' :: rest => [] :: splitLines rest
  | '\r' :: '\n' :: rest => [] :: splitLines rest
  | c :: rest =>
      match splitLines rest with
      | [] => [[c]]
      | line :: later => (c :: line) :: later

def lines (text : String) : List String :=
  (splitLines text.toList).map String.ofList

end Manifest.Text
