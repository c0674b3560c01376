import Manifest.Diagnostic.Basic
import Manifest.Text.Lines

/-!
# Diagnostics on a terminal

A diagnostic is laid out in rows of spans, and each span has a style. First comes a header, then the
location, then the line of the source that the location points to, framed by two rows, and then
notes and help. What a row looks like with colours and without is decided only when it is rendered.
-/

namespace Manifest.Terminal

/-- The colours in use. -/
inductive Colour where
  | red
  | yellow
  | blue
  | cyan
  deriving DecidableEq, Repr

def Colour.code : Colour → String
  | .red => "31"
  | .yellow => "33"
  | .blue => "34"
  | .cyan => "36"

/-- How a span is to look. -/
structure Style where
  bold : Bool
  colour : Option Colour
  deriving DecidableEq, Repr

namespace Style

def plain : Style := ⟨false, none⟩

def strong : Style := ⟨true, none⟩

def coloured (colour : Colour) : Style := ⟨false, some colour⟩

def strongColoured (colour : Colour) : Style := ⟨true, some colour⟩

def codes (style : Style) : List String :=
  (if style.bold then ["1"] else []) ++ (style.colour.map Colour.code).toList

def opening (style : Style) : List Char :=
  '\x1b' :: '[' :: (";".intercalate style.codes).toList ++ ['m']

def closing : List Char := ['\x1b', '[', '0', 'm']

end Style

/-- A text with a style, set to the right in a field of some width. -/
structure Span where
  style : Style
  text : String
  width : Nat
  deriving DecidableEq, Repr

namespace Span

def plain (text : String) : Span := ⟨.plain, text, 0⟩

def styled (style : Style) (text : String) : Span := ⟨style, text, 0⟩

/-- Puts a sequence behind each reset in a text. -/
def reopen (opening : List Char) : List Char → List Char
  | '\x1b' :: '[' :: '0' :: 'm' :: rest => Style.closing ++ opening ++ reopen opening rest
  | c :: rest => c :: reopen opening rest
  | [] => []

/-- Fills a text up to a width with blanks on the left. -/
def pad (width : Nat) (text : List Char) : List Char :=
  List.replicate (width - text.length) ' ' ++ text

/-- A span as it is printed. Without colours, styles leave no trace. A reset that is part of the
text does not end the style. -/
def render (colours : Bool) (span : Span) : List Char :=
  if colours && span.style != .plain then
    span.style.opening ++ pad span.width (reopen span.style.opening span.text.toList)
      ++ Style.closing
  else pad span.width span.text.toList

end Span

/-- A row, without the end of the line. -/
abbrev Row := List Span

def Row.render (colours : Bool) (row : Row) : List Char :=
  row.flatMap (Span.render colours) ++ ['\n']

/-- The least width of the gutter, in which line numbers stand. -/
def gutterWidth : Nat := 2

def severityStyle : Severity → Style
  | .error => .strongColoured .red
  | .warning => .strongColoured .yellow
  | .note => .strongColoured .blue

/-- The row with the severity, the code if there is one, and the message. -/
def headerRow (diagnostic : Diagnostic) : Row :=
  let severity := Span.styled (severityStyle diagnostic.severity) diagnostic.severity.name
  let message := Span.styled .strong diagnostic.message
  match diagnostic.code with
  | some code =>
      [severity, .plain "[", .styled (.strongColoured .red) code, .plain "]: ", message]
  | none => [severity, .plain ": ", message]

def blanks (count : Nat) : Span := .plain (String.ofList (List.replicate count ' '))

def rule : Span := .styled (.coloured .blue) "|"

def locationRow (location : Location) : Row :=
  [blanks 2, .styled (.coloured .blue) "-->", .plain " ", .plain location.display]

/-- A line of the source between two empty rows, with its number in the gutter. -/
def snippetRows (line : Nat) (text : String) : List Row :=
  let number := toString line
  let gutter := max number.length gutterWidth
  let empty : Row := [blanks (gutter + 1), .plain " ", rule]
  [empty,
    [⟨.strongColoured .blue, number, gutter + 1⟩, .plain " ", rule, .plain " ", .plain text],
    empty]

def remarkRow (label text : String) : Row :=
  [blanks (gutterWidth + 1), .plain " ", .styled (.coloured .cyan) "=", .plain " ",
    .styled (.strongColoured .cyan) label, .plain ": ", .plain text]

/-- The line of a source with a number. Numbers start at one. -/
def sourceLine? (source : Option String) (line : Nat) : Option String :=
  match line with
  | 0 => none
  | index + 1 => source.bind fun text => (Text.lines text)[index]?

def locationRows (source : Option String) (location : Location) : List Row :=
  locationRow location ::
    match location.line with
    | none => []
    | some line =>
        match sourceLine? source line.toNat with
        | some text => snippetRows line.toNat text
        | none => []

def rows (source : Option String) (diagnostic : Diagnostic) : List Row :=
  headerRow diagnostic ::
    (match diagnostic.location with
      | some location => locationRows source location
      | none => [])
    ++ diagnostic.notes.map (remarkRow "note")
    ++ (diagnostic.help.map (remarkRow "help")).toList

/-- A diagnostic as it is printed, given the source that its location points into. -/
def format (colours : Bool) (source : Option String) (diagnostic : Diagnostic) : String :=
  String.ofList ((rows source diagnostic).flatMap (Row.render colours))

/-- Several diagnostics as they are printed, with an empty line between any two. -/
def formatAll (colours : Bool) (source : Option String) (diagnostics : List Diagnostic) : String :=
  "\n".intercalate (diagnostics.map (format colours source))

end Manifest.Terminal
