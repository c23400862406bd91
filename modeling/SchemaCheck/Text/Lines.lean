import SchemaCheck.Text.Letters
/-!
# Lines — the lines of a text

A line ends with a line feed; a carriage return right before it belongs to the end of the line.  A text that ends
with a line feed has no further, empty line.  `isBlankLine` says that a line holds white space only.
-/
namespace SchemaCheck.Text

/-- The line whose characters, last one first, are `line`, without a carriage return at its end. -/
def endedLine (line : List Char) : List Char :=
  match line with
  | '\r' :: rest => rest.reverse
  | _ => line.reverse

/-- The lines of a text that continues a line, whose characters so far are `line`, last one first. -/
def linesFrom (line : List Char) : List Char → List (List Char)
  | [] => if line.isEmpty then [] else [line.reverse]
  | c :: rest => if c = '\n' then endedLine line :: linesFrom [] rest else linesFrom (c :: line) rest

def lines (cs : List Char) : List (List Char) := linesFrom [] cs

def isBlankLine (cs : List Char) : Bool := cs.all isWhiteSpace

end SchemaCheck.Text
