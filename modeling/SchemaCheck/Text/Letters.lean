import SchemaCheck.Unicode.Category
import SchemaCheck.Unicode.Property
/-!
# Letters — the classes of characters that the library asks for

White space, letters, numerals, decimal digits, and the characters of words: letters, marks, decimal digits,
connecting punctuation and join controls.
-/
namespace SchemaCheck.Text

def property (name : String) : CharSet := (Unicode.property? name).getD CharSet.empty

def whiteSpace : CharSet := property "whitespace"

def letters : CharSet := property "alphabetic"

def numerals : CharSet := Unicode.inCategories ["nd", "nl", "no"]

def decimalDigits : CharSet := Unicode.inCategories ["nd"]

def wordCharacters : CharSet :=
  (letters.union (property "joincontrol")).union (Unicode.inCategories ["mn", "mc", "me", "nd", "pc"])

def isWhiteSpace (c : Char) : Bool := whiteSpace.contains c

def isLetter (c : Char) : Bool := letters.contains c

def isNumeral (c : Char) : Bool := numerals.contains c

def isWord (c : Char) : Bool := wordCharacters.contains c

end SchemaCheck.Text
