import SchemaCheck.Text.Letters
/-!
# Quoted — text between quotes, on one line

A quote, a backslash and the common controls are written with a backslash (`escape`); a character that would not
show, or that would join with the one before it, is written as its code point in hexadecimal (`isHidden`).
`quoted` puts the result between quotes.
-/
namespace SchemaCheck.Text

/-- Controls, formats, private and unassigned characters, separators other than the blank, and marks that join with
the character before them. -/
def hidden : CharSet :=
  ((Unicode.inCategories ["cc", "cf", "co", "cn", "zl", "zp", "zs"]).diff (CharSet.single ' ')).union
    (property "graphemeextend")

def isHidden (c : Char) : Bool := hidden.contains c

/-- The written form of one character. -/
def escape (c : Char) : List Char :=
  if c = '\x00' then ['\\', '0']
  else if c = '\t' then ['\\', 't']
  else if c = '\r' then ['\\', 'r']
  else if c = '\n' then ['\\', 'n']
  else if c = '"' ∨ c = '\\' then ['\\', c]
  else if isHidden c then ['\\', 'u', '\x7b'] ++ Nat.toDigits 16 c.toNat ++ ['\x7d']
  else [c]

def quoted (s : String) : List Char := '"' :: s.toList.flatMap escape ++ ['"']

end SchemaCheck.Text
