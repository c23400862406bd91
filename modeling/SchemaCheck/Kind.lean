/-!
# Kind — what sort of value something is

Each value has one kind of its own; `Kind.number` covers integers and floats, `Kind.any` every value.
-/
namespace SchemaCheck

inductive Kind where
  | any | null | bool | integer | float | number | string | symbol | sequence | map
  deriving DecidableEq, Inhabited

namespace Kind

def all : List Kind := [.any, .null, .bool, .integer, .float, .number, .string, .symbol, .sequence, .map]

def name : Kind → String
  | .any => "Any"
  | .null => "Null"
  | .bool => "Bool"
  | .integer => "Integer"
  | .float => "Float"
  | .number => "Number"
  | .string => "String"
  | .symbol => "Symbol"
  | .sequence => "Sequence"
  | .map => "Map"

/-- The word for it in the written form of schemas. -/
def word (k : Kind) : String := k.name.toLower

/-- The noun phrase for it in messages. -/
def described : Kind → String
  | .any => "anything"
  | .null => "null"
  | .bool => "a boolean"
  | .integer => "an integer"
  | .float => "a float"
  | .number => "a number"
  | .string => "a string"
  | .symbol => "a symbol"
  | .sequence => "a sequence"
  | .map => "a map"

def ofName? (s : String) : Option Kind := all.find? (·.name == s)

def ofWord? (s : String) : Option Kind := all.find? (·.word == s)

end Kind
end SchemaCheck
