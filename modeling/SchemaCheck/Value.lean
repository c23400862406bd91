import SchemaCheck.Number.Layout
import SchemaCheck.Key
import SchemaCheck.Kind
/-!
# Value — dynamic data

A value is a scalar, a symbol, a sequence or a map whose entries keep their order.  `Value.same` is equality:
numbers are equal when they are exactly one number, whether integer or float, and maps when they hold equal values
under the same keys, in whatever order.  `Value.render` is the text of a value in messages.
-/
namespace SchemaCheck

inductive Value where
  | null
  | bool (b : Bool)
  | int (i : Int64)
  | float (x : Double)
  | str (text : String)
  | sym (name : String)
  | seq (items : List Value)
  | map (fields : List (Key × Value))
  deriving Inhabited

namespace Value

/-- The kind that is a value's own. -/
def kind : Value → Kind
  | .null => .null
  | .bool _ => .bool
  | .int _ => .integer
  | .float _ => .float
  | .str _ => .string
  | .sym _ => .symbol
  | .seq _ => .sequence
  | .map _ => .map

/-- A number, an integer rounded to the nearest float. -/
def asDouble? : Value → Option Double
  | .int i => some (Double.ofInt i.toInt)
  | .float x => some x
  | _ => none

/-- The text of a string or a symbol. -/
def asText? : Value → Option String
  | .str s => some s
  | .sym s => some s
  | _ => none

/-- A value belongs to its own kind, a number to the numbers, and every value to anything. -/
def ofKind (v : Value) : Kind → Bool
  | .any => true
  | .number => v.kind == .integer || v.kind == .float
  | k => v.kind == k

end Value

def Key.toValue : Key → Value
  | .str s => .str s
  | .sym s => .sym s
  | .int i => .int i

/-! ## Equality -/

mutual

def Value.same : Value → Value → Bool
  | .null, .null => true
  | .bool a, .bool b => a == b
  | .int a, .int b => a == b
  | .float a, .float b => a.same b
  | .int a, .float b => b.equalsInt a
  | .float a, .int b => a.equalsInt b
  | .str a, .str b => a == b
  | .sym a, .sym b => a == b
  | .seq a, .seq b => Value.sameItems a b
  | .map a, .map b => a.length == b.length && Value.sameFields a b
  | _, _ => false

def Value.sameItems : List Value → List Value → Bool
  | [], [] => true
  | v :: vs, w :: ws => v.same w && Value.sameItems vs ws
  | _, _ => false

/-- Every entry of the first list has an equal value under its key in the second one. -/
def Value.sameFields : List (Key × Value) → List (Key × Value) → Bool
  | [], _ => true
  | (k, v) :: rest, fields =>
    (match Entries.get? k fields with
      | some w => v.same w
      | none => false) && Value.sameFields rest fields

end

instance : BEq Value := ⟨Value.same⟩

theorem Value.same_int (i j : Int64) : (Value.int i).same (.int j) = (i == j) := rfl

theorem Value.same_float (x y : Double) : (Value.float x).same (.float y) = x.same y := rfl

theorem Value.same_int_float (i : Int64) (x : Double) : (Value.int i).same (.float x) = x.equalsInt i := rfl

theorem Value.same_float_int (x : Double) (i : Int64) : (Value.float x).same (.int i) = x.equalsInt i := rfl

theorem Value.same_seq (vs ws : List Value) : (Value.seq vs).same (.seq ws) = Value.sameItems vs ws := rfl

theorem Value.same_map (a b : List (Key × Value)) :
    (Value.map a).same (.map b) = (a.length == b.length && Value.sameFields a b) := rfl

theorem Value.sameItems_cons (v w : Value) (vs ws : List Value) :
    Value.sameItems (v :: vs) (w :: ws) = (v.same w && Value.sameItems vs ws) := rfl

theorem Value.sameFields_cons (k : Key) (v : Value) (rest fields : List (Key × Value)) :
    Value.sameFields ((k, v) :: rest) fields =
      ((match Entries.get? k fields with
        | some w => v.same w
        | none => false) && Value.sameFields rest fields) := rfl

/-! ## Text -/

/-- Parts with a comma and a blank between them. -/
def commaSeparated : List (List Char) → List Char
  | [] => []
  | [part] => part
  | part :: rest => part ++ ',' :: ' ' :: commaSeparated rest

def bracketed (parts : List (List Char)) : List Char := '[' :: commaSeparated parts ++ [']']

def braced (parts : List (List Char)) : List Char := '\x7b' :: commaSeparated parts ++ ['\x7d']

/-- A key, an arrow and what stands under the key. -/
def arrow (k : Key) (cs : List Char) : List Char := k.chars ++ " => ".toList ++ cs

mutual

def Value.chars : Value → List Char
  | .null => "null".toList
  | .bool b => (toString b).toList
  | .int i => (toString i.toInt).toList
  | .float x => Layout.value.chars x
  | .str s => Text.quoted s
  | .sym s => symbolChars s
  | .seq items => bracketed (Value.itemChars items)
  | .map fields => braced (Value.fieldChars fields)

def Value.itemChars : List Value → List (List Char)
  | [] => []
  | v :: rest => v.chars :: Value.itemChars rest

def Value.fieldChars : List (Key × Value) → List (List Char)
  | [] => []
  | (k, v) :: rest => arrow k v.chars :: Value.fieldChars rest

end

def Value.render (v : Value) : String := String.ofList v.chars

theorem Value.itemChars_eq_map (vs : List Value) : Value.itemChars vs = vs.map Value.chars := by
  induction vs with
  | nil => rfl
  | cons v rest ih => simp [Value.itemChars, ih]

theorem Value.fieldChars_eq_map (fs : List (Key × Value)) :
    Value.fieldChars fs = fs.map fun f => arrow f.1 f.2.chars := by
  induction fs with
  | nil => rfl
  | cons f rest ih => simp [Value.fieldChars, ih]

end SchemaCheck
