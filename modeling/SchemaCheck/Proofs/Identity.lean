import SchemaCheck.Value
/-!
# Identity — values told apart as data

`Value.same` takes an integer and a float for equal when they are one number, and maps in whatever order.  Here values
are the same only when they are written alike (`Value.identical_iff`), which makes equations between values decidable.
-/
namespace SchemaCheck

mutual

/-- The same value, constructor by constructor. -/
def Value.identical : Value → Value → Bool
  | .null, .null => true
  | .bool a, .bool b => a == b
  | .int a, .int b => a == b
  | .float x, .float y => decide (x = y)
  | .str a, .str b => a == b
  | .sym a, .sym b => a == b
  | .seq a, .seq b => Value.identicalItems a b
  | .map a, .map b => Value.identicalFields a b
  | _, _ => false

def Value.identicalItems : List Value → List Value → Bool
  | [], [] => true
  | v :: vs, w :: ws => v.identical w && Value.identicalItems vs ws
  | _, _ => false

def Value.identicalFields : List (Key × Value) → List (Key × Value) → Bool
  | [], [] => true
  | (k, v) :: vs, (l, w) :: ws => decide (k = l) && v.identical w && Value.identicalFields vs ws
  | _, _ => false

end

mutual

theorem Value.identical_iff : ∀ v w : Value, v.identical w = true ↔ v = w
  | .null, w => by cases w <;> simp [Value.identical]
  | .bool a, w => by cases w <;> simp [Value.identical]
  | .int a, w => by cases w <;> simp [Value.identical]
  | .float x, w => by cases w <;> simp [Value.identical]
  | .str a, w => by cases w <;> simp [Value.identical]
  | .sym a, w => by cases w <;> simp [Value.identical]
  | .seq a, w => by cases w <;> simp [Value.identical, Value.identicalItems_iff a]
  | .map a, w => by cases w <;> simp [Value.identical, Value.identicalFields_iff a]

theorem Value.identicalItems_iff : ∀ vs ws : List Value, Value.identicalItems vs ws = true ↔ vs = ws
  | [], ws => by cases ws <;> simp [Value.identicalItems]
  | v :: vs, ws => by
    cases ws <;> simp [Value.identicalItems, Value.identical_iff v, Value.identicalItems_iff vs]

theorem Value.identicalFields_iff : ∀ fs gs : List (Key × Value), Value.identicalFields fs gs = true ↔ fs = gs
  | [], gs => by cases gs <;> simp [Value.identicalFields]
  | (k, v) :: fs, gs => by
    cases gs <;>
      simp [Value.identicalFields, Value.identical_iff v, Value.identicalFields_iff fs, Prod.ext_iff]

end

instance : DecidableEq Value := fun v w => decidable_of_iff (v.identical w = true) (Value.identical_iff v w)

end SchemaCheck
