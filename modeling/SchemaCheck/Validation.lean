import SchemaCheck.Compare
/-!
# Validation — the outcome of checking one value

A validation keeps all mismatches of one value with one node; the message is that of the first.
-/
namespace SchemaCheck

structure Validation where
  mismatches : List Mismatch
  deriving Inhabited

namespace Validation

/-- Checks a value against a compiled schema. -/
def of (n : Node) (v : Value) : Validation := ⟨compare n v⟩

def isValid (r : Validation) : Bool := r.mismatches.isEmpty

def first? (r : Validation) : Option Mismatch := r.mismatches.head?

def failureMessage? (r : Validation) : Option String := r.first?.map Mismatch.message

def same (r s : Validation) : Bool := sameMismatches r.mismatches s.mismatches

theorem failureMessage?_eq_none_iff (r : Validation) : r.failureMessage? = none ↔ r.isValid = true := by
  cases r with
  | mk ms => cases ms <;> simp [failureMessage?, first?, isValid]

end Validation
end SchemaCheck
