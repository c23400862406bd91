import SchemaCheck.Interval
import SchemaCheck.Pattern
/-!
# Schema — descriptions of values

A schema is a value that stands for itself, a test, or a shape: a sequence of one schema means "every element is
like this", a longer one "like any of these", and a map describes the entries of maps, of which those marked
optional may be absent.  `Schema.same` compares schemas as values are compared, `Schema.render` is their text in
messages.
-/
namespace SchemaCheck

inductive Schema where
  | value (v : Value)
  | kind (k : Kind)
  | pattern (p : Pattern)
  | range (r : Interval)
  | seq (items : List Schema)
  | map (entries : List (Key × Schema))
  | optional (inner : Schema)

instance : Inhabited Schema := ⟨.value .null⟩

/-! ## Equality -/

mutual

def Schema.same : Schema → Schema → Bool
  | .value v, .value w => v.same w
  | .kind a, .kind b => a == b
  | .pattern p, .pattern q => p.source == q.source
  | .range r, .range s => r.same s
  | .seq a, .seq b => Schema.sameItems a b
  | .map a, .map b => a.length == b.length && Schema.sameEntries a b
  | .optional a, .optional b => a.same b
  | _, _ => false

def Schema.sameItems : List Schema → List Schema → Bool
  | [], [] => true
  | s :: ss, t :: ts => s.same t && Schema.sameItems ss ts
  | _, _ => false

/-- Every entry of the first list has an equal schema under its key in the second one. -/
def Schema.sameEntries : List (Key × Schema) → List (Key × Schema) → Bool
  | [], _ => true
  | (k, s) :: rest, entries =>
    (match Entries.get? k entries with
      | some t => s.same t
      | none => false) && Schema.sameEntries rest entries

end

/-! ## Text -/

/-- The text of something that may be absent. -/
def optionalChars (inner : List Char) : List Char := "optional(".toList ++ inner ++ [')']

mutual

def Schema.chars : Schema → List Char
  | .value v => v.chars
  | .kind k => k.name.toList
  | .pattern p => p.chars
  | .range r => r.chars
  | .seq items => bracketed (Schema.itemChars items)
  | .map entries => braced (Schema.entryChars entries)
  | .optional inner => optionalChars inner.chars

def Schema.itemChars : List Schema → List (List Char)
  | [] => []
  | s :: rest => s.chars :: Schema.itemChars rest

def Schema.entryChars : List (Key × Schema) → List (List Char)
  | [] => []
  | (k, s) :: rest => arrow k s.chars :: Schema.entryChars rest

end

def Schema.render (s : Schema) : String := String.ofList s.chars

theorem Schema.itemChars_eq_map (items : List Schema) : Schema.itemChars items = items.map Schema.chars := by
  induction items with
  | nil => rfl
  | cons s rest ih => rw [Schema.itemChars, ih, List.map_cons]

theorem Schema.entryChars_eq_map (entries : List (Key × Schema)) :
    Schema.entryChars entries = entries.map fun e => arrow e.1 e.2.chars := by
  induction entries with
  | nil => rfl
  | cons e rest ih => rw [Schema.entryChars, ih, List.map_cons]

end SchemaCheck
