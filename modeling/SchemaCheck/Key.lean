import SchemaCheck.Text.Quoted
/-!
# Key — the keys of maps

A key is a string, a symbol or an integer.  A string and a symbol of one text are different keys, unless a policy
says otherwise: `KeyPolicy.normalize` gives the form in which a policy compares keys.  `Entries` are the key-value
pairs of a map in the order of insertion; `insert` keeps the place of a key that is already there.
-/
namespace SchemaCheck

inductive Key where
  | str (text : String)
  | sym (name : String)
  | int (value : Int64)
  deriving DecidableEq, Inhabited

namespace Key

/-- The bare text, as locations show it. -/
def text : Key → String
  | .str s => s
  | .sym s => s
  | .int i => toString i.toInt

/-- A symbol becomes the string of its text. -/
def indifferent : Key → Key
  | .sym s => .str s
  | k => k

/-- Strings come first, then symbols, then integers; texts are ordered by code points. -/
def le : Key → Key → Bool
  | .str a, .str b => decide (a ≤ b)
  | .str _, _ => true
  | .sym _, .str _ => false
  | .sym a, .sym b => decide (a ≤ b)
  | .sym _, .int _ => true
  | .int a, .int b => decide (a ≤ b)
  | .int _, _ => false

end Key

/-! ## Written form -/

/-- A letter or an underscore. -/
def isNameStart (c : Char) : Bool := c.isAlpha || c == '_'

def isNameRest (c : Char) : Bool := isNameStart c || c.isDigit

/-- A name that a symbol shows without quotes: letters, digits and underscores, not starting with a digit, perhaps
one question or exclamation mark at the end. -/
def isBareName : List Char → Bool
  | [] => false
  | c :: rest =>
    isNameStart c && (match rest.dropWhile isNameRest with
      | [] => true
      | [d] => d == '?' || d == '!'
      | _ => false)

/-- A symbol is its name after a colon, quoted when it is not bare. -/
def symbolChars (name : String) : List Char :=
  ':' :: (if isBareName name.toList then name.toList else Text.quoted name)

def Key.chars : Key → List Char
  | .str s => Text.quoted s
  | .sym s => symbolChars s
  | .int i => (toString i.toInt).toList

def Key.render (k : Key) : String := String.ofList k.chars

/-! ## Policies -/

/-- Whether a string and a symbol of one text are the same key. -/
inductive KeyPolicy where
  | strict
  | indifferent
  deriving DecidableEq, Inhabited

namespace KeyPolicy

/-- The form in which keys are compared. -/
def normalize : KeyPolicy → Key → Key
  | .strict, k => k
  | .indifferent, k => k.indifferent

def name : KeyPolicy → String
  | .strict => "Strict"
  | .indifferent => "Indifferent"

end KeyPolicy

/-! ## Entries -/

/-- Key-value pairs in the order of insertion. -/
abbrev Entries (α : Type) := List (Key × α)

namespace Entries

variable {α : Type}

def keys (es : Entries α) : List Key := es.map Prod.fst

def get? (k : Key) : Entries α → Option α
  | [] => none
  | (k', a) :: rest => if k' = k then some a else get? k rest

/-- A new key comes last; a key that is already there keeps its place and takes the new value. -/
def insert (k : Key) (a : α) : Entries α → Entries α
  | [] => [(k, a)]
  | (k', b) :: rest => if k' = k then (k, a) :: rest else (k', b) :: insert k a rest

/-- Inserts pairs one after the other. -/
def ofPairs (ps : List (Key × α)) : Entries α := ps.foldl (fun es p => insert p.1 p.2 es) []

theorem get?_insert (k k' : Key) (a : α) (es : Entries α) :
    get? k' (insert k a es) = if k = k' then some a else get? k' es := by
  induction es with
  | nil => simp [insert, get?]
  | cons e rest ih =>
    obtain ⟨k₁, b⟩ := e
    by_cases h : k₁ = k
    · subst h; by_cases h' : k₁ = k' <;> simp [insert, get?, h']
    · by_cases h' : k₁ = k'
      · subst h'; simp [insert, get?, h, Ne.symm h]
      · simp [insert, get?, h, h', ih]

theorem keys_insert (k : Key) (a : α) (es : Entries α) :
    keys (insert k a es) = if k ∈ keys es then keys es else keys es ++ [k] := by
  induction es with
  | nil => simp [insert, keys]
  | cons e rest ih =>
    obtain ⟨k₁, b⟩ := e
    by_cases h : k₁ = k
    · subst h; simp [insert, keys]
    · simp only [keys] at ih
      by_cases hm : k ∈ List.map Prod.fst rest <;> simp [insert, keys, h, Ne.symm h, ih, hm]

/-- Inserting gives no key twice. -/
theorem nodup_keys_insert (k : Key) (a : α) {es : Entries α} (h : (keys es).Nodup) :
    (keys (insert k a es)).Nodup := by
  rw [keys_insert]
  split
  · exact h
  · rename_i hk
    rw [List.nodup_append]
    refine ⟨h, by simp, fun a ha b hb => ?_⟩
    rw [List.mem_singleton] at hb
    exact fun hab => hk (hb ▸ hab ▸ ha)

/-- Without a key twice, an entry is what its key finds. -/
theorem get?_of_mem {k : Key} {a : α} : ∀ {es : Entries α}, (keys es).Nodup → (k, a) ∈ es → get? k es = some a
  | [], _, h => nomatch h
  | (k', b) :: rest, hd, h => by
    have hcons : k' ∉ keys rest ∧ (keys rest).Nodup := List.nodup_cons.1 hd
    rcases List.mem_cons.1 h with heq | hmem
    · obtain ⟨rfl, rfl⟩ := Prod.mk.inj heq
      rw [get?, if_pos rfl]
    · have hne : k' ≠ k := fun e => hcons.1 (e ▸ List.mem_map_of_mem hmem)
      rw [get?, if_neg hne, get?_of_mem hcons.2 hmem]

/-- Pairs inserted one after the other give no key twice. -/
theorem nodup_keys_ofPairs (ps : List (Key × α)) : (keys (ofPairs ps)).Nodup := by
  have hfold : ∀ (ps : List (Key × α)) {es : Entries α}, (keys es).Nodup →
      (keys (ps.foldl (fun es p => insert p.1 p.2 es) es)).Nodup := by
    intro ps
    induction ps with
    | nil => exact fun h => h
    | cons p rest ih => exact fun h => ih (nodup_keys_insert p.1 p.2 h)
  exact hfold ps List.nodup_nil

end Entries
end SchemaCheck
