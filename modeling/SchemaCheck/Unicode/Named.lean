import SchemaCheck.Text.CharSet
/-!
# Named — sets of characters and the names they go by

The tables beside this module list sets of characters under all their names.  Names are compared in one form
(`plainName`): blanks, dashes and underscores left out, letters small, a leading `is` dropped.
-/
namespace SchemaCheck.Unicode

/-- A set of characters in the written form of `CharSet.ofText`, and its names. -/
structure Named where
  names : List String
  ranges : String

def Named.set (n : Named) : CharSet := CharSet.ofText n.ranges

/-- The characters that a table lists under a name. -/
def find? (table : List Named) (name : String) : Option CharSet :=
  (table.find? fun n => n.names.contains name).map Named.set

/-- The form in which names are compared.  What would be left of `isc` alone stays whole. -/
def plainName (cs : List Char) : String :=
  let plain (cs : List Char) : List Char :=
    (cs.filter fun c => c != ' ' && c != '_' && c != '-' && c.toNat < 128).map Char.toLower
  match cs with
  | i :: s :: rest =>
    if i.toLower = 'i' ∧ s.toLower = 's' then
      if plain rest = ['c'] then "isc" else String.ofList (plain rest)
    else String.ofList (plain cs)
  | _ => String.ofList (plain cs)

end SchemaCheck.Unicode
