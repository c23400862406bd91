import SchemaCheck.Decode.SchemaText
import SchemaCheck.Node
/-!
# OptionsText — options from JSON texts

Options are an object, in which unknown names are passed over, or a list of at most one element.
-/
namespace SchemaCheck

namespace Decode

open Json (Name Tree Ending)

/-- The name of the one option. -/
def optionName : String := "indifferent_access"

/-- The option may be given once. -/
def checkOption (seen : Option Bool) (n : Name) (name : String) : Result Unit :=
  if name = optionName ∧ seen.isSome then fail (.repeatedField name) n.settled else .ok ()

/-- The option, after the first members. -/
def optionOfMembers (seen : Option Bool) (ending : Ending) : List (Name × Tree) → Result (Option Bool)
  | [] => closeObject seen (checkOption seen) ending
  | (n, t) :: rest =>
    match n.text with
    | .error p => failUnnamed p
    | .ok name =>
      match checkOption seen n name with
      | .error f => .error f
      | .ok _ =>
        if name = optionName then
          match under (.key name) (boolOfJson t) with
          | .error f => .error f
          | .ok b => optionOfMembers (some b) ending rest
        else
          match t.skipFlaw? with
          | some p => under (.key name) (fail (.flawSkipped p.flaw) p.position)
          | none => optionOfMembers seen ending rest

def optionsOfJson : Tree → Result Options
  | .leaf t => wrongType .options (.leaf t)
  | .object _ members ending => (optionOfMembers none ending members).map fun b => ⟨b.getD false⟩
  | .list _ items ending =>
    match items with
    | [] => closeList Options.default ending
    | t :: rest =>
      match under (.index 0) (boolOfJson t) with
      | .error f => .error f
      | .ok b => closeFullList ⟨b⟩ rest ending

end Decode

def Options.ofJsonText (text : String) : Decode.Result Options := Decode.optionsOfJson (Json.Tree.ofText text)

end SchemaCheck
