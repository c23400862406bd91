/-!
# Slashes — texts cut at slashes

`slashParts` gives the parts of a text between its slashes; there is always at least one.  A text without slashes
is one part (`slashParts_of_not_mem`), and what stands before a slash without containing one is a part of its own
(`slashParts_append_slash`).
-/
namespace SchemaCheck.Text

def slashParts : List Char → List (List Char)
  | [] => [[]]
  | c :: rest =>
    if c = '/' then [] :: slashParts rest
    else
      match slashParts rest with
      | [] => [[c]]
      | p :: ps => (c :: p) :: ps

theorem slashParts_of_not_mem {cs : List Char} (h : '/' ∉ cs) : slashParts cs = [cs] := by
  induction cs with
  | nil => rfl
  | cons c rest ih =>
    have hc : c ≠ '/' := fun e => h (by simp [e])
    have hr : '/' ∉ rest := fun m => h (List.mem_cons_of_mem c m)
    simp [slashParts, hc, ih hr]

theorem slashParts_append_slash {cs : List Char} (rest : List Char) (h : '/' ∉ cs) :
    slashParts (cs ++ '/' :: rest) = cs :: slashParts rest := by
  induction cs with
  | nil => simp [slashParts]
  | cons c more ih =>
    have hc : c ≠ '/' := fun e => h (by simp [e])
    have hm : '/' ∉ more := fun m => h (List.mem_cons_of_mem c m)
    simp [slashParts, hc, ih hm]

end SchemaCheck.Text
