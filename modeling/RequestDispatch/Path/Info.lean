import RequestDispatch.Text.Cut
import RequestDispatch.Text.Escape

/-! Path info.

What a path holds beyond the part that a mapping matched is the target's path info.
Runs of slashes count as one (`collapse`) and percent escapes are undone. -/
namespace RequestDispatch.Path

/-- Every run of slashes made one slash. -/
def collapse : List Char → List Char
  | '/' :: '/' :: rest => collapse ('/' :: rest)
  | c :: rest => c :: collapse rest
  | [] => []

/-- What `path` holds beyond the matched part. A path that does not begin with the
matched part, or holds nothing more than a matched part that is not empty, has none. -/
def info? (path matched : String) : Option String :=
  match Text.dropLead? matched.toList (collapse path.toList) with
  | none => none
  | some rest =>
    if rest = [] ∧ matched ≠ "" then none else some (String.ofList (Text.Escape.decode rest))

end RequestDispatch.Path
