/-! Arguments of a command line.

An argument that begins with one hyphen holds options of one letter, one that begins with
two holds an option by name, perhaps with a value behind an equals sign. Two hyphens
alone end the options. All else, a single hyphen too, is plain. -/
namespace RequestDispatch

inductive Argument where
  | endOfOptions
  | named (name : String) (value : Option String)
  | letters (cluster : List Char)
  | plain (text : String)
  deriving DecidableEq, Repr

/-- An option by name, with or without a value. -/
def Argument.ofName (s : List Char) : Argument :=
  let name := String.ofList (s.takeWhile (· ≠ '='))
  match s.dropWhile (· ≠ '=') with
  | [] => named name none
  | _ :: value => named name (some (String.ofList value))

def Argument.ofText (s : String) : Argument :=
  match s.toList with
  | ['-', '-'] => endOfOptions
  | '-' :: '-' :: rest => ofName rest
  | '-' :: c :: rest => letters (c :: rest)
  | _ => plain s

end RequestDispatch
