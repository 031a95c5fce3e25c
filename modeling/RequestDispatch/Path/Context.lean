import RequestDispatch.Text.Blank
import RequestDispatch.Text.Cut

/-! Context paths.

An application is mounted under a context path: empty, or a path such as `/app`
without a slash at its end. `normalize` brings a configured text into that form.
`relative?` gives the part of a request URI beneath the context path, and nothing for
a URI outside it; a URI that only shares the first characters of a segment lies
outside. -/
namespace RequestDispatch.Path

/-- The mounting point a configured text stands for: blanks around it are taken off,
then the slashes at its end, and a slash at its beginning is supplied. -/
def normalize (raw : String) : String :=
  match ((Text.trim raw.toList).reverse.dropWhile (· == '/')).reverse with
  | [] => ""
  | '/' :: rest => String.ofList ('/' :: rest)
  | path => String.ofList ('/' :: path)

/-- The part of a request URI beneath the context path. The context path itself is its
root, `/`. -/
def relative? (uri context : String) : Option String :=
  if uri = "" then none
  else match Text.after? context uri with
    | none => none
    | some rest =>
      if rest = "" then some "/"
      else if context = "" ∨ Text.beginsWith '/' rest then some rest
      else none

end RequestDispatch.Path
