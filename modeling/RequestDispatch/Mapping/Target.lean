import RequestDispatch.Mapping.Pattern
import RequestDispatch.Path.Info
import RequestDispatch.Path.Parameter

/-! Targets.

What a handler is told about the path it was reached by: the URI beneath the context
path, the part that its mapping matched, and what the path holds beyond it. -/
namespace RequestDispatch

structure Target where
  requestUri : String
  servletPath : String
  pathInfo : Option String
  deriving DecidableEq, Repr, Inhabited

/-- What a handler mapped by the pattern is told when it is reached by a path beneath the
context path. The query and the parameters of the path do not count. -/
def Pattern.target (pattern : Pattern) (path context : String) : Target :=
  let path := Path.bare path
  let matched := (pattern.matchedPart? path).getD path
  ⟨context ++ path, matched, Path.info? path matched⟩

end RequestDispatch
