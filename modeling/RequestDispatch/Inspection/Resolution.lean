import RequestDispatch.Json.Written
import RequestDispatch.Registry.Basic

/-! Resolutions.

A resolution says what serves a request URI at the top of an application, and what the
handler is told, without serving it. -/
namespace RequestDispatch

/-- What serves a URI. -/
structure Resolution.Served where
  handler : String
  pattern : String
  target : Target
  deriving DecidableEq, Repr

structure Resolution where
  input : String
  served : Option Resolution.Served
  deriving DecidableEq, Repr

/-- The resolution of a URI, parameters and query cut off, under a context path. -/
def Registry.resolve {η : Type} (r : Registry η) (context uri : String) : Resolution :=
  ⟨uri, do
    let path ← Path.relative? (Path.bare uri) context
    let d ← r.firstMatch? path
    return ⟨d.name, d.pattern.text, d.target path context⟩⟩

namespace Resolution

def handler? (r : Resolution) : Option String := r.served.map (·.handler)

def pattern? (r : Resolution) : Option String := r.served.map (·.pattern)

def target? (r : Resolution) : Option Target := r.served.map (·.target)

/-- The resolution in one line. -/
def line (r : Resolution) : String :=
  r.input ++ " -> " ++
    match r.served with
    | some s =>
      s.handler ++ " (" ++ s.pattern ++ ") request_uri=" ++ s.target.requestUri ++
        " servlet_path=" ++ s.target.servletPath ++ " path_info=" ++ s.target.pathInfo.getD "-"
    | none => "no match"

/-- The resolution as a JSON object. -/
def json (r : Resolution) : String :=
  Json.writeObject [
    ("input", Json.writeString r.input),
    ("handler", Json.writeText? r.handler?),
    ("pattern", Json.writeText? r.pattern?),
    ("request_uri", Json.writeText? (r.target?.map (·.requestUri))),
    ("servlet_path", Json.writeText? (r.target?.map (·.servletPath))),
    ("path_info", Json.writeText? (r.target?.bind (·.pathInfo)))]

end Resolution
end RequestDispatch
