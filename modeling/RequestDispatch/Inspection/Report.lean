import RequestDispatch.Inspection.Command
import RequestDispatch.Inspection.Resolution
import RequestDispatch.MappingFile.Catalog
import RequestDispatch.MappingFile.Load

/-! Reports: what the commands write, line by line. -/
namespace RequestDispatch

/-- Why there is nothing to report. -/
inductive InspectionError where
  | load (e : LoadError)
  | mapping (e : MappingError)
  deriving DecidableEq, Repr

def InspectionError.message : InspectionError → String
  | load e => e.message
  | mapping _ => "Invalid handler mapping"

namespace Report

/-- A text made at least so long by blanks before it. -/
def alignRight (width : Nat) (s : String) : String := String.ofList (s.toList.leftpad width ' ')

/-- A text made at least so long by blanks behind it. -/
def alignLeft (width : Nat) (s : String) : String := String.ofList (s.toList.rightpad width ' ')

def routeLine (number : Nat) (pattern handler : String) : String :=
  alignRight 3 (toString number) ++ "  " ++ alignLeft 32 pattern ++ " " ++ handler

/-- The mappings in the order in which they are tried. -/
def routes {η : Type} (context : String) (registry : Registry η) : List String :=
  ("context path: '" ++ context ++ "'") ::
    registry.routes.zipIdx.map fun ((pattern, handler), n) => routeLine (n + 1) pattern handler

def resolutions {η : Type} (context : String) (registry : Registry η) (uris : List String)
    (json : Bool) : List String :=
  uris.map fun uri =>
    let r := registry.resolve context uri
    if json then r.json else r.line

end Report

/-- The lines a command writes, given the content of its mapping file, if that is there. -/
def Command.report (c : Command) (e : Environment) (content : Option (List UInt8)) :
    Except InspectionError (List String) := do
  let file ← (MappingFile.load? c.config content).mapError InspectionError.load
  let file := file.mountedAt e.contextPath?
  let registry ← (file.registry? file.placeholders).mapError InspectionError.mapping
  match c with
  | .routes _ => return Report.routes file.contextPath registry
  | .resolve _ uris json => return Report.resolutions file.contextPath registry uris json

end RequestDispatch
