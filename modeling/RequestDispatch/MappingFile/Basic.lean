import RequestDispatch.Handler.Basic
import RequestDispatch.Mapping.Pattern

/-! Mapping files.

A mapping file says under which context path an application is mounted, what its
parameters are, and which handler serves which paths. The order of its mappings is the
order in which they are tried. Handlers are named; what stands behind a name is for the
application to say. -/
namespace RequestDispatch

/-- One mapping, as a file has it. -/
structure MappingEntry where
  pattern : String
  style : PatternStyle
  handler : String
  initParams : Params
  deriving DecidableEq, Inhabited

structure MappingFile where
  contextPath : String
  initParams : Params
  mappings : List MappingEntry
  deriving DecidableEq, Inhabited

namespace MappingFile

/-- A file that says nothing. -/
def empty : MappingFile := ⟨"", .empty, []⟩

/-- The file with another context path, if one is prescribed. -/
def mountedAt (f : MappingFile) (contextPath : Option String) : MappingFile :=
  { f with contextPath := contextPath.getD f.contextPath }

def appContext (f : MappingFile) : AppContext := ⟨f.contextPath, f.initParams⟩

end MappingFile
end RequestDispatch
