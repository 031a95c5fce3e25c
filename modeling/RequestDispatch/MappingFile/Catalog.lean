import RequestDispatch.Dispatch.Pipeline
import RequestDispatch.Mapping.Error
import RequestDispatch.MappingFile.Basic

/-! Catalogs.

A catalog gives the handlers of an application by the names that mapping files have for
them. With a catalog a mapping file becomes a registry or a pipeline, if each of its
mappings is in order; else the first one that is not decides the error. Mappings that
name the same handler share one instance. -/
namespace RequestDispatch

abbrev Catalog (η : Type) := Dictionary (Instance η)

/-- The mapping as it is written, with the handler it names. A pattern that cannot be read
is an error before a handler that nobody knows. -/
def MappingEntry.definition? {η : Type} (catalog : Catalog η) (e : MappingEntry) :
    Except MappingError (Definition η) :=
  match Pattern.ofText? e.pattern e.style, catalog.get? e.handler with
  | .error error, _ => .error error
  | .ok _, none => .error ⟨e.pattern, .unknownHandler e.handler⟩
  | .ok pattern, some handler => .ok (.ofHandler pattern e.handler handler e.initParams)

namespace MappingFile

def registry? {η : Type} (f : MappingFile) (catalog : Catalog η) :
    Except MappingError (Registry η) :=
  (f.mappings.mapM (MappingEntry.definition? catalog)).map Registry.mk

def pipeline? {ε : Type} (f : MappingFile) (catalog : Catalog (Handler ε)) :
    Except MappingError (Pipeline ε) :=
  (f.registry? catalog).map fun registry => ⟨registry, f.appContext⟩

/-- A catalog that knows every handler of the file, with nothing behind the names. It is
all that matching needs. -/
def placeholders (f : MappingFile) : Catalog Unit :=
  .ofList ((f.mappings.map (·.handler)).zipIdx.map fun (name, n) => (name, ⟨n, ()⟩))

end MappingFile
end RequestDispatch
