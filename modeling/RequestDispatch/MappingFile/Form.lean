import RequestDispatch.MappingFile.Basic

/-! Forms of mapping files.

A mapping file may be written in more than one notation. What they have in common is
stated here: given how a notation writes texts, lists, dictionaries, records and choices,
`Form.file?` reads a mapping file from a tree of that notation. Fields with unknown names
do not matter; a field that may be left out stands for what an empty file says. -/
namespace RequestDispatch.MappingFile

/-- How a notation with trees of type `ν` writes what a mapping file is made of. -/
structure Form (ν : Type) where
  text? : ν → Option String
  items? : ν → Option (List ν)
  /-- The entries of a dictionary, as they are written. -/
  entries? : ν → Option (List (String × ν))
  /-- Those fields of a record that are among the given ones, each once. -/
  record? : (names : List String) → ν → Option (List (String × ν))
  /-- The name of one of several choices. -/
  choice? : ν → Option String

namespace Form
variable {ν α : Type} (form : Form ν)

/-- The value of a field, or a value in its place if the field is left out. -/
def field? (fields : List (String × ν)) (name : String) (read : ν → Option α)
    (leftOut : Option α) : Option α :=
  match fields.lookup name with
  | some v => read v
  | none => leftOut

/-- Of two parameters with one name the later counts. -/
def params? (v : ν) : Option Params := do
  let entries ← form.entries? v
  let params ← entries.mapM fun (name, v) => (form.text? v).map (name, ·)
  return .ofList params

def style? (v : ν) : Option PatternStyle := (form.choice? v).bind PatternStyle.ofName?

def entry? (v : ν) : Option MappingEntry := do
  let fields ← form.record? ["pattern", "style", "handler", "init_params"] v
  let pattern ← field? fields "pattern" form.text? none
  let style ← field? fields "style" form.style? (some .servlet)
  let handler ← field? fields "handler" form.text? none
  let initParams ← field? fields "init_params" form.params? (some .empty)
  return { pattern, style, handler, initParams }

def mappings? (v : ν) : Option (List MappingEntry) := do
  let items ← form.items? v
  items.mapM form.entry?

def file? (v : ν) : Option MappingFile := do
  let fields ← form.record? ["context_path", "init_params", "mappings"] v
  let contextPath ← field? fields "context_path" form.text? (some "")
  let initParams ← field? fields "init_params" form.params? (some .empty)
  let mappings ← field? fields "mappings" form.mappings? (some [])
  return { contextPath, initParams, mappings }

end Form

/-- Those of the fields that have one of the given names, unless one is there twice. -/
def knownFields? {ν : Type} (names : List String) (fields : List (String × ν)) :
    Option (List (String × ν)) :=
  let known := fields.filter (names.contains ·.1)
  if (known.map (·.1)).Nodup then some known else none

end RequestDispatch.MappingFile
