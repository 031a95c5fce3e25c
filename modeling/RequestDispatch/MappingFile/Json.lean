import RequestDispatch.Json.Reader
import RequestDispatch.MappingFile.Form

/-! Mapping files in JSON.

A record is an object, or an array of its fields in order, of which the last ones may be
missing. A choice is its name, or an object with nothing under its name. -/
namespace RequestDispatch

namespace Json

def text? : Json → Option String
  | string text => text
  | null | bool _ | number | array _ | object _ => none

def elements? : Json → Option (List Json)
  | array items => some items
  | null | bool _ | number | string _ | object _ => none

def entries? : Json → Option (List (String × Json))
  | object fields => fields.mapM fun (name, v) => name.map (·, v)
  | null | bool _ | number | string _ | array _ => none

def record? (names : List String) : Json → Option (List (String × Json))
  | array items => if items.length ≤ names.length then some (names.zip items) else none
  | v => v.entries?.bind (MappingFile.knownFields? names)

def choice? : Json → Option String
  | string text => text
  | object [(name, null)] => name
  | _ => none

end Json

namespace MappingFile

def jsonForm : Form Json := ⟨Json.text?, Json.elements?, Json.entries?, Json.record?, Json.choice?⟩

def ofJson? (text : String) : Option MappingFile := (Json.ofText? text).bind jsonForm.file?

end MappingFile
end RequestDispatch
