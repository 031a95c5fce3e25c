import RequestDispatch.MappingFile.Form
import RequestDispatch.Yaml.Node

/-! Mapping files in YAML.

Whatever is written where a text is wanted is taken as text. What is not written at all
is an empty text, list, dictionary or record. A text without a document is an empty
file. -/
namespace RequestDispatch.MappingFile

def yamlForm (anchors : List (Nat × Yaml.Node)) : Form Yaml.Node where
  text? n := n.text? anchors
  items? n := n.items? anchors
  entries? n := n.pairs? anchors
  record? names n := (n.pairs? anchors).bind (knownFields? names)
  choice? n := n.choice? anchors

def ofYaml? (text : String) : Option MappingFile :=
  match Yaml.document? text with
  | .ok (some n) => (yamlForm n.anchors).file? n
  | .ok none => some .empty
  | .error _ => none

end RequestDispatch.MappingFile
