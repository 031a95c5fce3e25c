import RequestDispatch.MappingFile.Json
import RequestDispatch.MappingFile.Yaml
import RequestDispatch.Text.Utf8

/-! Loading mapping files.

The name of a file says which notation it is in. A file that is not there, or whose
content is no text, cannot be read. -/
namespace RequestDispatch

inductive LoadError where
  | unreadable (file : String)
  | malformed (file : String)
  deriving DecidableEq, Repr

def LoadError.message : LoadError → String
  | unreadable file => "Failed to read mapping config: " ++ file
  | malformed file => "Failed to parse mapping config: " ++ file

namespace MappingFile

/-- Whether a file is in JSON: its name, behind all directories, ends in `.json` and is
more than that. -/
def isJson (file : String) : Bool :=
  (Text.before? ".json" (String.ofList (Text.behindLast '/' file.toList))).any (· ≠ "")

def ofText? (file text : String) : Option MappingFile :=
  if isJson file then ofJson? text else ofYaml? text

/-- The mapping file with the given name and content, if the content is there. -/
def load? (file : String) (content : Option (List UInt8)) : Except LoadError MappingFile :=
  match content.bind Text.Utf8.decode? with
  | none => .error (.unreadable file)
  | some text =>
    match ofText? file (String.ofList text) with
    | some f => .ok f
    | none => .error (.malformed file)

end MappingFile
end RequestDispatch
