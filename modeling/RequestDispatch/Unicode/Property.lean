import RequestDispatch.Unicode.Age
import RequestDispatch.Unicode.Binary
import RequestDispatch.Unicode.Category
import RequestDispatch.Unicode.Extension
import RequestDispatch.Unicode.Script
import RequestDispatch.Unicode.Segment
import RequestDispatch.Unicode.Table

/-! Character properties by name.

Names are read loosely (`loose`): case, blanks, hyphens, underscores and an initial
`is` do not count. A name alone is a property that holds or does not hold, else a
general category, else a script; a property with a value is looked up in the table of
that property. -/
namespace RequestDispatch.Unicode

/-- What a pattern may ask for. -/
inductive Query where
  | named (name : String)
  | valued (property value : String)
  deriving DecidableEq, Repr

inductive QueryError where
  | unknownProperty
  | unknownValue
  deriving DecidableEq, Repr

/-- A name as it is compared. An initial `is` is dropped, except from `isc`, which is a
name of its own. -/
def loose (name : String) : String :=
  let lower := fun (c : Char) => if 65 ≤ c.toNat ∧ c.toNat ≤ 90 then Char.ofNat (c.toNat + 32) else c
  let kept := fun (c : Char) => c.toNat < 128 && c != ' ' && c != '_' && c != '-'
  let clean := fun (s : List Char) => (s.filter kept).map lower
  match name.toList with
  | a :: b :: rest =>
    if (a = 'i' ∨ a = 'I') ∧ (b = 's' ∨ b = 'S') then
      let tail := clean rest
      if tail = ['c'] then "isc" else String.ofList tail
    else String.ofList (clean (a :: b :: rest))
  | s => String.ofList (clean s)

/-! ### General categories -/

/-- Groups of categories, with the letters their short names begin with. -/
def categoryGroups : List (List String × List String) := [
  (["c", "other"], ["cc", "cf", "cn", "co"]),
  (["l", "letter"], ["ll", "lm", "lo", "lt", "lu"]),
  (["lc", "casedletter"], ["ll", "lt", "lu"]),
  (["m", "mark", "combiningmark"], ["mc", "me", "mn"]),
  (["n", "number"], ["nd", "nl", "no"]),
  (["p", "punctuation", "punct"], ["pc", "pd", "pe", "pf", "pi", "po", "ps"]),
  (["s", "symbol"], ["sc", "sk", "sm", "so"]),
  (["z", "separator"], ["zl", "zp", "zs"])]

def category? (name : String) : Option CharSet :=
  if name = "any" then some .all
  else if name = "ascii" then some (.range 0 127)
  else if name = "assigned" then (Table.find? categories "cn").map (·.compl)
  else match categoryGroups.find? fun group => group.1.contains name with
    | some group => some (.unions (group.2.filterMap (Table.find? categories)))
    | none => Table.find? categories name

/-! ### Scripts and ages -/

/-- The canonical entry of a script, under any of its names. -/
def script? (name : String) : Option CharSet := Table.find? scripts name

def scriptExtension? (name : String) : Option CharSet :=
  match scripts.find? fun entry => entry.1.contains name with
  | none => Table.find? scriptExtensions name
  | some entry =>
    match scriptExtensions.find? fun e => e.1.any entry.1.contains with
    | some e => some (Table.readSet e.2)
    | none => some (Table.readSet entry.2)

/-- The characters assigned in a version or before it. -/
def age? (name : String) : Option CharSet :=
  let after := ages.dropWhile fun entry => !entry.1.contains name
  match after with
  | [] => none
  | last :: _ =>
    let upTo := (ages.takeWhile fun entry => !entry.1.contains name) ++ [last]
    some (.unions (upTo.map fun entry => Table.readSet entry.2))

/-! ### Queries -/

/-- The set a name alone stands for. Three short names are categories although they also
abbreviate properties, and those are looked up as categories only. -/
def named? (name : String) : Except QueryError CharSet :=
  let categoryOrScript := (category? name).orElse fun _ => script? name
  let found :=
    if name = "cf" ∨ name = "sc" ∨ name = "lc" then categoryOrScript
    else (Table.find? binaryProperties name).orElse fun _ => categoryOrScript
  match found with
  | some s => .ok s
  | none => .error .unknownProperty

def valued? (property value : String) : Except QueryError CharSet :=
  let lookUp : Option (String → Option CharSet) := match property with
    | "gc" | "generalcategory" => some category?
    | "sc" | "script" => some script?
    | "scx" | "scriptextensions" => some scriptExtension?
    | "age" => some age?
    | "gcb" | "graphemeclusterbreak" => some (Table.find? graphemeBreaks)
    | "wb" | "wordbreak" => some (Table.find? wordBreaks)
    | "sb" | "sentencebreak" => some (Table.find? sentenceBreaks)
    | _ => none
  match lookUp with
  | none => .error .unknownProperty
  | some find => match find value with
    | some s => .ok s
    | none => .error .unknownValue

def Query.answer : Query → Except QueryError CharSet
  | .named name => named? (loose name)
  | .valued property value => valued? (loose property) (loose value)

end RequestDispatch.Unicode
