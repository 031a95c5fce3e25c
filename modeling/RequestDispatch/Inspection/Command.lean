import RequestDispatch.Environment
import RequestDispatch.Inspection.Argument

/-! Commands.

There are two commands: `routes` lists the mappings of a file, `resolve` resolves URIs
against them. Arguments are read from left to right, and the first one that is wrong
decides the error. A value given to `--config` is only looked at when the next argument
that takes effect comes, or the end, so an argument that is not known is noticed before a
value that is wrong. -/
namespace RequestDispatch

inductive Command where
  | routes (config : String)
  | resolve (config : String) (uris : List String) (json : Bool)
  deriving DecidableEq, Repr

def Command.config : Command → String
  | routes config | resolve config _ _ => config

/-- Why arguments are no command. -/
inductive UsageError where
  /-- Help was asked for. -/
  | help
  | commandMissing
  | commandUnknown
  | argumentMissing
  | argumentUnknown
  | valueInvalid
  /-- An option was given twice. -/
  | repeated
  /-- A value was given to an option that has none. -/
  | valueUnneeded
  deriving DecidableEq, Repr

namespace Command

/-- Whether a command is `resolve`, which takes URIs and `--json`, and not `routes`. -/
inductive Kind where
  | routes
  | resolve
  deriving DecidableEq, Repr

/-- What has been read of a command's arguments. -/
structure Reading where
  config : Option String
  uris : List String
  json : Bool
  /-- An option `--config` that has not been looked at, with its value if that was given. -/
  pending : Option (Option String)
  /-- Whether the options have ended. -/
  ended : Bool
  deriving DecidableEq, Repr

namespace Reading

def start : Reading := ⟨none, [], false, none, false⟩

/-- Looks at the pending option. -/
def settle (r : Reading) : Except UsageError Reading :=
  match r.pending with
  | none => .ok r
  | some none => .error .valueInvalid
  | some (some value) =>
    if r.config.isSome then .error .repeated
    else if value = "" then .error .valueInvalid
    else .ok { r with config := some value, pending := none }

/-- An option `--config` whose value, if it has none, is the next argument. -/
def option (r : Reading) : (value : Option String) → Except UsageError Reading
  | none => do
    let r ← r.settle
    return { r with pending := some none }
  | some value => do
    let r ← r.settle
    settle { r with pending := some (some value) }

def asHelp (r : Reading) : Except UsageError Reading := do
  let _ ← r.settle
  throw .help

def asJson (r : Reading) : Except UsageError Reading := do
  let r ← r.settle
  if r.json then throw .repeated
  return { r with json := true }

/-- Options of one letter. -/
def letters (r : Reading) : List Char → Except UsageError Reading
  | 'h' :: _ => r.asHelp
  | ['c'] => r.option none
  | 'c' :: '=' :: value | 'c' :: value => r.option (some (String.ofList value))
  | _ => .error .argumentUnknown

def named (r : Reading) (kind : Kind) (name : String) (value : Option String) :
    Except UsageError Reading :=
  if name = "config" then r.option value
  else if name = "help" then
    if value.isSome then .error .valueUnneeded else r.asHelp
  else if name = "json" ∧ kind = .resolve then
    if value.isSome then .error .valueUnneeded else r.asJson
  else .error .argumentUnknown

def uri (r : Reading) (kind : Kind) (text : String) : Except UsageError Reading :=
  match kind with
  | .routes => .error .argumentUnknown
  | .resolve => do
    let r ← r.settle
    return { r with uris := r.uris ++ [text] }

/-- One more argument. -/
def argument (r : Reading) (kind : Kind) (text : String) : Except UsageError Reading :=
  if r.ended then r.uri kind text
  else match Argument.ofText text with
    | .endOfOptions => .ok { r with ended := true }
    | .named name value => r.named kind name value
    | .letters cluster => r.letters cluster
    | .plain text =>
      if r.pending = some none then .ok { r with pending := some (some text) }
      else r.uri kind text

/-- The mapping file: the one that was named, or else the environment's. -/
def file? (r : Reading) (e : Environment) : Except UsageError (Option String) :=
  match r.config, e.config? with
  | some file, _ => .ok (some file)
  | none, some file => if file = "" then .error .valueInvalid else .ok (some file)
  | none, none => .ok none

def finish (r : Reading) (kind : Kind) (e : Environment) : Except UsageError Command := do
  let r ← r.settle
  match kind, ← r.file? e with
  | _, none => throw .argumentMissing
  | .routes, some file => return .routes file
  | .resolve, some file =>
    if r.uris = [] then throw .argumentMissing
    return .resolve file r.uris r.json

end Reading

/-- The command of a kind with the given arguments. -/
def ofKind? (kind : Kind) (e : Environment) (args : List String) : Except UsageError Command := do
  let r ← args.foldlM (·.argument kind ·) Reading.start
  r.finish kind e

/-- The words that are commands. -/
def words : List String := ["routes", "resolve", "help"]

/-- What comes of a first argument that is no command. -/
def misused : Argument → UsageError
  | .named "help" none => .help
  | .named "help" (some _) => .valueUnneeded
  | .letters ('h' :: _) => .help
  | .named _ _ | .letters _ => .argumentUnknown
  | .plain _ | .endOfOptions => .commandUnknown

/-- Reads a command line in an environment. -/
def ofArgs? (e : Environment) : List String → Except UsageError Command
  | [] | ["--"] => .error .commandMissing
  | "--" :: word :: _ => .error (if words.contains word then .argumentUnknown else .commandUnknown)
  | "routes" :: args => ofKind? .routes e args
  | "resolve" :: args => ofKind? .resolve e args
  | ["help"] => .error .help
  | ["help", word] => .error (if words.contains word then .help else .commandUnknown)
  | "help" :: _ => .error .commandUnknown
  | arg :: _ => .error (misused (.ofText arg))

end Command
end RequestDispatch
