import RequestDispatch.Inspection.Report

/-! The command line. It reads the environment and the mapping file that the command names,
writes the command's report, and ends with 0, or with 1 if there was nothing to report, or
with 2 if the arguments were no command. -/
namespace RequestDispatch

/-- The variables of the environment that inspection reads. -/
def Environment.read : IO Environment :=
  Environment.inspected.foldlM (fun e name => do
    match ← IO.getEnv name with
    | some value => return e.insert name value
    | none => return e) Dictionary.empty

/-- The content of a file, if it can be read. -/
def readContent (file : String) : IO (Option (List UInt8)) := do
  try
    return some (← IO.FS.readBinFile file).toList
  catch _ => return none

def usage : String :=
  "Inspect and resolve handler mappings\n\n" ++
    "Usage:\n" ++
    "  routes --config <CONFIG>\n" ++
    "  resolve --config <CONFIG> [--json] <PATHS>..."

def UsageError.exitCode : UsageError → UInt32
  | help => 0
  | _ => 2

def InspectionError.print (e : InspectionError) : IO Unit := do
  IO.eprintln ("Error: " ++ e.message)
  match e with
  | load _ => return
  | mapping cause => IO.eprintln ("\nCaused by:\n    " ++ cause.message)

def inspect (args : List String) : IO UInt32 := do
  let environment ← Environment.read
  match Command.ofArgs? environment args with
  | .error .help =>
    IO.println usage
    return UsageError.help.exitCode
  | .error e =>
    IO.eprintln usage
    return e.exitCode
  | .ok command =>
    match command.report environment (← readContent command.config) with
    | .ok lines =>
      lines.forM IO.println
      return 0
    | .error e =>
      e.print
      return 1

end RequestDispatch

def main (args : List String) : IO UInt32 := RequestDispatch.inspect args
