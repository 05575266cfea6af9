import QueryExpr.CommandLine.Run

/-!
# The program

Reads the files and environment variables that a command asks for, runs it and prints what it comes
to.
-/

open QueryExpr QueryExpr.CommandLine

/-- What a path leads to. -/
def readPath (path : String) : IO File := do
  match ← (IO.FS.readFile path).toBaseIO with
  | .ok content => return .text content
  | .error (.noFileOrDirectory ..) => return .missing
  | .error e => return .unreadable (toString e)

/-- The values of environment variables. -/
def readVariables (names : List String) : IO Environment := do
  let values ← names.mapM fun name => do return (name, ← IO.getEnv name)
  return fun name => (values.lookup name).join

/-- What a command can see of the machine. -/
def readHost (command : Command) : IO Host := do
  let env ← readVariables ["VSQL_CONFIG", "XDG_CONFIG_HOME", "HOME"]
  let files ← (command.paths env).mapM fun path => do return (path, ← readPath path)
  let names := files.flatMap fun
    | (_, .text content) => Environment.references content
    | _ => []
  let env ← readVariables (["VSQL_CONFIG", "XDG_CONFIG_HOME", "HOME"] ++ names)
  return { file := fun path => (files.lookup path).getD .missing, env }

/-- Print a notice to the error output. -/
def printNotice : Notice → IO Unit
  | .line text => IO.eprintln text
  | .syntaxReport source error =>
    IO.eprintln s!"Syntax error in vSQL expression: {error.message}\n{source}"

/-- Run the program. -/
def main (args : List String) : IO UInt32 := do
  let host ←
    match Command.parse? args with
    | some command => readHost command
    | none => pure { file := fun _ => .missing, env := fun _ => none }
  let outcome := run host args
  IO.print outcome.stdout
  outcome.stderr.forM printNotice
  return .ofNat outcome.exit
