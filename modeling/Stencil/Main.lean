import Stencil.CommandLine.Reading

/-!
# The program

Reads the command line and the files that the command names, and prints the text of the command or
what is wrong.
-/

namespace Stencil.CommandLine

/-- How the program is used. -/
def usage : String :=
  "Renders placeholder templates against JSON or YAML metadata\n\n" ++
  "Usage: [-v] <COMMAND>\n\n" ++
  "Commands:\n" ++
  "  render <TEMPLATE> [-m FILE] [-c FILE] [--strict] [--fallback TEXT]\n" ++
  "  metadata <TEMPLATE>\n" ++
  "  convert <TEMPLATE> [--render] [-m FILE]\n" ++
  "  help [COMMAND]\n"

/-- The reason of a refusal in words. -/
def Refusal.message : Refusal → String
  | .help => usage
  | .version => "0.3.1"
  | .helpForNothing => usage
  | .missingCommand => usage
  | .missingArgument => "error: a required argument is missing"
  | .unknownCommand => "error: unrecognized subcommand"
  | .unknownArgument => "error: unexpected argument"
  | .invalidValue => "error: a value is required"
  | .tooManyValues => "error: unexpected value for a flag"
  | .repeatedOption => "error: an option cannot be used multiple times"

/-- The exit code of a refusal. -/
def Refusal.exitCode : Refusal → UInt32
  | .help => 0
  | .version => 0
  | .helpForNothing => 1
  | .missingCommand => 1
  | _ => 2

/-- Reads a file. -/
def readFile (path : Text) : IO (Except FileError Text) := do
  try
    let bytes ← IO.FS.readBinFile (String.ofList path)
    pure (Files.decode bytes)
  catch e =>
    match e with
    | .noFileOrDirectory .. => pure (.error .notFound)
    | e => pure (.error (.other (toString e).toList))

/-- Carries out a command line. -/
def run (words : List String) : IO UInt32 := do
  match read (words.map String.toList) with
  | .error refusal =>
    if refusal.exitCode = 0 then IO.println refusal.message else IO.eprintln refusal.message
    pure refusal.exitCode
  | .ok (command, _) =>
    let contents ← command.paths.mapM fun path => do pure (path, ← readFile path)
    let files : Files := fun path => (contents.lookup path).getD (.error .notFound)
    match command.execute files with
    | .ok t =>
      IO.println (String.ofList t)
      pure 0
    | .error e =>
      IO.eprintln (String.ofList e.message)
      pure 1

end Stencil.CommandLine

/-- The program. -/
def main (args : List String) : IO UInt32 := Stencil.CommandLine.run args
