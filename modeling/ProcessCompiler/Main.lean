import ProcessCompiler.CommandLine

/-!
# The program

Runs the command line on the files, arguments and environment of the machine.
-/

namespace ProcessCompiler

/-- The wording of an error of the machine with its number. -/
def systemMessage (code : UInt32) (details : String) : String := details ++ " (os error " ++ toString code ++ ")"

/-- The file error of an error of the machine. -/
def fileError : IO.Error → FileError
  | .noFileOrDirectory .. => .notFound
  | .alreadyExists .. => .exists
  | .inappropriateType _ code details =>
    if code = 20 then .notDirectory
    else if code = 21 then .isDirectory
    else .other (systemMessage code details)
  | .permissionDenied _ code details | .invalidArgument _ code details | .resourceExhausted _ code details
  | .noSuchThing _ code details => .other (systemMessage code details)
  | .userError _ => .other "stream did not contain valid UTF-8"
  | e => .other (toString e)

/-- An operation whose errors are values. -/
def attempt {α : Type} (action : IO α) : IO (Except FileError α) := do
  match ← action.toBaseIO with
  | .ok a => pure (.ok a)
  | .error e => pure (.error (fileError e))

/-- The files of the machine. The point in a directory is there already, and there is none in anything else. -/
def machineFiles : FileSystem IO where
  Handle := IO.FS.Handle
  readText path := attempt (IO.FS.readFile path)
  openFile path := attempt (IO.FS.Handle.mk path .write)
  writeAll file content := attempt do
    file.putStr content
    file.flush
  createDirectory path := attempt (IO.FS.createDir path)
  isDirectory path := do
    match ← attempt (IO.FS.createDir (joinPath path ".")) with
    | .error .exists => pure true
    | _ => pure false

end ProcessCompiler

open ProcessCompiler in
/-- Runs the command line. -/
def main (arguments : List String) : IO UInt32 := do
  let names := ["DATA_DIR", "CANOPY_DIAGNOSTICS", "CANOPY_STRICT_EXPRESSIONS", "CANOPY_RUNTIME_CRATE"]
  let values ← names.mapM fun name => do return (name, ← IO.getEnv name)
  let environment : Environment := fun name => (values.find? fun v => v.1 == name).bind (·.2)
  let report ← CommandLine.run machineFiles environment arguments
  IO.eprint (CommandLine.textOfLines report.errors)
  IO.print (CommandLine.textOfLines report.output)
  pure report.code.toUInt32
