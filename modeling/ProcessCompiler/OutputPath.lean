import ProcessCompiler.Identifier
import ProcessCompiler.Options

/-!
# Where generated code is written

By default the code of a process goes to a directory of its own under the data directory.
-/

namespace ProcessCompiler

/-- A path joined to another one: an absolute path stands for itself, else one slash comes between them. -/
def joinPath (base part : String) : String :=
  match part.toList with
  | '/' :: _ => part
  | _ =>
    match base.toList.getLast? with
    | none => part
    | some '/' => base ++ part
    | some _ => base ++ "/" ++ part

namespace OutputPath

/-- The data directory. -/
def dataDirectory (environment : Environment) : String := (environment "DATA_DIR").getD ".data"

/-- The directory of a process. -/
def directory (environment : Environment) (process : String) : String :=
  joinPath (joinPath (joinPath (dataDirectory environment) "processes") process) "generated"

/-- The name of the file of a process. -/
def fileName (process : String) : String := Identifier.sanitize process ++ ".rs"

/-- The file of a process. -/
def file (environment : Environment) (process : String) : String :=
  joinPath (directory environment process) (fileName process)

end OutputPath

end ProcessCompiler
