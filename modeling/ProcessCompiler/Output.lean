import ProcessCompiler.Compilation
import ProcessCompiler.FileSystem
import ProcessCompiler.OutputPath

/-!
# Writing generated code

* `compileToFile`: compiles a definition and writes the source to its file.
-/

namespace ProcessCompiler

variable {m : Type → Type} [Monad m]

/-- Writes the source of a compiled process to a directory, or to that of the process; returns the path of the file. -/
def Compiled.writeSource (fs : FileSystem m) (environment : Environment) (c : Compiled) (output : Option String) :
    m (Except FileError String) := do
  let directory := output.getD (OutputPath.directory environment c.processId)
  match ← fs.createAll directory with
  | .error e => pure (.error e)
  | .ok () =>
    let path := joinPath directory (OutputPath.fileName c.processId)
    match ← fs.writeText path c.source with
    | .error e => pure (.error e)
    | .ok () => pure (.ok path)

/-- Why a definition does not reach its file. -/
inductive OutputError where
  | compilation (error : CompilationError)
  | file (error : FileError)
  deriving DecidableEq

/-- The wording of an output error. -/
def OutputError.message : OutputError → String
  | .compilation e => e.message
  | .file e => "I/O error: " ++ e.message

/-- Compiles a definition and writes its source; returns the path of the file. -/
def compileToFile (fs : FileSystem m) (environment : Environment) (d : ProcessDefinition) (registry : Registry)
    (options : Options) (output : Option String) : m (Except OutputError String) := do
  match compile d registry options with
  | .error e => pure (.error (.compilation e))
  | .ok c =>
    match ← c.writeSource fs environment output with
    | .error e => pure (.error (.file e))
    | .ok path => pure (.ok path)

end ProcessCompiler
