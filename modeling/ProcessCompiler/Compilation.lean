import ProcessCompiler.Definition.Format
import ProcessCompiler.Digest
import ProcessCompiler.Program

/-!
# Compiling a definition

* `compile`: the source text of a definition, with what else is known about it.
-/

namespace ProcessCompiler

open Json

/-- A compiled process. -/
structure Compiled where
  processId : String
  source : String
  checksum : String
  nodeCount : Nat
  instructionCount : Nat
  diagnostics : List Diagnostic
  workItems : List String
  signals : List String

/-- Why a definition is not compiled. -/
inductive CompilationError where
  | definition (error : ReadError)
  | graph (error : GraphError)
  | code (error : GenerationError)
  deriving DecidableEq

/-- The wording of a generation error. -/
def GenerationError.message : GenerationError → String
  | .rejected e => e.message
  | .foreignScope e => e.message

/-- The wording of a compilation error. -/
def CompilationError.message : CompilationError → String
  | .definition e => "Invalid process definition: " ++ definitionMessage e
  | .graph e => "Invalid process graph: " ++ e.message
  | .code e => "Code generation failed: " ++ e.message

/-- What comes out of a session for a graph. -/
def Compiled.ofSession (graph : ProcessGraph) (options : Options) (session : Session) : Compiled :=
  let source := (programCode graph session options).text
  { processId := graph.id
    source
    checksum := Digest.sha256 source
    nodeCount := graph.nodeCount
    instructionCount := session.body.size
    diagnostics := session.metadata.diagnostics
    workItems := session.metadata.workItems.toList
    signals := session.metadata.signals.toList }

/-- Compiles a definition. -/
def compile (d : ProcessDefinition) (registry : Registry) (options : Options) : Except CompilationError Compiled :=
  match ProcessGraph.ofDefinition d with
  | .error e => .error (.graph e)
  | .ok graph =>
    match generate graph registry options with
    | .error e => .error (.code e)
    | .ok session => .ok (Compiled.ofSession graph options session)

/-- Compiles the text of a definition. -/
def compileText (text : String) (registry : Registry) (options : Options) : Except CompilationError Compiled :=
  match ProcessDefinition.ofText text with
  | .error e => .error (.definition e)
  | .ok d => compile d registry options

end ProcessCompiler
