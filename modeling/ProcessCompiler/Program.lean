import ProcessCompiler.Generation

/-!
# Generated programs

A program imports what its builders need, defines the helpers, and has one function that builds the process.
-/

namespace ProcessCompiler

/-- The parts of a path between double colons. -/
def splitPath : List Char → List (List Char)
  | [] => [[]]
  | ':' :: ':' :: rest => [] :: splitPath rest
  | c :: rest =>
    match splitPath rest with
    | [] => [[c]]
    | part :: parts => (c :: part) :: parts

/-- The names of an import, if it is a path of identifiers. -/
def importNames? (path : String) : Option (List String) :=
  let names := (splitPath path.toList).map String.ofList
  if names.all Identifier.isIdentifier then some names else none

/-- The code of an import; a path that has something else than identifiers has none. -/
def importCode (path : String) : Code :=
  match importNames? path with
  | none => []
  | some names =>
    [.word "#", .group .square (.word "allow" :: Code.arguments [Code.words ["unused_imports"]]), .word "use"] ++
      Code.path names ++ [.word ";"]

/-- The code of the imports and helpers. -/
def Metadata.preludeCode (m : Metadata) (runtime : String) : Code :=
  .word "use" :: Code.path [runtime, "prelude", "*"] ++ [.word ";"] ++ m.imports.toList.flatMap importCode ++
    m.helpers.entries.flatMap (·.2)

/-- The code of the function that builds the process. -/
def createProcessCode (graph : ProcessGraph) (body : Body) : Code :=
  [.word "#", .group .square (Code.words ["doc", "=", "r\" Build the process definition.\""])] ++
    Code.words ["pub", "fn", "create_process"] ++ Code.arguments [] ++ Code.words ["->", "Process"] ++
    [.group .curly (
      Code.words ["let", "mut", rootHandle, "="] ++ Code.path ["ProcessFactory", "new"] ++
      Code.arguments [Code.string graph.id] ++ [.word ";"] ++
      Code.callOption rootHandle "name" graph.name ++ Code.callOption rootHandle "version" graph.version ++
      body.code ++ .word rootHandle :: Code.method "validate" [] ++ Code.method "build" [])]

/-- The code of a whole program. -/
def programCode (graph : ProcessGraph) (session : Session) (options : Options) : Code :=
  session.metadata.preludeCode options.runtimeName ++ createProcessCode graph session.body

end ProcessCompiler
