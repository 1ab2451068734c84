import ProcessCompiler.Output

/-!
# The command line

A run reads arguments, a definition and the environment, and writes one file or none. Its report is what it prints and
its exit code; only a run that wrote its file prints to the standard output.

* `CommandLine.parse`: the meaning of arguments.
* `CommandLine.run`: a whole run.
-/

namespace ProcessCompiler.CommandLine

/-! ## Arguments -/

/-- What arguments say so far. -/
structure Settings where
  definition : Option String
  output : Option String
  runtime : Option String
  diagnostics : Bool
  strictExpressions : Bool
  deriving DecidableEq

/-- What complete arguments say. -/
structure Arguments where
  definition : String
  output : Option String
  runtime : Option String
  diagnostics : Bool
  strictExpressions : Bool
  deriving DecidableEq

/-- Why there is nothing to run: help is asked for, or the arguments are wrong. -/
inductive Refusal where
  | help
  | unknown (argument : String)
  | lacksValue (option what : String)
  | lacksDefinition
  deriving DecidableEq

/-- Reads arguments in order. The argument after an option with a value is its value, whatever it looks like; of options
given twice the later counts. -/
def settings : Settings → List String → Except Refusal Settings
  | s, [] => .ok s
  | s, argument :: rest =>
    if argument = "--help" ∨ argument = "-h" then .error .help
    else if argument = "--definition" then
      match rest with
      | [] => .error (.lacksValue argument "path")
      | value :: rest => settings { s with definition := some value } rest
    else if argument = "--output" then
      match rest with
      | [] => .error (.lacksValue argument "directory")
      | value :: rest => settings { s with output := some value } rest
    else if argument = "--runtime-crate" then
      match rest with
      | [] => .error (.lacksValue argument "name")
      | value :: rest => settings { s with runtime := some value } rest
    else if argument = "--diagnostics" then settings { s with diagnostics := true } rest
    else if argument = "--strict-expressions" then settings { s with strictExpressions := true } rest
    else .error (.unknown argument)

/-- The meaning of arguments; a definition must be among them. -/
def parse (arguments : List String) : Except Refusal Arguments := do
  let s ← settings ⟨none, none, none, false, false⟩ arguments
  match s.definition with
  | none => .error .lacksDefinition
  | some definition => pure ⟨definition, s.output, s.runtime, s.diagnostics, s.strictExpressions⟩

/-- The options of arguments over those of the environment. -/
def Arguments.options (a : Arguments) (environment : Environment) : Options :=
  let o := Options.ofEnvironment environment
  { diagnostics := a.diagnostics || o.diagnostics
    strictExpressions := a.strictExpressions || o.strictExpressions
    runtime := a.runtime.getD o.runtime }

/-- How the program is used. -/
def usage : List String := [
  "Usage: canopy-compile [OPTIONS]",
  "",
  "Compile a process definition JSON file to Rust build code.",
  "",
  "OPTIONS:",
  "    --definition <path>     Path to process definition JSON file (required)",
  "    --output <dir>          Directory the generated source is written to",
  "                            (default: $DATA_DIR/processes/<id>/generated)",
  "    --diagnostics           Report skipped node types and truncated expressions",
  "    --strict-expressions    Fail on expressions missing their closing '\x7d'",
  "    --runtime-crate <name>  Crate the generated code builds against",
  "    --help                  Show this help message",
  "",
  "ENVIRONMENT:",
  "    DATA_DIR                    Data directory for generated sources (default: .data)",
  "    CANOPY_DIAGNOSTICS          Same as --diagnostics when set to 1/true/yes/on",
  "    CANOPY_STRICT_EXPRESSIONS   Same as --strict-expressions when set to 1/true/yes/on",
  "    CANOPY_RUNTIME_CRATE        Same as --runtime-crate (default: canopy_runtime)",
  "    RUST_LOG                    Log filter (default: warn)",
  "",
  "EXAMPLES:",
  "    # Compile into a specific directory",
  "    canopy-compile --definition order-flow.json --output ./generated",
  "",
  "    # Compile with diagnostics",
  "    canopy-compile --definition order-flow.json --diagnostics",
  ""]

/-- The wording of a refusal; help has none. -/
def Refusal.message : Refusal → Option String
  | .help => none
  | .unknown argument => some ("Unknown argument: " ++ argument)
  | .lacksValue option what => some (option ++ " requires a " ++ what)
  | .lacksDefinition => some "--definition is required"

/-! ## Runs -/

/-- What a run prints, line by line, and its exit code. -/
structure Report where
  code : Nat
  output : List String
  errors : List String
  deriving DecidableEq

/-- The report of a run that fails. -/
def Report.failed (errors : List String) : Report := ⟨1, [], errors⟩

/-- The report of a run that does nothing. -/
def Refusal.report (refusal : Refusal) : Report :=
  match refusal.message with
  | none => ⟨0, [], usage⟩
  | some message => .failed (["Error: " ++ message, ""] ++ usage)

/-- The lines on a compiled process before its file is written. -/
def warnings (options : Options) (c : Compiled) : List String :=
  if options.diagnostics then c.diagnostics.map fun d => "warning: " ++ d.display else []

/-- The lines on a compiled process after its file is written. -/
def summary (c : Compiled) : List String :=
  ["Compilation successful:", "  Nodes: " ++ toString c.nodeCount,
    "  Instructions: " ++ toString c.instructionCount, "  Checksum: " ++ c.checksum]

variable {m : Type → Type} [Monad m]

/-- Compiles a definition and writes its source. -/
def runDefinition (fs : FileSystem m) (environment : Environment) (a : Arguments) (d : ProcessDefinition) :
    m Report := do
  let options := a.options environment
  let start := ["Compiling process: " ++ d.id]
  match compile d Registry.builtin options with
  | .error e => pure (.failed (start ++ ["Compilation failed: " ++ e.message]))
  | .ok c =>
    let lines := start ++ warnings options c
    match ← c.writeSource fs environment a.output with
    | .error e => pure (.failed (lines ++ ["Error writing generated source: " ++ e.message]))
    | .ok path => pure ⟨0, [path], lines ++ summary c⟩

/-- A run with complete arguments. -/
def runArguments (fs : FileSystem m) (environment : Environment) (a : Arguments) : m Report := do
  match ← fs.readText a.definition with
  | .error e =>
    pure (.failed ["Error reading definition file " ++ Text.quoted a.definition ++ ": " ++ e.message])
  | .ok text =>
    match ProcessDefinition.ofText text with
    | .error e => pure (.failed ["Error parsing definition JSON: " ++ e.message])
    | .ok d => runDefinition fs environment a d

/-- A run of the program. -/
def run (fs : FileSystem m) (environment : Environment) (arguments : List String) : m Report :=
  match parse arguments with
  | .error refusal => pure refusal.report
  | .ok a => runArguments fs environment a

/-- Lines as text, each with its end. -/
def textOfLines (lines : List String) : String := String.join (lines.map (· ++ "\n"))

end ProcessCompiler.CommandLine
