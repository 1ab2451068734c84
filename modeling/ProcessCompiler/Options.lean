import ProcessCompiler.Text.Blank

/-!
# Options of a compilation

Each option can be set in the environment.
-/

namespace ProcessCompiler

/-- What the user chooses: whether to report what is skipped or cut, whether to refuse expressions that do not close,
and the library that generated code builds on. -/
structure Options where
  diagnostics : Bool
  strictExpressions : Bool
  runtime : String
  deriving DecidableEq

/-- The values of environment variables. -/
abbrev Environment := String → Option String

namespace Options

/-- The options of a user who chooses nothing. -/
def default : Options := ⟨false, false, "canopy_runtime"⟩

/-- Whether the value of an environment variable turns an option on. -/
def isOn (value : String) : Bool :=
  let word := (Text.trimChars value.toList).map Char.toLower
  ["1", "true", "yes", "on"].any fun on => on.toList = word

/-- The options that the environment sets. -/
def ofEnvironment (environment : Environment) : Options where
  diagnostics := ((environment "CANOPY_DIAGNOSTICS").map isOn).getD default.diagnostics
  strictExpressions := ((environment "CANOPY_STRICT_EXPRESSIONS").map isOn).getD default.strictExpressions
  runtime := ((environment "CANOPY_RUNTIME_CRATE").filter fun v => !Text.isBlankText v).getD default.runtime

end Options

end ProcessCompiler
