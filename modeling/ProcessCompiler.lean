import ProcessCompiler.Definition.Format
import ProcessCompiler.Generator.Builtin
import ProcessCompiler.Body
import ProcessCompiler.OutputPath
import ProcessCompiler.Compilation
import ProcessCompiler.Schema.Published
import ProcessCompiler.FileSystem.Tree
import ProcessCompiler.Main
import ProcessCompiler.Proofs.Walk
import ProcessCompiler.Proofs.Draft
import ProcessCompiler.Proofs.Generator
import ProcessCompiler.Proofs.UniqueIds
import ProcessCompiler.Proofs.Occurrences
import ProcessCompiler.Proofs.Registry
import ProcessCompiler.Proofs.Instructions
import ProcessCompiler.Proofs.Outline
import ProcessCompiler.Proofs.FreshNames
import ProcessCompiler.Proofs.Handles
import ProcessCompiler.Proofs.Diagnostics
import ProcessCompiler.Proofs.Strictness
import ProcessCompiler.Proofs.Expressions
import ProcessCompiler.Proofs.Resolution
import ProcessCompiler.Proofs.Scoping
import ProcessCompiler.Proofs.Comparison
import ProcessCompiler.Proofs.Visits
import ProcessCompiler.Proofs.Ancestors
import ProcessCompiler.Proofs.Locality
import ProcessCompiler.Proofs.ScopeChain
import ProcessCompiler.Proofs.Coverage
import ProcessCompiler.Proofs.Redeclaration
import ProcessCompiler.Proofs.Isolation
import ProcessCompiler.Proofs.Indifference
import ProcessCompiler.Proofs.Unlinking
import ProcessCompiler.Proofs.Identifiers
import ProcessCompiler.Proofs.Requests
import ProcessCompiler.Proofs.Capture
import ProcessCompiler.Proofs.Reading
import ProcessCompiler.Proofs.Vocabulary
import ProcessCompiler.Proofs.Closure
import ProcessCompiler.Proofs.Endpoints
import ProcessCompiler.Proofs.Violations
import ProcessCompiler.Proofs.Finding
import ProcessCompiler.Proofs.Erasure
import ProcessCompiler.Proofs.Attachment
import ProcessCompiler.Proofs.PrintedText
import ProcessCompiler.Proofs.Collections
import ProcessCompiler.Proofs.Arrangement
import ProcessCompiler.Proofs.Records
import ProcessCompiler.Proofs.Origins
import ProcessCompiler.Proofs.RoundTrip
import ProcessCompiler.Proofs.Runs
import ProcessCompiler.Proofs.Locations
import ProcessCompiler.Proofs.Validity
import ProcessCompiler.Proofs.Conformance
import ProcessCompiler.Proofs.Pieces
import ProcessCompiler.Proofs.References
import ProcessCompiler.Proofs.Durations
import ProcessCompiler.Proofs.Arenas
import ProcessCompiler.Proofs.Reports
import ProcessCompiler.Proofs.Constructors
import ProcessCompiler.Proofs.Retention
import ProcessCompiler.Proofs.Blankness
import ProcessCompiler.Proofs.Growth
import ProcessCompiler.Proofs.Artifacts
import ProcessCompiler.Proofs.Fragments
import ProcessCompiler.Proofs.Literals
import ProcessCompiler.Proofs.Constants
import ProcessCompiler.Proofs.Composition
import ProcessCompiler.Proofs.Rebinding
import ProcessCompiler.Proofs.AttributeRoundTrip
import ProcessCompiler.Proofs.PublishedAttributes
import ProcessCompiler.Proofs.PathTexts
import ProcessCompiler.Proofs.ArgumentGroups
import ProcessCompiler.Proofs.EnvironmentSettings
import ProcessCompiler.Proofs.ClaimedNames
import ProcessCompiler.Proofs.Delimiters
import ProcessCompiler.Proofs.Naming
