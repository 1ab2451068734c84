import ProcessCompiler.Attributes
import ProcessCompiler.Expression.References
import ProcessCompiler.Identifier
import ProcessCompiler.Metadata
import ProcessCompiler.Options
import ProcessCompiler.Token.Constant

/-!
# Drafts

A draft is what a generator makes of one node: requests to the metadata of the compilation, in order, and then a result
or a problem. A draft sees no metadata, so a verdict on a node rests on the node, its scope and the options alone. What
was requested before a problem still counts.
-/

namespace ProcessCompiler

open Json

/-- Something that a generator wants the compilation to keep. A builder needs its type imported and a name for it. -/
inductive Request where
  | builder (factoryPath base : String)
  | helper (name : String) (code : Code)
  | workItem (name : String)
  | signal (name : String)
  | diagnostic (d : Diagnostic)
  | expression (node key : String) (e : ResolvedExpression)

/-- Does what is requested. -/
def Metadata.grant (m : Metadata) : Request → Metadata
  | .builder factoryPath base => ((m.addImport factoryPath).claim base).2
  | .helper name code => m.addHelper name code
  | .workItem name => m.addWorkItem name
  | .signal name => m.addSignal name
  | .diagnostic d => m.addDiagnostic d
  | .expression node key e => m.record node key e

/-- Requests, and the result or problem after them. -/
structure Draft (α : Type) where
  requests : List Request
  result : Except Problem α

namespace Draft

variable {α β : Type}

/-- Just a result. -/
protected def pure (a : α) : Draft α := ⟨[], .ok a⟩

/-- Just a problem. -/
def fail (problem : Problem) : Draft α := ⟨[], .error problem⟩

/-- One request. -/
def request (r : Request) : Draft Unit := ⟨[r], .ok ()⟩

/-- A draft and what follows from its result. -/
protected def bind (d : Draft α) (next : α → Draft β) : Draft β :=
  match d.result with
  | .error problem => ⟨d.requests, .error problem⟩
  | .ok a => ⟨d.requests ++ (next a).requests, (next a).result⟩

instance : Monad Draft where
  pure := Draft.pure
  bind := Draft.bind

/-- Steps that follow each other may be grouped as one likes. -/
instance : LawfulMonad Draft := LawfulMonad.mk' Draft
  (fun d => by
    obtain ⟨requests, result⟩ := d
    cases result <;> simp [Functor.map, Draft.bind, Draft.pure])
  (fun a next => by simp [Bind.bind, Pure.pure, Draft.bind, Draft.pure])
  (fun d next last => by
    obtain ⟨requests, result⟩ := d
    cases result with
    | error problem => rfl
    | ok a =>
      rcases h : next a with ⟨more, middle⟩
      cases middle <;> simp [Bind.bind, Draft.bind, h])

end Draft

/-! ## What generators see -/

/-- Where a node is compiled: the options, the scopes of the graph, and the handle and scope of the enclosing graph. -/
structure Site where
  options : Options
  scopes : Arena
  handle : String
  scope : ScopeId

namespace Options

/-- The library of generated code, as a name. -/
def runtimeName (options : Options) : String := Identifier.sanitize options.runtime

/-- A path inside the library of generated code. -/
def runtimePath (options : Options) (path : String) : String := options.runtimeName ++ "::" ++ path

/-- A member of the library, as code. -/
def runtimeMember (options : Options) (names : List String) : Code := Code.path (options.runtimeName :: names)

end Options

/-- The handle of the factory of a process. -/
def rootHandle : String := "factory"

/-- The name that a node's builder asks for. -/
def NodeHeader.handleBase (node : NodeHeader) : String :=
  Identifier.sanitize node.type ++ "_" ++ Identifier.sanitize node.uniqueId

/-- The code of an expression. -/
def ResolvedExpression.code (e : ResolvedExpression) (options : Options) : Code :=
  options.runtimeMember ["Expression", "new"] ++
    Code.arguments [Code.string e.text,
      [.word "&", .group .square (Code.commaSeparated (e.references.map fun r => Code.string r.name))]]

/-- The name of the helper that evaluates conditions. -/
def conditionHelper : String := "eval_condition"

/-- The helper that evaluates conditions. -/
def conditionHelperCode (options : Options) : Code :=
  Code.words ["fn", conditionHelper] ++
    [.group .round (
      Code.words ["ctx", ":", "&"] ++ options.runtimeMember ["ProcessContext"] ++
      Code.words [",", "expression", ":", "&"] ++ options.runtimeMember ["Expression"])] ++
    Code.words ["->", "bool"] ++
    [.group .curly (
      .word "ctx" :: Code.method "evaluate" [Code.words ["expression"]] ++ Code.method "ok" [] ++
      Code.method "and_then" [Code.words ["|", "value", "|", "value"] ++ Code.method "as_bool" []] ++
      Code.method "unwrap_or" [Code.bool false])]

/-- The code that creates the builder of a node and names it. -/
def NodeHeader.builderCode (node : NodeHeader) (factory method factoryType handle : String) : Code :=
  Code.words ["let", "mut", handle, ":", factoryType, "="] ++ Code.call factory method [Code.string node.id] ++
    Code.call handle "metadata" [Code.string "UniqueId", Code.string node.uniqueId] ++
    Code.callOption handle "name" node.name

/-- The code that finishes a builder. -/
def doneCode (handle : String) : Code := Code.call handle "done" []

/-- The variable of a name seen from a scope. -/
def Arena.reference? (arena : Arena) (scope : ScopeId) (name : String) : Option Reference :=
  (arena.resolve scope name).map fun (declaredIn, v) => ⟨name, declaredIn, v.type⟩

/-! ## Steps of a draft -/

namespace Draft

/-- Reads the attributes of a node. -/
def attributes (type : BuiltinType) (node : NodeHeader) : Draft type.Attributes :=
  match type.readAttributes node.attributes with
  | .ok a => pure a
  | .error e => fail (.malformedAttribute e.message)

/-- Refuses an attribute with nothing but blanks. -/
def requireText (key value : String) : Draft Unit :=
  if Text.isBlankText value then fail (.malformedAttribute ("'" ++ key ++ "' must not be empty")) else pure ()

/-- Strips the delimiters of an expression. One that does not close is refused, or reported, as the options say. -/
def normalize (site : Site) (node : NodeHeader) (raw : String) : Draft String := do
  if Expression.isUnclosed raw then
    if site.options.strictExpressions then fail (.unclosedExpression raw)
    else if site.options.diagnostics then
      request (.diagnostic ⟨node.uniqueId, node.type, .unclosedExpression raw⟩)
  pure (Expression.strip raw)

/-- The variable of a name that an expression reads. -/
def requireVariable (site : Site) (expression name : String) : Draft Reference :=
  match site.scopes.reference? site.scope name with
  | some r => pure r
  | none => fail (.undefinedVariable name expression)

/-- The variables of names that an expression reads. -/
def requireVariables (site : Site) (expression : String) : List String → Draft (List Reference)
  | [] => pure []
  | name :: rest => do
    let r ← requireVariable site expression name
    let rs ← requireVariables site expression rest
    pure (r :: rs)

/-- Resolves an expression of an attribute, and keeps it. -/
def resolve (site : Site) (node : NodeHeader) (key raw : String) : Draft ResolvedExpression := do
  let text ← normalize site node raw
  let references ← requireVariables site text (Expression.references text)
  let e : ResolvedExpression := ⟨text, references⟩
  request (.expression node.uniqueId key e)
  pure e

/-- The name of a variable that receives a result. -/
def receiver (site : Site) (node : NodeHeader) (key raw : String) : Draft String := do
  let text ← normalize site node raw
  let name := Text.trim text
  requireText key name
  let r ← requireVariable site name name
  pure r.name

/-- The name of a variable that receives a result, if there is one. -/
def receiver? (site : Site) (node : NodeHeader) (key : String) : Option String → Draft (Option String)
  | none => pure none
  | some raw => some <$> receiver site node key raw

/-- Asks for the builder of a node; returns the code that creates it, for its handle. -/
def builder (site : Site) (node : NodeHeader) (method factoryType : String) : Draft (String → Code) := do
  request (.builder (site.options.runtimePath ("nodes::" ++ factoryType)) node.handleBase)
  pure (node.builderCode site.handle method factoryType)

/-- Asks for the helper that evaluates conditions. -/
def needConditionHelper (site : Site) : Draft Unit :=
  request (.helper conditionHelper (conditionHelperCode site.options))

end Draft

end ProcessCompiler
