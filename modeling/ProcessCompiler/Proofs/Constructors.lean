import ProcessCompiler.Proofs.Handles
import ProcessCompiler.Proofs.Reading
import ProcessCompiler.Proofs.Visits

/-!
# Expressions in generated code

Generated code constructs an expression from its text and the names of the variables that it reads. The constructors in
code are found at whatever depth they stand, and a node has one for each of its attributes that is an expression.

* `Code.constructors`: the expressions that code constructs.
* `BuiltinType.callsConstruct_calls`: the calls of a builder construct the expressions among the attributes, in order.
* `Walk.constructions_eq`: the nodes that a walk comes to construct their expressions.
* `constructions_of_generate`: so do the nodes that are created for a graph.
-/

namespace ProcessCompiler

/-! ## Constructors -/

/-- A constructor in code: the text of an expression and the names that it reads. -/
abbrev Construction := String × List String

/-- An expression as code constructs it. -/
def ResolvedExpression.written (e : ResolvedExpression) : Construction := (e.text, e.references.map Reference.name)

namespace Code

/-- The texts of the string literals in code. -/
def literals : Code → List String
  | [] => []
  | .quoted text :: rest => text :: literals rest
  | _ :: rest => literals rest

/-- The constructor of an expression, if code starts with one. -/
def constructor? : Code → Option Construction
  | .word "Expression" :: .word "::" :: .word "new" ::
      .group .round [.quoted text, .word ",", .word "&", .group .square names] :: _ => some (text, literals names)
  | _ => none

/-- **The expressions that code constructs**, at any depth and in order. -/
def constructors (code : Code) : List Construction := Token.scanAll constructor? code

/-- **What code constructs, whatever stands behind it.** -/
def Constructs (code : Code) (found : List Construction) : Prop :=
  ∀ rest, constructors (code ++ rest) = found ++ constructors rest

section Steps

variable {text : String} {code rest : Code}

theorem constructor?_word (other : text ≠ "Expression") : constructor? (.word text :: rest) = none := by
  unfold constructor?
  split
  · next same =>
    simp only [List.cons.injEq, Token.word.injEq] at same
    exact absurd same.1 other
  · rfl

theorem constructors_word (other : text ≠ "Expression") : constructors (.word text :: rest) = constructors rest := by
  rw [constructors, Token.scanAll, constructor?_word other, Token.scan]
  rfl

theorem constructors_quoted : constructors (.quoted text :: rest) = constructors rest := by
  rw [constructors, Token.scanAll, Token.scan]
  rfl

theorem constructors_group {brackets : Brackets} :
    constructors (.group brackets code :: rest) = constructors code ++ constructors rest := by
  rw [constructors, Token.scanAll, Token.scan]
  rfl

/-- A name from which a path goes on to another one is passed over, whatever the name is. -/
theorem constructors_qualified {first next : String} (other : next ≠ "new") :
    constructors (.word first :: .word "::" :: .word next :: rest) = constructors (.word next :: rest) := by
  have nothing : constructor? (.word first :: .word "::" :: .word next :: rest) = none := by
    unfold constructor?
    split
    · next same =>
      simp only [List.cons.injEq, Token.word.injEq] at same
      exact absurd same.2.2.1 other
    · rfl
  have colons : constructors (.word "::" :: .word next :: rest) = constructors (.word next :: rest) :=
    constructors_word (by decide)
  rw [constructors, Token.scanAll, nothing, Token.scan]
  exact colons

end Steps

/-! ## What pieces of code construct -/

namespace Constructs

variable {code more : Code} {found found' : List Construction} {text : String}

theorem nil : Constructs [] [] := fun _ => rfl

theorem append (first : Constructs code found) (second : Constructs more found') :
    Constructs (code ++ more) (found ++ found') := by
  intro rest
  rw [List.append_assoc, first, second, List.append_assoc]

/-- What code constructs with nothing behind it. -/
theorem alone (h : Constructs code found) : code.constructors = found := by
  have whole := h []
  rw [List.append_nil] at whole
  exact whole.trans (List.append_nil found)

theorem word (h : Constructs code found) (other : text ≠ "Expression") : Constructs (.word text :: code) found :=
  fun rest => (constructors_word other).trans (h rest)

theorem quoted (h : Constructs code found) : Constructs (.quoted text :: code) found :=
  fun rest => constructors_quoted.trans (h rest)

theorem group {brackets : Brackets} (inside : Constructs code found) (h : Constructs more found') :
    Constructs (.group brackets code :: more) (found ++ found') := by
  intro rest
  rw [List.cons_append, constructors_group, inside.alone, h, List.append_assoc]

theorem string (text : String) : Constructs (Code.string text) [] := quoted nil

theorem words {texts : List String} (other : "Expression" ∉ texts) : Constructs (Code.words texts) [] := by
  induction texts with
  | nil => exact nil
  | cons text texts ih =>
    rw [List.mem_cons, not_or] at other
    exact (ih other.2).word (Ne.symm other.1)

theorem bool (value : Bool) : Constructs (Code.bool value) [] := by
  cases value
  · exact nil.word (by decide)
  · exact nil.word (by decide)

/-- A member of the library constructs nothing by its name, whatever the library is called. -/
theorem member {options : Options} {first second : String} (other : first ≠ "new")
    (plain : "Expression" ∉ [first, second]) : Constructs (options.runtimeMember [first, second]) [] := by
  intro rest
  have within : Constructs (Code.words [first, "::", second]) [] := by
    apply words
    simpa using plain
  exact (constructors_qualified other).trans (within rest)

/-- **The code of an expression constructs it**, and nothing else. -/
theorem expression (e : ResolvedExpression) (options : Options) : Constructs (e.code options) [e.written] := by
  intro rest
  have names : ∀ references : List Reference,
      literals (Code.commaSeparated (references.map fun r => Code.string r.name)) = references.map Reference.name ∧
        Constructs (Code.commaSeparated (references.map fun r => Code.string r.name)) [] := by
    intro references
    induction references with
    | nil => exact ⟨rfl, nil⟩
    | cons r references ih =>
      cases references with
      | nil => exact ⟨rfl, string r.name⟩
      | cons next references => exact ⟨congrArg (r.name :: ·) ih.1, (ih.2.word (by decide)).quoted⟩
  obtain ⟨read, inside⟩ := names e.references
  have arguments : Constructs (Code.arguments [Code.string e.text,
      [.word "&", .group .square (Code.commaSeparated (e.references.map fun r => Code.string r.name))]]) [] :=
    group (((inside.group nil).word (by decide)).word (by decide)).quoted nil
  have behind : Constructs ([.word "::", .word "new"] ++ Code.arguments [Code.string e.text,
      [.word "&", .group .square (Code.commaSeparated (e.references.map fun r => Code.string r.name))]]) [] :=
    (arguments.word (by decide)).word (by decide)
  refine (constructors_qualified (by decide)).trans ?_
  rw [constructors, Token.scanAll, Token.scan, ResolvedExpression.written, ← read]
  exact congrArg ([_] ++ ·) (behind rest)

end Constructs

/-! ## The calls of a builder -/

/-- What calls construct, whatever they are made on. -/
def CallsConstruct (calls : List (String × List Code)) (found : List Construction) : Prop :=
  ∀ handle, handle ≠ "Expression" → Constructs (Code.calls handle calls) found

namespace CallsConstruct

variable {calls more : List (String × List Code)} {found found' : List Construction} {method : String}

theorem nil : CallsConstruct [] [] := fun _ _ => .nil

theorem append (first : CallsConstruct calls found) (second : CallsConstruct more found') :
    CallsConstruct (calls ++ more) (found ++ found') := by
  intro handle plain
  rw [Code.calls_append]
  exact (first handle plain).append (second handle plain)

theorem cons {pieces : List Code} (other : method ≠ "Expression")
    (passed : Constructs (Code.commaSeparated pieces) found) (rest : CallsConstruct calls found') :
    CallsConstruct ((method, pieces) :: calls) (found ++ found') := by
  intro handle plain
  have ended : Constructs [.word ";"] [] := .word .nil (by decide)
  have call : Constructs (Code.call handle method pieces) (found ++ []) :=
    (((passed.group ended).word other).word (by decide)).word plain
  rw [List.append_nil] at call
  exact call.append (rest handle plain)

/-- A call with one argument, before calls that construct nothing more. -/
theorem one {piece : Code} (other : method ≠ "Expression") (passed : Constructs piece found)
    (rest : CallsConstruct calls []) : CallsConstruct ((method, [piece]) :: calls) found :=
  List.append_nil found ▸ cons other passed rest

theorem done : CallsConstruct [("done", [])] [] := by
  have nothing : Constructs (Code.commaSeparated []) [] := .nil
  exact cons (by decide) nothing nil

/-- Calls that are made for one thing after the other. -/
theorem map {α : Type} {call : α → String × List Code} {found : α → List Construction} (xs : List α)
    (each : ∀ x ∈ xs, CallsConstruct [call x] (found x)) : CallsConstruct (xs.map call) (xs.flatMap found) := by
  induction xs with
  | nil => exact nil
  | cons x xs ih =>
    obtain ⟨first, others⟩ := List.forall_mem_cons.1 each
    exact first.append (ih others)

end CallsConstruct

end Code

namespace BuiltinType

open Code

theorem callsConstruct_receiverCalls (method : String) (other : method ≠ "Expression") (output : Option String) :
    CallsConstruct (receiverCalls method output) [] := by
  cases output with
  | none => exact .nil
  | some raw => exact .one other (.string _) .nil

/-- The call of a parameter constructs its expression, if it is one. -/
theorem callsConstruct_parameterCall (site : Site) (p : String × String) :
    CallsConstruct [parameterCall site p]
      (if Expression.isEmbedded p.2 then [(site.resolved p.2).written] else []) := by
  unfold parameterCall
  split
  · have passed : Constructs (Code.commaSeparated [Code.string p.1, (site.resolved p.2).code site.options])
        [(site.resolved p.2).written] := ((Constructs.expression _ _).word (by decide)).quoted
    exact .cons (by decide) passed .nil
  · have passed : Constructs (Code.commaSeparated [Code.string p.1, Code.string p.2]) [] :=
      ((Constructs.string p.2).word (by decide)).quoted
    exact .cons (by decide) passed .nil

/-- An expression that is a condition constructs no more than it would otherwise. -/
theorem constructs_condition (e : ResolvedExpression) (options : Options) :
    Constructs (e.code options ++ .word "," :: Code.words [conditionHelper]) [e.written] := by
  have helper : Constructs (.word "," :: Code.words [conditionHelper]) [] :=
    (Constructs.words (by decide)).word (by decide)
  exact (Constructs.expression e options).append helper

/-- The call of a constraint constructs its expression. -/
theorem callsConstruct_constraintCall (site : Site) (c : Constraint) :
    CallsConstruct [constraintCall site c] [(site.resolved c.expr).written] := by
  have priority : toString c.priority.toNat ++ "u32" ≠ "Expression" := by
    intro same
    have last := congrArg (fun text => text.toList.getLast?) same
    simp at last
  have behind := constructs_condition (site.resolved c.expr) site.options
  have passed : Constructs (Code.commaSeparated [Code.string c.target,
      Code.words [toString c.priority.toNat ++ "u32"], (site.resolved c.expr).code site.options,
      Code.words [conditionHelper]]) [(site.resolved c.expr).written] :=
    (((behind.word (by decide)).word priority).word (by decide)).quoted
  exact .cons (by decide) passed .nil

/-- **The calls of a builder construct the expressions among the attributes**, in their order. -/
theorem callsConstruct_calls (type : BuiltinType) (a : type.Attributes) (site : Site) :
    CallsConstruct (type.calls a site) ((type.expressions a).map fun x => (site.resolved x.2).written) := by
  cases type with
  | start =>
    obtain ⟨_ | signal⟩ := a
    · exact .done
    · exact .one (by decide) (.string signal) .done
  | finish => exact .one (by decide) (.bool _) .done
  | task =>
    have receives := callsConstruct_receiverCalls "output" (by decide) (TaskAttributes.output a)
    exact .one (by decide) (.expression _ _) (receives.append .done)
  | workItem =>
    have parameters := CallsConstruct.map (WorkItemAttributes.parameters a).entries
      fun p _ => callsConstruct_parameterCall site p
    have kept : ∀ entries : List (String × String),
        (entries.flatMap fun p => if Expression.isEmbedded p.2 then [(site.resolved p.2).written] else []) =
          (entries.filter fun p => Expression.isEmbedded p.2).map fun p => (site.resolved p.2).written := by
      intro entries
      induction entries with
      | nil => rfl
      | cons p entries ih =>
        rw [List.flatMap_cons, List.filter_cons, ih]
        split <;> rfl
    rw [kept] at parameters
    have named : Constructs (Code.commaSeparated [Code.string (WorkItemAttributes.workName a)]) [] := .string _
    have whole : CallsConstruct (BuiltinType.workItem.calls a site) _ :=
      .cons (by decide) named (parameters.append .done)
    rw [List.nil_append, List.append_nil] at whole
    simpa only [expressions, WorkItemAttributes.embedded, List.map_map, Function.comp_def] using whole
  | split =>
    have constraints := CallsConstruct.map (SplitAttributes.constraints a)
      fun c _ => callsConstruct_constraintCall site c
    have kind : Constructs
        (Code.commaSeparated [site.options.runtimeMember ["SplitKind", (SplitAttributes.kind a).codeName]]) [] := by
      refine .member (by decide) ?_
      cases SplitAttributes.kind a <;> decide
    have whole : CallsConstruct (BuiltinType.split.calls a site) _ := .cons (by decide) kind (constraints.append .done)
    rw [List.nil_append, List.append_nil, ← List.map_eq_flatMap] at whole
    simpa only [expressions, List.map_map, Function.comp_def] using whole
  | join =>
    refine .one (by decide) (.member (by decide) ?_) .done
    cases JoinAttributes.kind a <;> decide
  | timer =>
    show CallsConstruct [delayCall site a, ("done", [])] _
    unfold delayCall
    split
    · next delay embedded =>
      simp only [expressions, embedded]
      exact .one (by decide) (.expression _ _) .done
    · next literal =>
      simp only [expressions, literal]
      exact .one (by decide) (.string _) .done
  | milestone =>
    have passed : Constructs (Code.commaSeparated [(site.resolved (MilestoneAttributes.condition a)).code site.options,
        Code.words [conditionHelper]]) [(site.resolved (MilestoneAttributes.condition a)).written] :=
      constructs_condition _ _
    exact .cons (by decide) passed .done
  | subProcess => exact .one (by decide) (.bool _) .nil
  | forEach =>
    have receives := callsConstruct_receiverCalls "output_collection" (by decide) (ForEachAttributes.output a)
    exact .one (by decide) (.expression _ _) (.one (by decide) (.string _) receives)
  | eventSubProcess => exact .one (by decide) (.string _) .nil

/-- The code that creates the builder of a node constructs nothing. -/
theorem constructs_builderCode (type : BuiltinType) (node : NodeHeader) {factory handle : String}
    (plain : factory ≠ "Expression") (plain' : handle ≠ "Expression") :
    Constructs (node.builderCode factory type.factoryMethod type.factoryType handle) [] := by
  have first : Constructs (Code.words ["let", "mut", handle, ":", type.factoryType, "="]) [] := by
    apply Constructs.words
    have typed : "Expression" ≠ type.factoryType := by cases type <;> decide
    simp [plain'.symm, typed]
  have created : CallsConstruct [(type.factoryMethod, [Code.string node.id])] [] := by
    refine .one ?_ (.string _) .nil
    cases type <;> decide
  have known : CallsConstruct [("metadata", [Code.string "UniqueId", Code.string node.uniqueId])] [] := by
    have passed : Constructs (Code.commaSeparated [Code.string "UniqueId", Code.string node.uniqueId]) [] :=
      ((Constructs.string _).word (by decide)).quoted
    exact .cons (by decide) passed .nil
  have named : Constructs (Code.callOption handle "name" node.name) [] := by
    cases node.name with
    | none => exact .nil
    | some name =>
      have call : CallsConstruct [("name", [Code.string name])] [] := .one (by decide) (.string _) .nil
      have code := call handle plain'
      rwa [Code.calls_cons, Code.calls_nil, List.append_nil] at code
  have whole := ((first.append (created factory plain)).append (known handle plain')).append named
  simp only [Code.calls_cons, Code.calls_nil, List.append_nil] at whole
  exact whole

/-- **The code of a node constructs the expressions among its attributes**, in their order. -/
theorem Drafted.constructors_eq {type : BuiltinType} {a : type.Attributes} {site : Site} {node : NodeHeader}
    {own? : Option ScopeId} {requests : List Request} {code : String → Code}
    (said : type.Drafted a site node own? requests code) {handle : String} (plain : site.handle ≠ "Expression")
    (plain' : handle ≠ "Expression") :
    (code handle).constructors = (type.expressions a).map fun x => (site.resolved x.2).written := by
  rw [said.built handle]
  exact ((constructs_builderCode type node plain plain').append (type.callsConstruct_calls a site handle plain')).alone

end BuiltinType

/-! ## The expressions of nodes -/

/-- **The expressions of a node**, under the names they are kept by and with the variables that their names stand for
where the node is compiled. -/
def NodeHeader.resolved (node : NodeHeader) (site : Site) : List (String × ResolvedExpression) :=
  match BuiltinType.ofTag? node.type with
  | none => []
  | some type =>
    match type.readAttributes node.attributes with
    | .error _ => []
    | .ok a => (type.expressions a).map fun x => (x.1, site.resolved x.2)

theorem NodeHeader.resolved_eq {node : NodeHeader} {site : Site} {type : BuiltinType} {a : type.Attributes}
    (tagged : BuiltinType.ofTag? node.type = some type) (told : type.readAttributes node.attributes = .ok a) :
    node.resolved site = (type.expressions a).map fun x => (x.1, site.resolved x.2) := by
  rw [resolved, tagged]
  simp only [told]

/-- The expressions of a node that is visited. -/
def Visit.resolved (v : Visit) (plan : Plan) : List (String × ResolvedExpression) :=
  v.node.header.resolved (plan.site rootHandle v.scope)

/-- What a graph is compiled with if the default registry is used. -/
abbrev ProcessGraph.plan (graph : ProcessGraph) (options : Options) : Plan := ⟨.builtin, options, graph.scopes⟩

/-- The node that an instruction creates, and what its code constructs. -/
def Instruction.construction? (i : Instruction) : Option (String × List Construction) :=
  i.nodeId?.map fun unique => (unique, i.code.constructors)

/-- **What the instructions of a body that create nodes construct**, in their order. -/
def Body.constructions (body : Body) : List (String × List Construction) :=
  body.instructions.filterMap Instruction.construction?

section Walks

variable {plan : Plan} {handle : String} {scope : ScopeId} {nodes : List Node} {m m' : Metadata}
  {out : List Instruction}

/-- No builder has the name of the type of expressions. -/
theorem Metadata.freshHandle_ne_expression (m : Metadata) (node : NodeHeader) :
    m.freshHandle node.handleBase ≠ "Expression" := by
  have underscored := underscore_mem_freshHandle m node
  intro same
  rw [same] at underscored
  exact absurd underscored (by decide)

/-- Instructions that create no nodes do not count. -/
theorem filterMap_construction?_eq_nil (nothing : out.filterMap Instruction.nodeId? = []) :
    out.filterMap Instruction.construction? = [] := by
  rw [List.filterMap_eq_nil_iff] at nothing ⊢
  intro i member
  rw [Instruction.construction?, nothing i member]
  rfl

/-- The instruction that creates a node constructs the node's expressions. -/
theorem Instruction.construction?_creation (default : plan.registry = .builtin) {node : Node} {generator : Generator}
    {requests : List Request} {code : String → Code}
    (known : plan.registry.find? node.header.type = some generator)
    (drafted : generator.draft (plan.site handle scope) node = ⟨requests, .ok code⟩) (plain : handle ≠ "Expression")
    {inner : String} (plain' : inner ≠ "Expression") :
    (Instruction.creation handle node.header (code inner)).construction? =
      some (node.header.uniqueId, (Visit.resolved ⟨generator, scope, node⟩ plan).map fun x => x.2.written) := by
  obtain ⟨type, tagged, rfl⟩ : ∃ type, BuiltinType.ofTag? node.header.type = some type ∧ type.generator = generator :=
    Registry.exists_ofTag?_of_find?_builtin (default ▸ known)
  obtain ⟨a, said⟩ := BuiltinType.drafted_of_eq_ok drafted
  have resolved : Visit.resolved ⟨type.generator, scope, node⟩ plan =
      (type.expressions a).map fun x => (x.1, (plan.site handle scope).resolved x.2) :=
    NodeHeader.resolved_eq tagged said.told
  rw [construction?, nodeId?_creation, resolved, List.map_map]
  exact congrArg (fun found => some (node.header.uniqueId, found)) (said.constructors_eq plain plain')

/-- **The nodes that a walk comes to construct their expressions**, in order. -/
theorem Walk.constructions_eq (default : plan.registry = .builtin) (walk : Walk plan handle scope nodes m out m')
    (plain : handle ≠ "Expression") :
    out.filterMap Instruction.construction? = (Node.visitsAll plan.registry scope nodes).map fun v =>
      (v.node.header.uniqueId, (v.resolved plan).map fun x => x.2.written) := by
  induction walk with
  | done => rfl
  | skip unknown rest ih =>
    rw [Node.visitsAll, Node.visits_of_unknown unknown, List.nil_append]
    exact ih plain
  | @leaf _ _ node _ m _ _ _ _ _ known closed drafted rest ih =>
    have plain' := m.freshHandle_ne_expression node.header
    rw [Node.visitsAll, Node.visits_of_closed known closed, List.map_append, ← ih plain]
    exact List.filterMap_cons_some (Instruction.construction?_creation default known drafted plain plain')
  | @composite handle inner _ _ header _ _ _ m _ _ _ _ _ _ code known opens nested drafted named within rest ihWithin
      ihRest =>
    have plain' : inner ≠ "Expression" := by
      rw [named]
      exact m.freshHandle_ne_expression header
    have creates : (Instruction.creation handle header (code inner)).construction? = some _ :=
      Instruction.construction?_creation default (by exact known) drafted plain plain'
    have closes : (Instruction.closing inner header).construction? = none := rfl
    rw [Node.visitsAll, Node.visits_composite known opens, List.cons_append, List.filterMap_cons_some creates]
    simp only [List.filterMap_append, filterMap_construction?_eq_nil (filterMap_nodeId?_declareVariables _),
      filterMap_construction?_eq_nil (filterMap_nodeId?_connect _), List.filterMap_cons_none closes,
      List.filterMap_nil, List.nil_append, List.append_nil, ihWithin plain', ihRest plain, List.map_append,
      List.cons_append, List.map_cons]

/-- **The nodes that are created construct their expressions**, in the order in which they are visited. -/
theorem constructions_of_generate {graph : ProcessGraph} {options : Options} {session : Session}
    (generated : generate graph .builtin options = .ok session) :
    session.body.constructions = (graph.visits .builtin).map fun v =>
      (v.node.header.uniqueId, (v.resolved (graph.plan options)).map fun x => x.2.written) := by
  obtain ⟨out, walk, body⟩ := generate_eq_ok_iff.1 generated
  rw [Body.constructions, body, List.filterMap_append, List.filterMap_append,
    filterMap_construction?_eq_nil (filterMap_nodeId?_declareVariables _),
    filterMap_construction?_eq_nil (filterMap_nodeId?_connect _), List.nil_append, List.append_nil]
  exact walk.constructions_eq rfl (by decide)

end Walks

end ProcessCompiler
