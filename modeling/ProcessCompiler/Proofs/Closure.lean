import ProcessCompiler.Proofs.Capture
import ProcessCompiler.Proofs.Coverage
import ProcessCompiler.Proofs.Vocabulary

/-!
# Generated programs are closed

A program that is generated with the default registry has everything that it uses: the types of its builders are
imported, each once and no others, and the helper that evaluates conditions is defined, once, exactly if there are
conditions.

* `Walk.reads`: a walk binds one builder for each node that it comes to, and imports the builder's type.
* `Walk.exists_evaluates`: a walk passes the helper only for nodes that have conditions evaluated.
* `closed_of_generate`: what a program imports, defines and binds.
-/

namespace ProcessCompiler

/-! ## Instructions that bind nothing -/

/-- A name that a builder gets has an underscore in it, and keywords have none. -/
theorem Metadata.freshHandle_notMem_keywords (m : Metadata) (node : NodeHeader) :
    m.freshHandle node.handleBase ∉ Code.keywords := by
  have plain : ∀ word ∈ Code.keywords, '_' ∉ word.toList := by decide
  exact fun keyword => plain _ keyword (underscore_mem_freshHandle m node)

/-- Instructions that all avoid a word. -/
theorem Code.Avoids.flatMap {key : String} {out : List Instruction} (avoid : ∀ i ∈ out, Code.Avoids key i.code) :
    Code.Avoids key (out.flatMap Instruction.code) := by
  induction out with
  | nil => exact .nil
  | cons i out ih =>
    obtain ⟨first, rest⟩ := List.forall_mem_cons.1 avoid
    exact .append first (ih rest)

section Enclosing

variable {key handle : String} (special : key ∈ Code.special) (other : key ≠ handle)

include special other

theorem avoids_of_mem_declareVariables {options : Options} {declarations : SortedMap Variable} {i : Instruction}
    (member : i ∈ declareVariables options handle declarations) : Code.Avoids key i.code := by
  obtain ⟨entry, _, rfl⟩ := List.mem_map.1 member
  exact avoids_declareVariable special other entry

theorem avoids_of_mem_connect {connections : List Connection} {i : Instruction}
    (member : i ∈ connections.map (connect handle)) : Code.Avoids key i.code := by
  obtain ⟨c, _, rfl⟩ := List.mem_map.1 member
  exact avoids_connect special other c

end Enclosing

section Reads

variable {handle : String} (plain : handle ∉ Code.keywords)

include plain

/-- Nothing is read off instructions that have no special word in them but the handle. -/
theorem reads_of_avoids {out : List Instruction}
    (avoid : ∀ key ∈ Code.special, key ≠ handle → ∀ i ∈ out, Code.Avoids key i.code) :
    Code.Reads (out.flatMap Instruction.code) [] [] [] := by
  apply Code.Reads.of_avoids
  intro key keyword
  apply Code.Avoids.flatMap
  exact avoid key (Code.mem_special_of_keyword keyword) (ne_of_mem_of_not_mem keyword plain)

theorem reads_declareVariables (options : Options) (declarations : SortedMap Variable) :
    Code.Reads ((declareVariables options handle declarations).flatMap Instruction.code) [] [] [] := by
  apply reads_of_avoids plain
  intro key special other i member
  exact avoids_of_mem_declareVariables special other member

theorem reads_connect (connections : List Connection) :
    Code.Reads ((connections.map (connect handle)).flatMap Instruction.code) [] [] [] := by
  apply reads_of_avoids plain
  intro key special other i member
  exact avoids_of_mem_connect special other member

theorem reads_closing (node : NodeHeader) :
    Code.Reads ([Instruction.closing handle node].flatMap Instruction.code) [] [] [] := by
  apply reads_of_avoids plain
  intro key special other i member
  rw [List.mem_singleton.1 member]
  exact avoids_doneCode special other

end Reads

/-! ## Builders that are bound -/

/-- The variable of a builder, with its type. -/
def builderBinding (b : String × BuiltinType) : String × String := (b.1, b.2.factoryType)

section Walks

variable {plan : Plan} {handle : String} {scope : ScopeId} {nodes : List Node} {m n : Metadata}
  {out : List Instruction}

/-- **A walk binds one builder for each node that it comes to, and imports the builder's type.** -/
theorem Walk.reads (uses : plan.registry.UsesBuiltins) (walk : Walk plan handle scope nodes m out n)
    (plain : handle ∉ Code.keywords) :
    ∃ builders : List (String × BuiltinType),
      Code.Reads (out.flatMap Instruction.code) [] [] (builders.map builderBinding) ∧
      introduced out = builders.map (·.1) ∧
      (Node.askedAll plan scope nodes).filterMap Request.import? =
        builders.map fun b => plan.options.runtimePath ("nodes::" ++ b.2.factoryType) := by
  induction walk with
  | done => exact ⟨[], .nil, rfl, rfl⟩
  | @skip _ _ node _ _ _ _ unknown rest ih =>
    obtain ⟨builders, reads, handles, imports⟩ := ih plain
    have skipped : (plan.skipRequests node.header).filterMap Request.import? = [] := by
      unfold Plan.skipRequests
      split <;> rfl
    refine ⟨builders, reads, handles, ?_⟩
    rw [Node.askedAll, Node.asked_of_unknown unknown, List.filterMap_append, skipped, imports]
    rfl
  | @leaf handle _ node _ m _ _ _ _ _ known closed drafted rest ih =>
    obtain ⟨builders, reads, handles, imports⟩ := ih plain
    have own := Visit.requests_of_drafted uses known drafted
    obtain ⟨type, a, rfl, said⟩ := uses.drafted known drafted
    have plain' := m.freshHandle_notMem_keywords node.header
    refine ⟨(m.freshHandle node.header.handleBase, type) :: builders, ?_, ?_, ?_⟩
    · exact (said.reads plain plain').append reads
    · rw [introduced_cons, Instruction.declares?_of_drafted said, handles]
      rfl
    · rw [Node.askedAll, Node.asked_of_closed known closed, own, List.filterMap_append, said.asked,
        BuiltinType.filterMap_import?_requests, imports]
      rfl
  | @composite handle inner _ own header _ _ connections m _ _ _ _ _ _ code known opens nested drafted named within
      rest ihWithin ihRest =>
    have plain' : inner ∉ Code.keywords := by
      rw [named]
      exact m.freshHandle_notMem_keywords header
    obtain ⟨builders, reads, handles, imports⟩ := ihWithin plain'
    obtain ⟨others, reads', handles', imports'⟩ := ihRest plain
    have asked := Visit.requests_of_drafted uses (by exact known) drafted
    obtain ⟨type, a, rfl, said⟩ := uses.drafted_composite known drafted
    refine ⟨(inner, type) :: (builders ++ others), ?_, ?_, ?_⟩
    · have created : Code.Reads (Instruction.creation handle header (code inner)).code [] []
          [(inner, type.factoryType)] := said.reads plain plain'
      have inside := (((reads_declareVariables plain' plan.options (plan.declarations own)).append reads).append
        (reads_connect plain' connections)).append (reads_closing plain' header)
      have whole := (created.append inside).append reads'
      simpa [builderBinding] using whole
    · simp [Instruction.declares?_of_drafted said, handles, handles']
    · rw [Node.askedAll, Node.asked_composite known opens, asked, List.filterMap_append, List.filterMap_append,
        said.asked, BuiltinType.filterMap_import?_requests, imports, imports']
      simp [Plan.site]

end Walks

/-! ## The helper that is passed -/

/-- A node whose builder gets the helper has conditions evaluated: a split that takes every branch has none. -/
theorem BuiltinType.evaluates_of_passesHelper {type : BuiltinType} {a : type.Attributes} {site : Site} {node : Node}
    {requests : List Request} {code : String → Code}
    (drafted : type.generator.draft site node = ⟨requests, .ok code⟩)
    (told : type.readAttributes node.header.attributes = .ok a) (passes : type.passesHelper a = true) :
    type.evaluates a = true := by
  cases type with
  | milestone => rfl
  | split =>
    have drafted : draftSplit site node.header = ⟨requests, .ok code⟩ := drafted
    obtain ⟨a', told', rest⟩ := Draft.of_attributes_bind .split drafted
    obtain rfl : a = a' := Except.ok.inj (told.symm.trans told')
    have conditions : SplitAttributes.constraints a ≠ [] := of_decide_eq_true passes
    split at rest
    · simp only [Draft.fail_eq_ok_iff] at rest
    next allowed =>
    apply decide_eq_true
    intro every
    exact allowed ⟨every, conditions⟩
  | _ => cases passes

section Helper

variable {plan : Plan} {handle : String} {scope : ScopeId} {nodes : List Node} {m n : Metadata}
  {out : List Instruction}

/-- No builder has the name of the helper, if there are no nodes of the one type that asks for it. -/
theorem Metadata.conditionHelper_ne_freshHandle (unknown : plan.registry.find? "eval" = none) (m : Metadata)
    {node : NodeHeader} {generator : Generator} (known : plan.registry.find? node.type = some generator) :
    conditionHelper ≠ m.freshHandle node.handleBase := by
  intro same
  obtain ⟨type, _⟩ := node.handleBase_eq_iff.1 (Metadata.eq_of_freshHandle_eq same.symm)
  rw [type, unknown] at known
  cases known

/-- A node that is drafted with the helper in its code has conditions evaluated. -/
theorem Visit.evaluates_of_drafted (uses : plan.registry.UsesBuiltins) {tag inner : String} {node : Node}
    {generator : Generator} {requests : List Request} {code : String → Code}
    (known : plan.registry.find? tag = some generator)
    (drafted : generator.draft (plan.site handle scope) node = ⟨requests, .ok code⟩)
    (other : conditionHelper ≠ handle) (other' : conditionHelper ≠ inner)
    (passed : conditionHelper ∈ (code inner).names) : Visit.Evaluates ⟨generator, scope, node⟩ := by
  obtain ⟨type, a, rfl, said⟩ := uses.drafted known drafted
  refine ⟨type, a, rfl, said.told, ?_⟩
  apply BuiltinType.evaluates_of_passesHelper drafted said.told
  by_contra needless
  exact said.avoids_conditionHelper other other' (by simpa using needless) passed

/-- **A walk passes the helper only for nodes that have conditions evaluated**, if no builder has its name. -/
theorem Walk.exists_evaluates (uses : plan.registry.UsesBuiltins) (unknown : plan.registry.find? "eval" = none)
    (walk : Walk plan handle scope nodes m out n) (other : conditionHelper ≠ handle) :
    ∀ i ∈ out, conditionHelper ∈ i.code.names →
      ∃ v ∈ Node.visitsAll plan.registry scope nodes, v.Evaluates := by
  have special : conditionHelper ∈ Code.special := List.mem_cons_self
  induction walk with
  | done =>
    intro i member
    cases member
  | skip skipped rest ih =>
    rw [Node.visitsAll, Node.visits_of_unknown skipped]
    exact ih other
  | @leaf _ _ node _ m _ _ _ _ _ known closed drafted rest ih =>
    rw [Node.visitsAll, Node.visits_of_closed known closed]
    intro i member passed
    rcases List.mem_cons.1 member with rfl | member
    · have other' := m.conditionHelper_ne_freshHandle unknown known
      exact ⟨_, List.mem_cons_self, Visit.evaluates_of_drafted uses known drafted other other' passed⟩
    · obtain ⟨v, visited, evaluates⟩ := ih other i member passed
      exact ⟨v, List.mem_cons_of_mem _ visited, evaluates⟩
  | @composite _ inner _ own header _ _ connections m _ _ _ _ _ _ _ known opens nested drafted named within rest
      ihWithin ihRest =>
    have other' : conditionHelper ≠ inner := by
      rw [named]
      exact m.conditionHelper_ne_freshHandle unknown known
    rw [Node.visitsAll, Node.visits_composite known opens]
    intro i member passed
    simp only [List.cons_append, List.mem_cons, List.mem_append, List.not_mem_nil, or_false] at member
    rcases member with rfl | (((declares | inside) | connects) | rfl) | beside
    · exact ⟨_, List.mem_cons_self, Visit.evaluates_of_drafted uses known drafted other other' passed⟩
    · exact absurd passed (avoids_of_mem_declareVariables special other' declares)
    · obtain ⟨v, visited, evaluates⟩ := ihWithin other' i inside passed
      exact ⟨v, List.mem_cons_of_mem _ (List.mem_append_left _ visited), evaluates⟩
    · exact absurd passed (avoids_of_mem_connect special other' connects)
    · exact absurd passed (avoids_doneCode special other')
    · obtain ⟨v, visited, evaluates⟩ := ihRest other i beside passed
      exact ⟨v, List.mem_cons_of_mem _ (List.mem_append_right _ visited), evaluates⟩

end Helper

/-! ## Imports and helpers -/

/-- The name of the library is no double colon. -/
theorem Options.runtimeName_ne_colons (options : Options) : options.runtimeName ≠ "::" := by
  intro same
  have name := Identifier.isIdentifier_sanitize options.runtime
  rw [show Identifier.sanitize options.runtime = "::" from same] at name
  exact absurd name (by decide)

/-- An import of a path with three names. -/
theorem reads_use {first second last : String} (notColons : first ≠ "::") (ordinary : second ∉ Code.special)
    (ordinary' : last ∉ Code.special) :
    Code.Reads (.word "use" :: (Code.path [first, second, last] ++ [.word ";"])) [[first, second, last]] [] [] := by
  have path : Code.Reads (Code.path [first, second, last] ++ [.word ";"]) [] [] [] := by
    apply Code.Reads.of_avoids
    intro key keyword
    have special := Code.mem_special_of_keyword keyword
    apply Code.Avoids.append (.path special (by simp) (by simp [ordinary, ordinary']))
    exact .cons (Code.Avoids.ne_of_special special (by decide)) .nil
  have ends : ∀ rest, Code.goesOn (Code.path [first, second, last] ++ [.word ";"] ++ rest) = false :=
    fun rest => decide_eq_false notColons
  have read : ∀ rest, Code.path? (Code.path [first, second, last] ++ [.word ";"] ++ rest) =
      some [first, second, last] := fun rest => rfl
  exact path.use ends read

-- The library may have a keyword as its name.
example : Code.uses (.word "use" :: (Code.path ["use", "nodes", "JoinFactory"] ++ [.word ";"])) =
    [["use", "nodes", "JoinFactory"]] := by decide

/-- What is imported for a builder. -/
theorem reads_importCode (options : Options) (type : BuiltinType) :
    Code.Reads (importCode (options.runtimePath ("nodes::" ++ type.factoryType)))
      [[options.runtimeName, "nodes", type.factoryType]] [] [] := by
  have allowed : Code.Reads [.word "#",
      .group .square (.word "allow" :: Code.arguments [Code.words ["unused_imports"]])] [] [] [] := by
    apply Code.Reads.of_avoids
    decide
  rw [importCode, importNames?_builder]
  exact allowed.append
    (reads_use options.runtimeName_ne_colons (by decide) type.factoryType_notMem_special)

/-- What is imported for all builders. -/
theorem reads_imports {options : Options} {paths : List String}
    (builders : ∀ path ∈ paths, ∃ type : BuiltinType, path = options.runtimePath ("nodes::" ++ type.factoryType)) :
    Code.Reads (paths.flatMap importCode) (paths.filterMap importNames?) [] [] := by
  induction paths with
  | nil => exact .nil
  | cons path paths ih =>
    obtain ⟨⟨type, rfl⟩, rest⟩ := List.forall_mem_cons.1 builders
    rw [List.flatMap_cons, List.filterMap_cons_some (importNames?_builder options type)]
    exact (reads_importCode options type).append (ih rest)

/-- The helper that evaluates conditions is one function. -/
theorem reads_conditionHelperCode (options : Options) :
    ∃ content, Code.Reads (conditionHelperCode options) [] [(conditionHelper, content)] [] := by
  have behind : ∀ key ∈ Code.keywords, Code.Avoids key (conditionHelperCode options).tail := by
    intro key keyword
    have special := Code.mem_special_of_keyword keyword
    have ne {text : String} (ordinary : text ∉ Code.keywords) : key ≠ text := ne_of_mem_of_not_mem keyword ordinary
    have result : Code.Avoids key (Code.words ["|", "value", "|", "value"] ++ Code.method "as_bool" []) :=
      .append (.words special (by decide)) (.method special (ne (by decide)) (by simp))
    refine .cons (ne (by decide)) (.group ?_ (.cons (ne (by decide)) (.cons (ne (by decide)) (.group ?_ .nil))))
    · refine .append (.append (.append ?_ ?_) ?_) ?_
      · exact .words special (by decide)
      · exact .path special (by simp) (by decide)
      · exact .words special (by decide)
      · exact .path special (by simp) (by decide)
    · refine .cons (ne (by decide)) (.append (.append (.append ?_ ?_) ?_) ?_)
      · exact .method special (ne (by decide)) (List.forall_mem_singleton.2 (.words special (by decide)))
      · exact .method special (ne (by decide)) (by simp)
      · exact .method special (ne (by decide)) (List.forall_mem_singleton.2 result)
      · exact .method special (ne (by decide)) (List.forall_mem_singleton.2 (.bool special false))
  exact ⟨_, (Code.Reads.of_avoids behind).function (fun _ => rfl) fun _ => rfl⟩

/-! ## The function that builds the process -/

/-- The statements that create the factory of a process. -/
def openingCode (graph : ProcessGraph) : Code :=
  Code.words ["let", "mut", rootHandle, "="] ++ Code.path ["ProcessFactory", "new"] ++
    Code.arguments [Code.string graph.id] ++ [.word ";"] ++
    Code.callOption rootHandle "name" graph.name ++ Code.callOption rootHandle "version" graph.version

/-- The expression that finishes a process. -/
def finishingCode : Code := .word rootHandle :: Code.method "validate" [] ++ Code.method "build" []

theorem reads_openingCode (graph : ProcessGraph) : Code.Reads (openingCode graph) [] [] [] := by
  have behind : ∀ key ∈ Code.keywords, Code.Avoids key (openingCode graph).tail := by
    intro key keyword
    have special := Code.mem_special_of_keyword keyword
    have ne {text : String} (ordinary : text ∉ Code.keywords) : key ≠ text := ne_of_mem_of_not_mem keyword ordinary
    refine .append (.append (.append (.append (.append ?_ ?_) ?_) ?_) ?_) ?_
    · exact .words special (by decide)
    · exact .path special (by simp) (by decide)
    · exact .argument special (.string _)
    · exact .cons (ne (by decide)) .nil
    · exact .callOption special (ne (by decide)) (ne (by decide))
    · exact .callOption special (ne (by decide)) (ne (by decide))
  have untyped : ∀ rest, Code.binding? ((openingCode graph).tail ++ rest) = none := fun _ => rfl
  exact (Code.Reads.of_avoids behind).binding (fun _ => rfl) untyped

theorem reads_finishingCode : Code.Reads finishingCode [] [] [] := .of_avoids (by decide)

/-- The statements of the function that builds the process. -/
def processCode (graph : ProcessGraph) (body : Body) : Code := openingCode graph ++ body.code ++ finishingCode

theorem createProcessCode_eq (graph : ProcessGraph) (body : Body) : createProcessCode graph body =
    .word "#" :: .group .square (Code.words ["doc", "=", "r\" Build the process definition.\""]) :: .word "pub" ::
      .word "fn" :: .word "create_process" :: .group .round [] :: .word "->" :: .word "Process" ::
        [.group .curly (processCode graph body)] := by
  have content : processCode graph body = Code.words ["let", "mut", rootHandle, "="] ++
      Code.path ["ProcessFactory", "new"] ++ Code.arguments [Code.string graph.id] ++ [.word ";"] ++
      Code.callOption rootHandle "name" graph.name ++ Code.callOption rootHandle "version" graph.version ++
      body.code ++ .word rootHandle :: Code.method "validate" [] ++ Code.method "build" [] := by
    rw [processCode, openingCode, finishingCode, ← List.append_assoc]
  rw [createProcessCode, ← content]
  rfl

/-- **The function that builds the process** is one function, which binds what its body does. -/
theorem reads_createProcessCode {graph : ProcessGraph} {body : Body} {bindings : List (String × String)}
    (reads : Code.Reads body.code [] [] bindings) :
    Code.Reads (createProcessCode graph body) [] [("create_process", processCode graph body)] bindings := by
  have content : Code.Reads (processCode graph body) [] [] (bindings ++ []) :=
    ((reads_openingCode graph).append reads).append reads_finishingCode
  rw [List.append_nil] at content
  have heading : Code.Reads [.word "create_process", .group .round [], .word "->", .word "Process"] [] [] [] :=
    .of_avoids (by decide)
  have opening : Code.Reads [.word "#",
      .group .square (Code.words ["doc", "=", "r\" Build the process definition.\""]), .word "pub"] [] [] [] :=
    .of_avoids (by decide)
  rw [createProcessCode_eq]
  exact opening.append ((heading.append (content.group .curly)).function (fun _ => rfl) fun _ => rfl)

/-! ## Whole programs -/

section Programs

variable {graph : ProcessGraph} {registry : Registry} {options : Options} {session : Session}

/-- **A body binds its builders**, and what is imported are their types. -/
theorem reads_body (uses : registry.UsesBuiltins) (generated : generate graph registry options = .ok session) :
    ∃ builders : List (String × BuiltinType),
      Code.Reads session.body.code [] [] (builders.map builderBinding) ∧
      introduced session.body.instructions = builders.map (·.1) ∧
      ∀ path, path ∈ session.metadata.imports.toList ↔
        ∃ b ∈ builders, path = options.runtimePath ("nodes::" ++ b.2.factoryType) := by
  have plain : rootHandle ∉ Code.keywords := by decide
  obtain ⟨out, walk, body⟩ := generate_eq_ok_iff.1 generated
  obtain ⟨builders, reads, handles, imports⟩ := walk.reads uses plain
  refine ⟨builders, ?_, ?_, ?_⟩
  · have whole := ((reads_declareVariables plain options (Plan.declarations ⟨registry, options, graph.scopes⟩
      ProcessGraph.rootScope)).append reads).append (reads_connect plain graph.connections)
    rw [Body.code, body, List.flatMap_append, List.flatMap_append]
    simpa using whole
  · rw [body]
    simpa using handles
  · intro path
    rw [metadata_of_generate uses generated, Metadata.mem_imports_grantAll, imports,
      or_iff_right (by exact List.not_mem_nil), List.mem_map]
    simp only [eq_comm]

/-- The helpers of a graph are at most one function. -/
theorem reads_helpers (uses : registry.UsesBuiltins) (generated : generate graph registry options = .ok session) :
    ∃ helpers, Code.Reads (session.metadata.helpers.entries.flatMap (·.2)) [] helpers [] ∧
      ((∃ v ∈ graph.visits registry, v.Evaluates) → helpers.map (·.1) = [conditionHelper]) ∧
      ((¬ ∃ v ∈ graph.visits registry, v.Evaluates) → helpers.map (·.1) = []) := by
  by_cases needed : ∃ v ∈ graph.visits registry, v.Evaluates
  · obtain ⟨content, reads⟩ := reads_conditionHelperCode options
    refine ⟨[(conditionHelper, content)], ?_, fun _ => rfl, fun needless => absurd needed needless⟩
    rw [helpers_of_evaluates uses generated needed, List.flatMap_singleton]
    exact reads
  · refine ⟨[], ?_, fun needed' => absurd needed' needed, fun _ => rfl⟩
    rw [helpers_of_not_evaluates uses generated needed]
    exact .nil

end Programs

section Closure

variable {graph : ProcessGraph} {options : Options} {session : Session}

/-- A program is read off its imports, its helpers and its body. -/
theorem reads_programCode (graph : ProcessGraph) {helpers : List (String × Code)} {bindings : List (String × String)}
    (imports : ∀ path ∈ session.metadata.imports.toList,
      ∃ type : BuiltinType, path = options.runtimePath ("nodes::" ++ type.factoryType))
    (helps : Code.Reads (session.metadata.helpers.entries.flatMap (·.2)) [] helpers [])
    (binds : Code.Reads session.body.code [] [] bindings) :
    Code.Reads (programCode graph session options)
      ([options.runtimeName, "prelude", "*"] :: session.metadata.imports.toList.filterMap importNames?)
      (helpers ++ [("create_process", processCode graph session.body)]) bindings := by
  have prelude : Code.Reads (.word "use" :: (Code.path [options.runtimeName, "prelude", "*"] ++ [.word ";"]))
      [[options.runtimeName, "prelude", "*"]] [] [] :=
    reads_use options.runtimeName_ne_colons (by decide) (by decide)
  have process : Code.Reads (createProcessCode graph session.body) []
      [("create_process", processCode graph session.body)] bindings := reads_createProcessCode binds
  have whole := ((prelude.append (reads_imports imports)).append helps).append process
  rw [List.append_nil, List.append_nil] at whole
  exact whole

/-- Whether a node has conditions evaluated when the process runs: a milestone, or a split that may leave branches
out. -/
def NodeHeader.EvaluatesConditions (node : NodeHeader) : Prop :=
  node.type = "milestone" ∨ node.type = "split" ∧ ∃ a : SplitAttributes,
    BuiltinType.readAttributes .split node.attributes = .ok a ∧ (a.kind = .xor ∨ a.kind = .or)

/-- With the default registry, the type of a node tells whether its conditions are evaluated. -/
theorem Visit.evaluates_iff (generated : generate graph .builtin options = .ok session) {v : Visit}
    (member : v ∈ graph.visits .builtin) : v.Evaluates ↔ v.node.header.EvaluatesConditions := by
  have uses := Registry.usesBuiltins_builtin
  obtain ⟨around, _, _, _, known⟩ := ProcessGraph.mem_visits_iff.1 member
  obtain ⟨type, tagged, builtin⟩ := Registry.exists_ofTag?_of_find?_builtin known
  obtain ⟨a, told, asked⟩ := requests_of_mem_visits uses generated member builtin.symm
  have own : v.Evaluates ↔ type.evaluates a = true := by
    constructor
    · rintro evaluates
      have helper := (mem_helpers_requests_iff uses generated member _).2 ⟨rfl, evaluates⟩
      rw [asked, BuiltinType.filterMap_helper?_requests] at helper
      by_contra needless
      rw [if_neg needless] at helper
      cases helper
    · intro evaluates
      exact ⟨type, a, builtin.symm, told, evaluates⟩
  have tag := BuiltinType.ofTag?_eq_some_iff.1 tagged
  rw [own, NodeHeader.EvaluatesConditions, ← tag]
  cases type with
  | milestone => simp [BuiltinType.evaluates, BuiltinType.tag]
  | split =>
    have partly : BuiltinType.evaluates .split a = true ↔
        SplitAttributes.kind a = .xor ∨ SplitAttributes.kind a = .or := by
      cases kind : SplitAttributes.kind a <;> simp [BuiltinType.evaluates, kind]
    rw [partly]
    constructor
    · intro kind
      exact .inr ⟨rfl, a, told, kind⟩
    · rintro (other | ⟨_, a', told', kind⟩)
      · exact absurd other (by decide)
      · obtain rfl : a = a' := Except.ok.inj (told.symm.trans told')
        exact kind
  | _ => simp [BuiltinType.evaluates, BuiltinType.tag]

/-- Whether a node is created that has conditions evaluated. -/
def Session.NeedsHelper (graph : ProcessGraph) (session : Session) : Prop :=
  ∃ node ∈ Node.flattenAll graph.nodes,
    node.header.uniqueId ∈ session.body.nodeIds ∧ node.header.EvaluatesConditions

/-- The helper is needed for the nodes that a walk comes to. -/
theorem needsHelper_iff {d : ProcessDefinition} (accepted : ProcessGraph.ofDefinition d = .ok graph)
    (generated : generate graph .builtin options = .ok session) :
    session.NeedsHelper graph ↔ ∃ v ∈ graph.visits .builtin, v.Evaluates := by
  have nodes : ∀ v ∈ graph.visits .builtin, v.node ∈ Node.flattenAll graph.nodes := by
    intro v member
    exact Node.visitsAll_sublist.subset (List.mem_map_of_mem member)
  have ids := nodeIds_of_generate generated
  constructor
  · rintro ⟨node, among, created, evaluates⟩
    rw [ids] at created
    obtain ⟨v, member, same⟩ := List.mem_map.1 created
    obtain ⟨_, _, _, built⟩ := built_of_ofDefinition accepted
    obtain rfl := Node.eq_of_uniqueId_eq built.nodup_uniqueIds (nodes v member) among same
    exact ⟨v, member, (Visit.evaluates_iff generated member).2 evaluates⟩
  · rintro ⟨v, member, evaluates⟩
    refine ⟨v.node, nodes v member, ?_, (Visit.evaluates_iff generated member).1 evaluates⟩
    rw [ids]
    exact List.mem_map_of_mem member

theorem NameSet.nodup_toList (names : NameSet) : names.toList.Nodup := SortedMap.nodup_keys names

/-- Different builders' types are imported under different names. -/
theorem nodup_filterMap_importNames? {paths : List String} (distinct : paths.Nodup)
    (builders : ∀ path ∈ paths, ∃ type : BuiltinType, path = options.runtimePath ("nodes::" ++ type.factoryType)) :
    (paths.filterMap importNames?).Nodup := by
  apply List.pairwise_filterMap.2
  apply distinct.imp_of_mem
  intro path other member member' apart names found names' found' same
  obtain ⟨type, rfl⟩ := builders path member
  obtain ⟨type', rfl⟩ := builders other member'
  rw [importNames?_builder, Option.some.injEq] at found found'
  subst found found'
  simp only [List.cons.injEq, and_true, true_and] at same
  rw [same] at apart
  exact apart rfl

/-- What is imported under names are the types of builders. -/
theorem mem_filterMap_importNames?_iff {builders : List (String × BuiltinType)} {paths : List String}
    (imported : ∀ path, path ∈ paths ↔ ∃ b ∈ builders, path = options.runtimePath ("nodes::" ++ b.2.factoryType))
    (names : List String) : names ∈ paths.filterMap importNames? ↔
      ∃ b ∈ builders, names = [options.runtimeName, "nodes", b.2.factoryType] := by
  rw [List.mem_filterMap]
  constructor
  · rintro ⟨path, member, found⟩
    obtain ⟨b, built, rfl⟩ := (imported path).1 member
    rw [importNames?_builder] at found
    exact ⟨b, built, (Option.some.inj found).symm⟩
  · rintro ⟨b, built, rfl⟩
    exact ⟨_, (imported _).2 ⟨b, built, rfl⟩, importNames?_builder options b.2⟩

theorem find?_builtin_eval : Registry.builtin.find? "eval" = none := by
  rw [Registry.find?_builtin]
  rfl

/-- With the default registry, no builder has the name of the helper. -/
theorem conditionHelper_notMem_introduced (generated : generate graph .builtin options = .ok session) :
    conditionHelper ∉ introduced session.body.instructions := by
  obtain ⟨out, walk, body⟩ := generate_eq_ok_iff.1 generated
  intro member
  obtain ⟨i, listed, declares⟩ := List.mem_filterMap.1 member
  rw [body] at listed
  rcases mem_enclosed listed with inside | ⟨_, nothing⟩
  · obtain ⟨_, known⟩ := walk.kind_of_declares Registry.usesBuiltins_builtin inside declares
    rw [find?_builtin_eval] at known
    cases known
  · rw [nothing] at declares
    cases declares

/-- An instruction has the name of the helper in its code only if the helper is needed. -/
theorem needsHelper_of_mem_names {d : ProcessDefinition} (accepted : ProcessGraph.ofDefinition d = .ok graph)
    (generated : generate graph .builtin options = .ok session) {i : Instruction}
    (member : i ∈ session.body.instructions) (named : conditionHelper ∈ i.code.names) : session.NeedsHelper graph := by
  have special : conditionHelper ∈ Code.special := List.mem_cons_self
  have other : conditionHelper ≠ rootHandle := by decide
  obtain ⟨out, walk, body⟩ := generate_eq_ok_iff.1 generated
  rw [body, List.mem_append, List.mem_append] at member
  rcases member with (declares | inside) | connects
  · exact absurd named (avoids_of_mem_declareVariables special other declares)
  · apply (needsHelper_iff accepted generated).2
    exact walk.exists_evaluates Registry.usesBuiltins_builtin find?_builtin_eval other i inside named
  · exact absurd named (avoids_of_mem_connect special other connects)

/-- **What a program needs, it has.** Here code is read at every depth: paths that are imported, functions that are
defined, and variables that are bound with their types. -/
structure ClosedProgram (graph : ProcessGraph) (options : Options) (session : Session) : Prop where
  /-- Of all builders, each has its handle bound. -/
  bound : (programCode graph session options).bindings.map (·.1) = introduced session.body.instructions
  /-- The type of each builder is imported once. -/
  imported : ∀ b ∈ (programCode graph session options).bindings,
    (programCode graph session options).uses.count [options.runtimeName, "nodes", b.2] = 1
  /-- Nothing else is imported but the prelude of the library. -/
  needed : ∀ path ∈ (programCode graph session options).uses,
    path = [options.runtimeName, "prelude", "*"] ∨
      ∃ b ∈ (programCode graph session options).bindings, path = [options.runtimeName, "nodes", b.2]
  /-- The helper that evaluates conditions is defined once, where a created node has conditions evaluated. -/
  helped : session.NeedsHelper graph →
    (programCode graph session options).functions.map (·.1) = [conditionHelper, "create_process"]
  /-- Else it is not defined. -/
  unhelped : ¬ session.NeedsHelper graph →
    (programCode graph session options).functions.map (·.1) = ["create_process"]
  /-- An instruction that passes the helper to a call has it defined. -/
  passed : ∀ i ∈ session.body.instructions, ∀ before handle method pieces after,
    i.code = before ++ Code.call handle method pieces ++ after → Code.words [conditionHelper] ∈ pieces →
      ((programCode graph session options).functions.map (·.1)).count conditionHelper = 1
  /-- So has one with its name anywhere in the code. -/
  mentioned : ∀ i ∈ session.body.instructions, conditionHelper ∈ i.code.names →
    ((programCode graph session options).functions.map (·.1)).count conditionHelper = 1
  /-- The name of the helper is that of no builder. -/
  apart : ∀ b ∈ (programCode graph session options).bindings, b.1 ≠ conditionHelper
  /-- The code of the instructions stands, in their order, between the start and the end of one function. -/
  built : ("create_process", openingCode graph ++ session.body.instructions.flatMap Instruction.code ++ finishingCode) ∈
    (programCode graph session options).functions

/-- **Generated programs are closed**, with the default registry. -/
theorem closed_of_generate {d : ProcessDefinition} (accepted : ProcessGraph.ofDefinition d = .ok graph)
    (generated : generate graph .builtin options = .ok session) : ClosedProgram graph options session := by
  have uses := Registry.usesBuiltins_builtin
  obtain ⟨builders, binds, handles, imported⟩ := reads_body uses generated
  obtain ⟨helpers, helps, some, none⟩ := reads_helpers uses generated
  have imports : ∀ path ∈ session.metadata.imports.toList,
      ∃ type : BuiltinType, path = options.runtimePath ("nodes::" ++ type.factoryType) := by
    intro path member
    obtain ⟨b, _, same⟩ := (imported path).1 member
    exact ⟨b.2, same⟩
  obtain ⟨paths, functions, bindings⟩ := (reads_programCode graph imports helps binds).alone
  have distinct := nodup_filterMap_importNames? session.metadata.imports.nodup_toList imports
  have listed := mem_filterMap_importNames?_iff imported
  have defined : session.NeedsHelper graph →
      (programCode graph session options).functions.map (·.1) = [conditionHelper, "create_process"] := by
    intro needs
    rw [functions, List.map_append, some ((needsHelper_iff accepted generated).1 needs)]
    rfl
  have mentioned : ∀ i ∈ session.body.instructions, conditionHelper ∈ i.code.names →
      ((programCode graph session options).functions.map (·.1)).count conditionHelper = 1 := by
    intro i member named
    rw [defined (needsHelper_of_mem_names accepted generated member named)]
    decide
  have bound : (programCode graph session options).bindings.map (·.1) = introduced session.body.instructions := by
    rw [bindings, handles, List.map_map]
    rfl
  exact {
    bound := bound
    imported := by
      intro b member
      rw [bindings] at member
      obtain ⟨builder, among, rfl⟩ := List.mem_map.1 member
      rw [paths, List.count_cons_of_ne (by simp)]
      exact List.count_eq_one_of_mem distinct ((listed _).2 ⟨builder, among, rfl⟩)
    needed := by
      intro path member
      rw [paths, List.mem_cons] at member
      apply member.imp_right
      intro among
      obtain ⟨builder, built, rfl⟩ := (listed path).1 among
      rw [bindings]
      exact ⟨_, List.mem_map_of_mem built, rfl⟩
    helped := defined
    unhelped := by
      intro needless
      rw [functions, List.map_append, none (fun needed => needless ((needsHelper_iff accepted generated).2 needed))]
      rfl
    passed := by
      intro i member before handle method pieces after shape argument
      apply mentioned i member
      rw [shape]
      exact Code.mem_names_of_passed argument
    mentioned := mentioned
    apart := by
      intro b member same
      apply conditionHelper_notMem_introduced generated
      rw [← bound, ← same]
      exact List.mem_map_of_mem member
    built := by
      rw [functions]
      exact List.mem_append_right _ (List.mem_singleton_self _) }

end Closure

/-- A process with a split on a variable, and a milestone in a sub-process. -/
def branchingDefinition : ProcessDefinition where
  id := "orders"
  name := some "Orders"
  version := none
  declarations := .ofList [("paid", ⟨.boolean, none, none⟩)]
  nodes := [
    ⟨"route", "split", none, .ofList [("kind", .string "xor"), ("constraints", .array [.object [("to", .string "ship"),
      ("expr", .string "paid")]])], none, none, []⟩,
    ⟨"ship", "sub", none, .ofList [], none, some [⟨"sent", "milestone", none,
      .ofList [("condition", .string "paid")], none, none, []⟩], []⟩]
  connections := [⟨"route", "ship", none⟩]

/-- The split and the milestone get the helper, the sub-process does not. -/
theorem closed_of_generate_branching : ∃ graph session,
    ProcessGraph.ofDefinition branchingDefinition = .ok graph ∧ generate graph .builtin .default = .ok session ∧
      introduced session.body.instructions = ["split_route", "sub_ship", "milestone_ship_sent"] ∧
      (session.body.instructions.countP fun i => conditionHelper ∈ i.code.names) = 2 ∧
      ClosedProgram graph .default session := by
  have read : (branchingDefinition.session? .builtin .default).map (fun session =>
      (introduced session.body.instructions, session.body.instructions.countP fun i =>
        conditionHelper ∈ i.code.names)) = some (["split_route", "sub_ship", "milestone_ship_sent"], 2) := by
    decide +kernel
  obtain ⟨session, found, same⟩ := Option.map_eq_some_iff.1 read
  obtain ⟨graph, accepted, generated⟩ := ProcessDefinition.session?_eq_some_iff.1 found
  obtain ⟨handles, passed⟩ := Prod.mk.inj same
  exact ⟨graph, session, accepted, generated, handles, passed, closed_of_generate accepted generated⟩

end ProcessCompiler
