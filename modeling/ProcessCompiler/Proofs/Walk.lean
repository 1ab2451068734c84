import ProcessCompiler.Generation

/-!
# Walks

What the generation of nodes does, as a relation: `Walk plan handle scope nodes m out m'` says that the nodes of a graph
with a handle and a scope emit the instructions `out` and turn the metadata `m` into `m'`. It has one constructor for
each thing that can happen to a node, so that what holds of every body is shown by induction on the walk.

* `Generator.draft`: what a generator makes of a node itself, whatever kind of generator it is.
* `run_emitNodes_eq_ok_iff`: the steps that run succeed exactly along a walk.
* `generate_eq_ok_iff`: the same for a whole graph.
-/

namespace ProcessCompiler

/-! ## The pieces of a step -/

/-- Does what is requested, in order. -/
def Metadata.grantAll (m : Metadata) (requests : List Request) : Metadata := requests.foldl Metadata.grant m

@[simp] theorem Metadata.grantAll_nil (m : Metadata) : m.grantAll [] = m := rfl

@[simp] theorem Metadata.grantAll_cons (m : Metadata) (r : Request) (requests : List Request) :
    m.grantAll (r :: requests) = (m.grant r).grantAll requests := rfl

theorem Metadata.grantAll_append (m : Metadata) (requests more : List Request) :
    m.grantAll (requests ++ more) = (m.grantAll requests).grantAll more := List.foldl_append

namespace Generator

/-- Whether a generator goes on with what is inside a node. -/
def opens : Generator → Bool
  | .composite _ => true
  | _ => false

/-- What a generator makes of a node itself, as code that waits for the handle of the node's builder. -/
def draft (generator : Generator) (site : Site) (node : Node) : Draft (String → Code) :=
  match generator with
  | .statement draft => (fun code _ => code) <$> draft site node.header
  | .builder draft => draft site node.header
  | .composite draft =>
    match node with
    | .plain _ => .fail noChildren
    | .composite header own _ _ => draft site header own

/-- Only composite nodes are opened. -/
theorem composite_of_draft_eq_ok {generator : Generator} {site : Site} {node : Node} {requests : List Request}
    {code : String → Code} (opens : generator.opens = true) (h : generator.draft site node = ⟨requests, .ok code⟩) :
    ∃ header own children connections, node = .composite header own children connections := by
  cases generator with
  | statement draft => cases opens
  | builder draft => cases opens
  | composite draft =>
    cases node with
    | plain header => cases h
    | composite header own children connections => exact ⟨header, own, children, connections, rfl⟩

end Generator

namespace Plan

/-- Where the nodes of a graph with a handle and a scope are compiled. -/
def site (plan : Plan) (handle : String) (scope : ScopeId) : Site := ⟨plan.options, plan.scopes, handle, scope⟩

/-- The variables declared in a scope. -/
def declarations (plan : Plan) (scope : ScopeId) : SortedMap Variable :=
  ((plan.scopes.get? scope).map Scope.declarations).getD .empty

theorem declarations_of_get? (plan : Plan) {id : ScopeId} {scope : Scope} (found : plan.scopes.get? id = some scope) :
    plan.declarations id = scope.declarations := by
  rw [declarations, found]
  rfl

/-- What is kept of a node that is left out. -/
def skipRequests (plan : Plan) (node : NodeHeader) : List Request :=
  if plan.options.diagnostics then [.diagnostic ⟨node.uniqueId, node.type, .unsupportedType⟩] else []

end Plan

namespace Instruction

/-- The instruction that creates a node. -/
def creation (handle : String) (node : NodeHeader) (code : Code) : Instruction :=
  ⟨.node node.uniqueId node.type, handle, code⟩

/-- The instruction that closes a composite node. -/
def closing (handle : String) (node : NodeHeader) : Instruction := ⟨.close node.uniqueId, handle, doneCode handle⟩

end Instruction

/-! ## The relation -/

/-- **Walks over the nodes of a graph.** -/
inductive Walk (plan : Plan) : String → ScopeId → List Node → Metadata → List Instruction → Metadata → Prop
  | done {handle : String} {scope : ScopeId} {m : Metadata} : Walk plan handle scope [] m [] m
  | skip {handle : String} {scope : ScopeId} {node : Node} {nodes : List Node} {m m' : Metadata}
      {out : List Instruction} (unknown : plan.registry.find? node.header.type = none)
      (rest : Walk plan handle scope nodes (m.grantAll (plan.skipRequests node.header)) out m') :
      Walk plan handle scope (node :: nodes) m out m'
  | leaf {handle : String} {scope : ScopeId} {node : Node} {nodes : List Node} {m m' : Metadata}
      {out : List Instruction} {generator : Generator} {requests : List Request} {code : String → Code}
      (known : plan.registry.find? node.header.type = some generator) (closed : generator.opens = false)
      (drafted : generator.draft (plan.site handle scope) node = ⟨requests, .ok code⟩)
      (rest : Walk plan handle scope nodes (m.grantAll requests) out m') :
      Walk plan handle scope (node :: nodes) m
        (.creation handle node.header (code (m.freshHandle node.header.handleBase)) :: out) m'
  | composite {handle inner : String} {scope own : ScopeId} {header : NodeHeader} {children nodes : List Node}
      {connections : List Connection} {m middle m' : Metadata} {inside out : List Instruction}
      {generator : Generator} {requests : List Request} {code : String → Code}
      (known : plan.registry.find? header.type = some generator) (opens : generator.opens = true)
      (nested : plan.scopes.parent? own = some scope)
      (drafted : generator.draft (plan.site handle scope) (.composite header own children connections) =
        ⟨requests, .ok code⟩)
      (named : inner = m.freshHandle header.handleBase)
      (within : Walk plan inner own children (m.grantAll requests) inside middle)
      (rest : Walk plan handle scope nodes middle out m') :
      Walk plan handle scope (.composite header own children connections :: nodes) m
        (.creation handle header (code inner) :: (declareVariables plan.options inner (plan.declarations own) ++
          inside ++ connections.map (connect inner) ++ [.closing inner header]) ++ out) m'

/-! ## Walks taken apart -/

namespace Walk

variable {plan : Plan} {handle : String} {scope : ScopeId} {node : Node} {nodes : List Node} {m m' : Metadata}
  {out : List Instruction} {generator : Generator}

/-- A walk goes on behind a node of unknown type. -/
theorem of_unknown (walk : Walk plan handle scope (node :: nodes) m out m')
    (unknown : plan.registry.find? node.header.type = none) :
    Walk plan handle scope nodes (m.grantAll (plan.skipRequests node.header)) out m' := by
  cases walk with
  | skip _ rest => exact rest
  | leaf known => cases known.symm.trans unknown
  | composite known => cases known.symm.trans unknown

/-- A walk creates a node that it does not enter, and goes on behind it. -/
theorem of_closed (walk : Walk plan handle scope (node :: nodes) m out m')
    (known : plan.registry.find? node.header.type = some generator) (closed : generator.opens = false) :
    ∃ requests code more, generator.draft (plan.site handle scope) node = ⟨requests, .ok code⟩ ∧
      out = .creation handle node.header (code (m.freshHandle node.header.handleBase)) :: more ∧
        Walk plan handle scope nodes (m.grantAll requests) more m' := by
  cases walk with
  | skip unknown => cases known.symm.trans unknown
  | leaf known' _ drafted rest =>
    cases known.symm.trans known'
    exact ⟨_, _, _, drafted, rfl, rest⟩
  | composite known' opens =>
    cases known.symm.trans known'
    cases opens.symm.trans closed

/-- A walk creates a node that it enters, goes through what is in the node, and goes on behind it. -/
theorem of_opens {header : NodeHeader} {own : ScopeId} {children : List Node} {connections : List Connection}
    (walk : Walk plan handle scope (.composite header own children connections :: nodes) m out m')
    (known : plan.registry.find? header.type = some generator) (opens : generator.opens = true) :
    ∃ requests code inside middle more,
      generator.draft (plan.site handle scope) (.composite header own children connections) = ⟨requests, .ok code⟩ ∧
        out = .creation handle header (code (m.freshHandle header.handleBase)) ::
          (declareVariables plan.options (m.freshHandle header.handleBase) (plan.declarations own) ++ inside ++
            connections.map (connect (m.freshHandle header.handleBase)) ++
              [.closing (m.freshHandle header.handleBase) header]) ++ more ∧
        Walk plan (m.freshHandle header.handleBase) own children (m.grantAll requests) inside middle ∧
          Walk plan handle scope nodes middle more m' := by
  cases walk with
  | skip unknown => cases known.symm.trans unknown
  | leaf known' closed =>
    cases known.symm.trans known'
    cases opens.symm.trans closed
  | composite known' _ _ drafted named within rest =>
    cases known.symm.trans known'
    subst named
    exact ⟨_, _, _, _, _, drafted, rfl, within, rest⟩

/-- A walk does not enter a node that has no nodes in it. -/
theorem closed_of_plain {header : NodeHeader} (walk : Walk plan handle scope (.plain header :: nodes) m out m')
    (known : plan.registry.find? header.type = some generator) : generator.opens = false := by
  cases walk with
  | skip unknown => cases known.symm.trans unknown
  | leaf known' closed =>
    cases known.symm.trans known'
    exact closed

end Walk

/-! ## What the steps do -/

/-- What was generated, with more instructions and other metadata. -/
def Session.after (s : Session) (out : List Instruction) (m : Metadata) : Session :=
  ⟨⟨s.body.instructions ++ out⟩, m⟩

@[simp] theorem Session.metadata_after (s : Session) (out : List Instruction) (m : Metadata) :
    (s.after out m).metadata = m := rfl

theorem Session.after_after (s : Session) (out more : List Instruction) (m m' : Metadata) :
    (s.after out m).after more m' = s.after (out ++ more) m' := by
  simp [after]

namespace Emit

variable {α : Type} {s : Session} {node : NodeHeader} {requests : List Request} {problem : Problem}

@[simp] theorem run_push (i : Instruction) : (push i).run s = .ok () (s.after [i] s.metadata) := rfl

@[simp] theorem run_pushAll (out : List Instruction) : (pushAll out).run s = .ok () (s.after out s.metadata) := rfl

@[simp] theorem run_reject : (reject node problem : Emit α).run s =
    .error (.rejected ⟨node.uniqueId, node.type, problem⟩) s := rfl

theorem run_carryOut_of_ok {draft : Draft α} {a : α} (h : draft = ⟨requests, .ok a⟩) :
    (carryOut node draft).run s = .ok a (s.after [] (s.metadata.grantAll requests)) := by
  subst h
  simp only [carryOut, EStateM.run_bind, EStateM.run_modify, EStateM.run_pure, Session.after, Metadata.grantAll,
    List.append_nil]

theorem run_carryOut_of_error {draft : Draft α} (h : draft = ⟨requests, .error problem⟩) :
    (carryOut node draft).run s =
      .error (.rejected ⟨node.uniqueId, node.type, problem⟩) (s.after [] (s.metadata.grantAll requests)) := by
  subst h
  simp only [carryOut, EStateM.run_bind, EStateM.run_modify, run_reject, Session.after, Metadata.grantAll,
    List.append_nil]

theorem run_create_of_ok {site : Site} {draft : Draft (String → Code)} {code : String → Code}
    (h : draft = ⟨requests, .ok code⟩) :
    (create site node draft).run s = .ok (s.metadata.freshHandle node.handleBase)
      (s.after [.creation site.handle node (code (s.metadata.freshHandle node.handleBase))]
        (s.metadata.grantAll requests)) := by
  simp only [create, EStateM.run_bind, EStateM.run_get, run_carryOut_of_ok h, run_push, EStateM.run_pure,
    Session.after_after, List.nil_append]
  rfl

theorem run_create_of_error {site : Site} {draft : Draft (String → Code)} (h : draft = ⟨requests, .error problem⟩) :
    (create site node draft).run s =
      .error (.rejected ⟨node.uniqueId, node.type, problem⟩) (s.after [] (s.metadata.grantAll requests)) := by
  simp only [create, EStateM.run_bind, EStateM.run_get, run_carryOut_of_error h]

end Emit

/-- The draft of a statement, from what is drafted of its node. -/
theorem Draft.eq_of_map_const {draft : Draft Code} {requests : List Request}
    {outcome : Except Problem (String → Code)} (h : (fun said (_ : String) => said) <$> draft = ⟨requests, outcome⟩) :
    draft.requests = requests ∧ draft.result.map (fun said _ => said) = outcome := by
  obtain ⟨before, result⟩ := draft
  cases result <;> simpa [Functor.map, Draft.bind, Draft.pure, Except.map] using h

section Steps

variable {plan : Plan} {handle : String} {scope : ScopeId} {node : Node} {generator : Generator}
  {requests : List Request} {code : String → Code} {problem : Problem} {s : Session}

/-- A node whose type is unknown is left out. -/
theorem run_emitNode_unknown (unknown : plan.registry.find? node.header.type = none) :
    (emitNode plan handle scope node).run s =
      .ok () (s.after [] (s.metadata.grantAll (plan.skipRequests node.header))) := by
  unfold emitNode
  simp only [unknown, Emit.skip, Plan.skipRequests]
  split <;> simp [Session.after, Metadata.grant]

/-- A generator that does not open the node adds one instruction. -/
theorem run_emitNode_leaf (known : plan.registry.find? node.header.type = some generator)
    (closed : generator.opens = false)
    (drafted : generator.draft (plan.site handle scope) node = ⟨requests, .ok code⟩) :
    (emitNode plan handle scope node).run s = .ok ()
      (s.after [.creation handle node.header (code (s.metadata.freshHandle node.header.handleBase))]
        (s.metadata.grantAll requests)) := by
  unfold emitNode
  rw [known]
  cases generator with
  | statement draft =>
    obtain ⟨granted, outcome⟩ := Draft.eq_of_map_const drafted
    cases result : (draft (plan.site handle scope) node.header).result with
    | error problem => simp [result, Except.map] at outcome
    | ok said =>
      simp only [result, Except.map, Except.ok.injEq] at outcome
      subst outcome
      have whole : draft ⟨plan.options, plan.scopes, handle, scope⟩ node.header = ⟨requests, .ok said⟩ := by
        rw [← granted, ← result]; rfl
      simp only [EStateM.run_bind, Emit.run_carryOut_of_ok whole, Emit.run_push, Session.after_after, List.nil_append]
      rfl
  | builder draft =>
    have whole : draft ⟨plan.options, plan.scopes, handle, scope⟩ node.header = ⟨requests, .ok code⟩ := drafted
    simp only [EStateM.run_bind, Emit.run_create_of_ok whole, EStateM.run_pure]
  | composite draft => cases closed

/-- The parent of a scope, as the walk looks it up. -/
theorem run_parentOf_of_nested {scopes : Arena} {own : ScopeId} (nested : scopes.parent? own = some scope) :
    (parentOf scopes own).run s = .ok (some scope) s := by
  obtain ⟨found, get, parent⟩ := Option.bind_eq_some_iff.1 nested
  simp only [parentOf, Arena.get, get, EStateM.run_pure, parent]

/-- A generator that opens the node adds an instruction for it, what is inside, and what closes it. -/
theorem run_emitNode_composite {header : NodeHeader} {own : ScopeId} {children : List Node}
    {connections : List Connection} {inner : String} (known : plan.registry.find? header.type = some generator)
    (opens : generator.opens = true) (nested : plan.scopes.parent? own = some scope)
    (drafted : generator.draft (plan.site handle scope) (.composite header own children connections) =
      ⟨requests, .ok code⟩) (named : inner = s.metadata.freshHandle header.handleBase) :
    (emitNode plan handle scope (.composite header own children connections)).run s =
      match (emitNodes plan inner own children).run
        (s.after (.creation handle header (code inner) ::
          declareVariables plan.options inner (plan.declarations own)) (s.metadata.grantAll requests)) with
      | .ok () t => .ok () (t.after (connections.map (connect inner) ++ [.closing inner header]) t.metadata)
      | .error e t => .error e t := by
  subst named
  unfold emitNode
  simp only [Node.header, known]
  cases generator with
  | statement draft => cases opens
  | builder draft => cases opens
  | composite draft =>
    have whole : draft ⟨plan.options, plan.scopes, handle, scope⟩ header own = ⟨requests, .ok code⟩ := drafted
    simp only [EStateM.run_bind, run_parentOf_of_nested nested, ne_eq, not_true_eq_false, if_false,
      Emit.run_create_of_ok whole, Emit.run_pushAll, Session.after_after, Session.metadata_after,
      List.singleton_append, Plan.declarations]
    split <;> rename_i ran <;> rw [ran]
    simp only [Emit.run_push, Session.after_after, Session.metadata_after]
    rfl

/-- A node with a problem is rejected. -/
theorem run_emitNode_refused (known : plan.registry.find? node.header.type = some generator)
    (nested : generator.opens = true → ∀ own, node.scope? = some own → plan.scopes.parent? own = some scope)
    (drafted : generator.draft (plan.site handle scope) node = ⟨requests, .error problem⟩) :
    (emitNode plan handle scope node).run s = .error
      (.rejected ⟨node.header.uniqueId, node.header.type, problem⟩) (s.after [] (s.metadata.grantAll requests)) := by
  unfold emitNode
  rw [known]
  cases generator with
  | statement draft =>
    obtain ⟨granted, outcome⟩ := Draft.eq_of_map_const drafted
    cases result : (draft (plan.site handle scope) node.header).result with
    | ok said => simp [result, Except.map] at outcome
    | error p =>
      simp only [result, Except.map, Except.error.injEq] at outcome
      subst outcome
      have whole : draft ⟨plan.options, plan.scopes, handle, scope⟩ node.header = ⟨requests, .error p⟩ := by
        rw [← granted, ← result]; rfl
      simp only [EStateM.run_bind, Emit.run_carryOut_of_error whole]
  | builder draft =>
    have whole : draft ⟨plan.options, plan.scopes, handle, scope⟩ node.header = ⟨requests, .error problem⟩ := drafted
    simp only [EStateM.run_bind, Emit.run_create_of_error whole]
  | composite draft =>
    cases node with
    | plain header =>
      simp only [Generator.draft, Draft.fail, Draft.mk.injEq, Except.error.injEq] at drafted
      obtain ⟨rfl, rfl⟩ := drafted
      simp [Node.header, Session.after]
    | composite header own children connections =>
      have whole : draft ⟨plan.options, plan.scopes, handle, scope⟩ header own = ⟨requests, .error problem⟩ := drafted
      simp only [EStateM.run_bind, run_parentOf_of_nested (nested rfl own rfl), ne_eq, not_true_eq_false, if_false,
        Emit.run_create_of_error whole, Node.header]

/-- A composite node whose scope lies elsewhere is not compiled. -/
theorem run_emitNode_misplaced {header : NodeHeader} {own : ScopeId} {children : List Node}
    {connections : List Connection} (known : plan.registry.find? header.type = some generator)
    (opens : generator.opens = true) (misplaced : plan.scopes.parent? own ≠ some scope) :
    ∃ e, (emitNode plan handle scope (.composite header own children connections)).run s = .error e s := by
  unfold emitNode
  simp only [Node.header, known]
  cases generator with
  | statement draft => cases opens
  | builder draft => cases opens
  | composite draft =>
    simp only [EStateM.run_bind, parentOf, Arena.get]
    cases found : plan.scopes.get? own with
    | none => exact ⟨_, rfl⟩
    | some record =>
      have parent : record.parent ≠ some scope := by simpa [Arena.parent?, found] using misplaced
      simp [parent]

end Steps

/-! ## The walk that runs -/

section Runs

variable {plan : Plan}

/-- The scope of a composite node that is generated lies in the scope around the node. -/
theorem nested_of_run {node : Node} {handle : String} {scope : ScopeId} {generator : Generator} {s t : Session}
    (known : plan.registry.find? node.header.type = some generator)
    (ran : (emitNode plan handle scope node).run s = .ok () t) (opens : generator.opens = true) :
    ∀ own, node.scope? = some own → plan.scopes.parent? own = some scope := by
  intro own owned
  match node with
  | .plain header => cases owned
  | .composite header own' children connections =>
    cases owned
    refine Classical.byContradiction fun misplaced => ?_
    obtain ⟨e, stopped⟩ : ∃ e, (emitNode plan handle scope (.composite header own children connections)).run s =
        .error e s := run_emitNode_misplaced known opens misplaced
    rw [stopped] at ran
    cases ran

mutual

/-- A node that is generated starts a walk. -/
theorem Walk.of_emitNode {node : Node} {handle : String} {scope : ScopeId} {s t : Session}
    (ran : (emitNode plan handle scope node).run s = .ok () t) :
    ∃ first, t = s.after first t.metadata ∧ ∀ {nodes : List Node} {out : List Instruction} {m' : Metadata},
      Walk plan handle scope nodes t.metadata out m' →
        Walk plan handle scope (node :: nodes) s.metadata (first ++ out) m' := by
  cases known : plan.registry.find? node.header.type with
  | none =>
    rw [run_emitNode_unknown known] at ran
    cases ran
    exact ⟨[], rfl, fun rest => .skip known rest⟩
  | some generator =>
    have nested := nested_of_run known ran
    rcases drafted : generator.draft (plan.site handle scope) node with ⟨requests, problem | code⟩
    · rw [run_emitNode_refused known nested drafted] at ran
      cases ran
    cases opens : generator.opens with
    | false =>
      rw [run_emitNode_leaf known opens drafted] at ran
      cases ran
      exact ⟨_, rfl, fun rest => .leaf known opens drafted rest⟩
    | true =>
      obtain ⟨header, own, children, connections, rfl⟩ := Generator.composite_of_draft_eq_ok opens drafted
      have known : plan.registry.find? header.type = some generator := known
      rw [run_emitNode_composite known opens (nested opens own rfl) drafted rfl] at ran
      split at ran
      · next u middle inside =>
        cases ran
        obtain ⟨out, same, walked⟩ := Walk.of_emitNodes inside
        refine ⟨_, ?_, fun rest => .composite known opens (nested opens own rfl) drafted rfl walked rest⟩
        rw [same]
        simp only [Session.after_after, Session.metadata_after, List.cons_append, List.append_assoc]
      · cases ran

theorem Walk.of_emitNodes {nodes : List Node} {handle : String} {scope : ScopeId} {s t : Session}
    (ran : (emitNodes plan handle scope nodes).run s = .ok () t) :
    ∃ out, t = s.after out t.metadata ∧ Walk plan handle scope nodes s.metadata out t.metadata := by
  match nodes with
  | [] =>
    cases ran
    exact ⟨[], by simp [Session.after], .done⟩
  | node :: nodes =>
    rw [emitNodes, EStateM.run_bind] at ran
    split at ran
    · next u middle first =>
      obtain ⟨created, same, extend⟩ := Walk.of_emitNode first
      obtain ⟨out, rest, walked⟩ := Walk.of_emitNodes ran
      exact ⟨created ++ out, by rw [rest, same, Session.after_after, Session.metadata_after], extend walked⟩
    · cases ran

end

/-- A walk is what the steps do. -/
theorem Walk.run {handle : String} {scope : ScopeId} {nodes : List Node} {m m' : Metadata} {out : List Instruction}
    (walk : Walk plan handle scope nodes m out m') :
    ∀ s : Session, s.metadata = m → (emitNodes plan handle scope nodes).run s = .ok () (s.after out m') := by
  induction walk with
  | done =>
    rintro s rfl
    simp [emitNodes, Session.after]
  | skip unknown rest ih =>
    rintro s rfl
    rw [emitNodes, EStateM.run_bind, run_emitNode_unknown unknown]
    exact (ih _ rfl).trans (by rw [Session.after_after, List.nil_append])
  | leaf known closed drafted rest ih =>
    rintro s rfl
    rw [emitNodes, EStateM.run_bind, run_emitNode_leaf known closed drafted]
    exact (ih _ rfl).trans (by rw [Session.after_after, List.singleton_append])
  | composite known opens nested drafted named within rest ihWithin ihRest =>
    rintro s rfl
    rw [emitNodes, EStateM.run_bind, run_emitNode_composite known opens nested drafted named, ihWithin _ rfl]
    refine (ihRest _ rfl).trans ?_
    simp only [Session.after_after, List.cons_append, List.append_assoc]

/-- **The steps that run succeed exactly along a walk.** -/
theorem run_emitNodes_eq_ok_iff {handle : String} {scope : ScopeId} {nodes : List Node} {s t : Session} :
    (emitNodes plan handle scope nodes).run s = .ok () t ↔
      ∃ out, t = s.after out t.metadata ∧ Walk plan handle scope nodes s.metadata out t.metadata := by
  refine ⟨Walk.of_emitNodes, ?_⟩
  rintro ⟨out, same, walk⟩
  rw [same]
  exact walk.run s rfl

/-- **A graph is generated exactly if there is a walk over its nodes.** -/
theorem generate_eq_ok_iff {graph : ProcessGraph} {registry : Registry} {options : Options} {session : Session} :
    generate graph registry options = .ok session ↔
      ∃ out, Walk ⟨registry, options, graph.scopes⟩ rootHandle ProcessGraph.rootScope graph.nodes (.empty graph.id) out
          session.metadata ∧
        session.body.instructions = declareVariables options rootHandle
            (Plan.declarations ⟨registry, options, graph.scopes⟩ ProcessGraph.rootScope) ++ out ++
          graph.connections.map (connect rootHandle) := by
  have starts : generate graph registry options = .ok session ↔
      (emitGraph graph ⟨registry, options, graph.scopes⟩).run ⟨.empty, .empty graph.id⟩ = .ok () session := by
    unfold generate
    split <;> rename_i ran <;> simp [ran]
  rw [starts, emitGraph]
  simp only [EStateM.run_bind, Emit.run_pushAll]
  constructor
  · intro ran
    split at ran
    · next u middle walked =>
      obtain ⟨out, same, walk⟩ := Walk.of_emitNodes walked
      cases ran
      refine ⟨out, walk, ?_⟩
      rw [same]
      rfl
    · cases ran
  · rintro ⟨out, walk, body⟩
    rw [walk.run _ rfl]
    obtain ⟨⟨instructions⟩, metadata⟩ := session
    simp only at body
    subst body
    rfl

/-- A graph whose nodes are rejected is not generated. -/
theorem generate_eq_error {graph : ProcessGraph} {registry : Registry} {options : Options} {e : GenerationError}
    (stops : ∀ s : Session, s.metadata = .empty graph.id →
      ∃ t, (emitNodes ⟨registry, options, graph.scopes⟩ rootHandle ProcessGraph.rootScope graph.nodes).run s =
        .error e t) : generate graph registry options = .error e := by
  have failed : ∃ t, (emitGraph graph ⟨registry, options, graph.scopes⟩).run ⟨.empty, .empty graph.id⟩ =
      .error e t := by
    rw [emitGraph]
    simp only [EStateM.run_bind, Emit.run_pushAll]
    obtain ⟨t, stopped⟩ := stops (Session.after ⟨.empty, .empty graph.id⟩ (declareVariables options rootHandle
      (Plan.declarations ⟨registry, options, graph.scopes⟩ ProcessGraph.rootScope)) (.empty graph.id)) rfl
    simp only [Plan.declarations] at stopped
    exact ⟨t, by rw [stopped]⟩
  obtain ⟨t, stopped⟩ := failed
  unfold generate
  rw [stopped]

end Runs

/-! ## Definitions that are generated -/

/-- What is generated from a definition that is accepted. -/
def ProcessDefinition.session? (d : ProcessDefinition) (registry : Registry) (options : Options) : Option Session :=
  match ProcessGraph.ofDefinition d with
  | .ok graph => (generate graph registry options).toOption
  | .error _ => none

theorem ProcessDefinition.session?_eq_some_iff {d : ProcessDefinition} {registry : Registry} {options : Options}
    {session : Session} : d.session? registry options = some session ↔
      ∃ graph, ProcessGraph.ofDefinition d = .ok graph ∧ generate graph registry options = .ok session := by
  unfold session?
  cases ProcessGraph.ofDefinition d with
  | error e => simp
  | ok graph => cases outcome : generate graph registry options <;> simp [Except.toOption, outcome]

end ProcessCompiler
