import ProcessCompiler.Proofs.Expressions
import ProcessCompiler.Proofs.Handles
import ProcessCompiler.Proofs.Redeclaration
import ProcessCompiler.Proofs.Resolution
import ProcessCompiler.Proofs.ScopeChain

/-!
# Isolation of scopes

What a composite node declares is seen in that node only. If its variables are changed, the nodes that are not in it are
created by the same instructions, and with the same expressions; and if the change makes a node fail, it is this node or
one in it.

* `Metadata.AlikeOutside`: metadata that differ in the expressions of hidden nodes at most.
* `Agrees.walks`: two walks over nodes on which arenas agree.
* `Agrees.rejection?_eq`: the nodes that are refused alike.
* `isolation_of_generate`: what depends on the variables of a composite node.
-/

namespace ProcessCompiler

/-! ## What a walk leaves as it is -/

section Frames

variable {plan plan' : Plan} {handle handle' : String} {scope scope' : ScopeId} {nodes : List Node}
  {m m' n n' : Metadata} {out out' : List Instruction} {unique key : String}

/-- A walk creates none but its nodes. -/
theorem Walk.filter_creates_eq_nil (walk : Walk plan handle scope nodes m out n)
    (other : unique ∉ Node.uniqueIds nodes) : out.filter (Body.creates unique) = [] := by
  rw [List.filter_eq_nil_iff]
  rintro ⟨kind, address, code⟩ member creates
  cases kind with
  | node id tag =>
    obtain rfl : id = unique := eq_of_beq creates
    have created : id ∈ out.filterMap Instruction.nodeId? := List.mem_filterMap.2 ⟨_, member, rfl⟩
    exact other (walk.nodeIds_sublist.subset created)
  | _ => cases creates

/-- A walk keeps expressions of none but its nodes. -/
theorem Walk.expression?_eq (uses : plan.registry.UsesBuiltins) (walk : Walk plan handle scope nodes m out n)
    (other : unique ∉ Node.uniqueIds nodes) : n.expression? unique key = m.expression? unique key := by
  induction walk with
  | done => rfl
  | @skip _ _ node nodes _ _ _ unknown rest ih =>
    rw [ih fun member => other ((Node.uniqueIds_sublist node nodes).subset member), Metadata.expression?_skipRequests]
  | @leaf _ _ node nodes _ _ _ _ _ _ known closed drafted rest ih =>
    obtain ⟨type, a, _, said⟩ := uses.drafted known drafted
    have apart : unique ≠ node.header.uniqueId := by
      rintro rfl
      exact other ((Node.uniqueIds_cons_sublist node nodes).subset List.mem_cons_self)
    rw [ih fun member => other ((Node.uniqueIds_sublist node nodes).subset member), said.asked,
      BuiltinType.expression?_requests_of_ne apart]
  | @composite _ _ _ own header children nodes connections _ _ _ _ _ _ _ _ known _ _ drafted _ _ _ ihWithin ihRest =>
    obtain ⟨type, a, _, said⟩ := uses.drafted_composite known drafted
    rw [Node.uniqueIds_composite, List.mem_cons, List.mem_append, not_or, not_or] at other
    obtain ⟨apart, outside, beside⟩ := other
    rw [ihRest beside, ihWithin outside, said.asked, BuiltinType.expression?_requests_of_ne apart]

/-- **Which names are taken after a walk** depends on those taken before and on the nodes alone. -/
theorem Walk.handles_congr (uses : plan.registry.UsesBuiltins) (same : plan'.registry = plan.registry)
    (walk : Walk plan handle scope nodes m out n) :
    ∀ {handle' : String} {scope' : ScopeId} {m' n' : Metadata} {out' : List Instruction},
      Walk plan' handle' scope' nodes m' out' n' → m.handles = m'.handles → n.handles = n'.handles := by
  have uses' : plan'.registry.UsesBuiltins := same ▸ uses
  have taken : ∀ {m m' : Metadata} {node : NodeHeader}, m.handles = m'.handles →
      m.handles.add (m.freshHandle node.handleBase) = m'.handles.add (m'.freshHandle node.handleBase) := by
    intro m m' node equal
    rw [Metadata.freshHandle_congr equal, equal]
  induction walk with
  | done =>
    intro handle' scope' m' n' out' walk' equal
    cases walk'
    exact equal
  | skip unknown rest ih =>
    intro handle' scope' m' n' out' walk' equal
    refine ih (walk'.of_unknown (same ▸ unknown)) ?_
    rw [Metadata.handles_skipRequests, Metadata.handles_skipRequests, equal]
  | leaf known closed drafted rest ih =>
    intro handle' scope' m' n' out' walk' equal
    obtain ⟨requests, code, more, drafted', _, rest'⟩ := walk'.of_closed (same ▸ known) closed
    obtain ⟨type, a, _, said⟩ := uses.drafted known drafted
    obtain ⟨type', a', _, said'⟩ := uses'.drafted (same ▸ known) drafted'
    refine ih rest' ?_
    rw [Metadata.handles_drafted said, Metadata.handles_drafted said', taken equal]
  | composite known opens nested drafted named within rest ihWithin ihRest =>
    intro handle' scope' m' n' out' walk' equal
    obtain ⟨requests, code, inside, middle, more, drafted', _, within', rest'⟩ := walk'.of_opens (same ▸ known) opens
    obtain ⟨type, a, _, said⟩ := uses.drafted_composite known drafted
    obtain ⟨type', a', _, said'⟩ := uses'.drafted_composite (same ▸ known) drafted'
    refine ihRest rest' (ihWithin within' ?_)
    rw [Metadata.handles_drafted said, Metadata.handles_drafted said', taken equal]

end Frames

/-! ## Metadata alike -/

/-- **Metadata that differ in the expressions of hidden nodes at most**: the same names are taken, and the same
expressions are kept of all other nodes. -/
structure Metadata.AlikeOutside (hidden : List String) (m m' : Metadata) : Prop where
  handles : m.handles = m'.handles
  expressions : ∀ unique ∉ hidden, ∀ key, m.expression? unique key = m'.expression? unique key

namespace Metadata.AlikeOutside

variable {hidden : List String} {m m' : Metadata}

theorem skip (h : m.AlikeOutside hidden m') {plan plan' : Plan} (node : NodeHeader) :
    (m.grantAll (plan.skipRequests node)).AlikeOutside hidden (m'.grantAll (plan'.skipRequests node)) where
  handles := by rw [handles_skipRequests, handles_skipRequests, h.handles]
  expressions unique outside key := by
    rw [expression?_skipRequests, expression?_skipRequests, h.expressions unique outside key]

theorem drafted (h : m.AlikeOutside hidden m') {type : BuiltinType} {a : type.Attributes} {site : Site}
    {node : NodeHeader} {own? : Option ScopeId} {requests : List Request} {code : String → Code}
    (said : type.Drafted a site node own? requests code) :
    (m.grantAll requests).AlikeOutside hidden (m'.grantAll requests) where
  handles := by rw [handles_drafted said, handles_drafted said, freshHandle_congr h.handles, h.handles]
  expressions unique outside key := by
    rw [expression?_grantAll, expression?_grantAll, h.expressions unique outside key]

end Metadata.AlikeOutside

/-! ## Two walks -/

/-- Walks that come to metadata alike, and create the nodes that are not hidden by the same instructions. -/
structure RunsAlike (hidden : List String) (out out' : List Instruction) (n n' : Metadata) : Prop where
  metadata : n.AlikeOutside hidden n'
  created : ∀ unique ∉ hidden, out.filter (Body.creates unique) = out'.filter (Body.creates unique)

/-- What is around the nodes of a graph creates no node. -/
theorem filter_creates_enclosed {options : Options} {handle unique : String} {declarations : SortedMap Variable}
    {connections : List Connection} {inside : List Instruction} :
    (declareVariables options handle declarations ++ inside ++ connections.map (connect handle)).filter
      (Body.creates unique) = inside.filter (Body.creates unique) := by
  have declares : (declareVariables options handle declarations).filter (Body.creates unique) = [] := by
    rw [List.filter_eq_nil_iff]
    rintro i member
    obtain ⟨entry, _, rfl⟩ := List.mem_map.1 member
    exact Bool.false_ne_true
  have connects : (connections.map (connect handle)).filter (Body.creates unique) = [] := by
    rw [List.filter_eq_nil_iff]
    rintro i member
    obtain ⟨c, _, rfl⟩ := List.mem_map.1 member
    exact Bool.false_ne_true
  rw [List.filter_append, List.filter_append, declares, connects, List.nil_append, List.append_nil]

/-- Of the instructions of a composite node and what is behind it, one creates the node, and the others what is in it or
behind it. -/
theorem filter_creates_composite {options : Options} {handle inner unique : String} {header : NodeHeader} {code : Code}
    {declarations : SortedMap Variable} {connections : List Connection} {inside more : List Instruction} :
    (Instruction.creation handle header code :: (declareVariables options inner declarations ++ inside ++
      connections.map (connect inner) ++ [Instruction.closing inner header]) ++ more).filter (Body.creates unique) =
      [Instruction.creation handle header code].filter (Body.creates unique) ++ inside.filter (Body.creates unique) ++
        more.filter (Body.creates unique) := by
  have closes : [Instruction.closing inner header].filter (Body.creates unique) = [] := rfl
  rw [List.filter_append, List.filter_cons, List.filter_append, filter_creates_enclosed, closes, List.append_nil,
    List.filter_cons]
  split <;> rfl

section Walks

variable {registry : Registry} {options : Options} {arena arena' : Arena} {handle : String} {scope own : ScopeId}
  {nodes children : List Node} {node : Node} {header : NodeHeader} {connections : List Connection}
  {generator : Generator} {hidden : List String} {m m' n n' : Metadata} {out out' : List Instruction}

/-- What follows of walks over nodes from metadata that are alike. -/
def WalkAlike (registry : Registry) (options : Options) (arena arena' : Arena) (hidden : List String)
    (scope : ScopeId) (nodes : List Node) : Prop :=
  ∀ {handle : String} {m m' n n' : Metadata} {out out' : List Instruction}, m.AlikeOutside hidden m' →
    Walk ⟨registry, options, arena⟩ handle scope nodes m out n →
      Walk ⟨registry, options, arena'⟩ handle scope nodes m' out' n' → RunsAlike hidden out out' n n'

/-- Scopes with the same declarations see the same variables, if the scopes around them do. -/
theorem Arena.resolve_inner {declarations : SortedMap Variable}
    (found : arena.get? own = some ⟨declarations, some scope⟩)
    (found' : arena'.get? own = some ⟨declarations, some scope⟩) (newer : scope.index < own.index)
    (sees : ∀ name, arena.resolve scope name = arena'.resolve scope name) :
    ∀ name, arena.resolve own name = arena'.resolve own name := by
  intro name
  rw [Arena.resolve_eq found (by simpa using newer), Arena.resolve_eq found' (by simpa using newer)]
  cases declarations.find? name with
  | some v => rfl
  | none => exact sees name

/-- Sites in scopes that see the same variables. -/
theorem Site.seesLike_of_resolve (sees : ∀ name, arena.resolve scope name = arena'.resolve scope name) :
    Site.SeesLike ⟨options, arena, handle, scope⟩ ⟨options, arena', handle, scope⟩ where
  options := rfl
  references name := by
    show arena.reference? scope name = arena'.reference? scope name
    rw [Arena.reference?, Arena.reference?, sees]

/-- A node that is not entered is created alike where the same variables are seen. -/
theorem WalkAlike.front (uses : registry.UsesBuiltins)
    (sees : ∀ name, arena.resolve scope name = arena'.resolve scope name)
    (shut : ∀ generator, registry.find? node.header.type = some generator → generator.opens = false)
    (rest : WalkAlike registry options arena arena' hidden scope nodes)
    (h : m.AlikeOutside hidden m') (walk : Walk ⟨registry, options, arena⟩ handle scope (node :: nodes) m out n)
    (walk' : Walk ⟨registry, options, arena'⟩ handle scope (node :: nodes) m' out' n') :
    RunsAlike hidden out out' n n' := by
  cases known : registry.find? node.header.type with
  | none => exact rest (h.skip node.header) (walk.of_unknown known) (walk'.of_unknown known)
  | some generator =>
    obtain ⟨type, rfl⟩ := uses _ _ known
    obtain ⟨requests, code, more, drafted, rfl, further⟩ := walk.of_closed known (shut _ known)
    obtain ⟨requests', code', more', drafted', rfl, further'⟩ := walk'.of_closed known (shut _ known)
    obtain ⟨rfl, rfl⟩ := (Site.seesLike_of_resolve sees).draft_eq rfl drafted drafted'
    obtain ⟨a, said⟩ := BuiltinType.drafted_of_eq_ok drafted
    have behind := rest (h.drafted said) further further'
    refine ⟨behind.metadata, fun unique outside => ?_⟩
    rw [List.filter_cons, List.filter_cons, Metadata.freshHandle_congr h.handles, behind.created unique outside]

/-- A node that is entered is created alike where the same variables are seen, if what is in it is. -/
theorem WalkAlike.opened (uses : registry.UsesBuiltins)
    (sees : ∀ name, arena.resolve scope name = arena'.resolve scope name)
    (known : registry.find? header.type = some generator) (opens : generator.opens = true)
    (within : WalkAlike registry options arena arena' hidden own children)
    (rest : WalkAlike registry options arena arena' hidden scope nodes) (h : m.AlikeOutside hidden m')
    (walk : Walk ⟨registry, options, arena⟩ handle scope (.composite header own children connections :: nodes) m out n)
    (walk' : Walk ⟨registry, options, arena'⟩ handle scope (.composite header own children connections :: nodes)
      m' out' n') : RunsAlike hidden out out' n n' := by
  obtain ⟨type, rfl⟩ := uses _ _ known
  obtain ⟨requests, code, inside, middle, more, drafted, rfl, deeper, further⟩ := walk.of_opens known opens
  obtain ⟨requests', code', inside', middle', more', drafted', rfl, deeper', further'⟩ := walk'.of_opens known opens
  obtain ⟨rfl, rfl⟩ := (Site.seesLike_of_resolve sees).draft_eq rfl drafted drafted'
  obtain ⟨a, said⟩ := BuiltinType.drafted_of_eq_ok drafted
  rw [Metadata.freshHandle_congr h.handles] at deeper ⊢
  have among := within (h.drafted said) deeper deeper'
  have behind := rest among.metadata further further'
  refine ⟨behind.metadata, fun unique outside => ?_⟩
  rw [filter_creates_composite, filter_creates_composite, among.created unique outside, behind.created unique outside]

theorem WalkAlike.plain (uses : registry.UsesBuiltins)
    (sees : ∀ name, arena.resolve scope name = arena'.resolve scope name)
    (rest : WalkAlike registry options arena arena' hidden scope nodes) :
    WalkAlike registry options arena arena' hidden scope (.plain header :: nodes) := by
  intro handle m m' n n' out out' h walk walk'
  have shut : ∀ generator, registry.find? (Node.plain header).header.type = some generator →
      generator.opens = false := fun _ known => walk.closed_of_plain known
  exact WalkAlike.front uses sees shut rest h walk walk'

theorem WalkAlike.composite (uses : registry.UsesBuiltins)
    (sees : ∀ name, arena.resolve scope name = arena'.resolve scope name)
    (within : WalkAlike registry options arena arena' hidden own children)
    (rest : WalkAlike registry options arena arena' hidden scope nodes) :
    WalkAlike registry options arena arena' hidden scope (.composite header own children connections :: nodes) := by
  intro handle m m' n n' out out' h walk walk'
  by_cases enters : registry.Enters (.composite header own children connections)
  · obtain ⟨generator, known, opens⟩ := enters
    exact WalkAlike.opened uses sees known opens within rest h walk walk'
  · exact WalkAlike.front uses sees (Registry.closed_of_not_enters enters) rest h walk walk'

/-- What is in a hidden node is created in one way or another, and concerns no node that is not hidden. -/
theorem WalkAlike.inside_hidden (uses : registry.UsesBuiltins) :
    WalkAlike registry options arena arena' (Node.uniqueIds children) own children := by
  intro handle m m' n n' out out' h walk walk'
  refine ⟨⟨walk.handles_congr uses ?_ walk' h.handles, fun unique outside key => ?_⟩, fun unique outside => ?_⟩
  · rfl
  · rw [walk.expression?_eq uses outside, walk'.expression?_eq uses outside, h.expressions unique outside key]
  · rw [walk.filter_creates_eq_nil outside, walk'.filter_creates_eq_nil outside]

/-- **Walks over nodes on which arenas agree are alike**, but for what is in the node on which they do not. -/
theorem Agrees.walks (uses : registry.UsesBuiltins) (agrees : Agrees arena arena' node scope nodes) :
    (∀ name, arena.resolve scope name = arena'.resolve scope name) →
      WalkAlike registry options arena arena' (Node.uniqueIds node.children) scope nodes := by
  induction agrees with
  | done =>
    intro sees handle m m' n n' out out' h walk walk'
    cases walk
    cases walk'
    exact ⟨h, fun _ _ => rfl⟩
  | plain rest ih =>
    intro sees
    exact WalkAlike.plain uses sees (ih sees)
  | composite found found' newer within rest ihWithin ihRest =>
    intro sees
    exact WalkAlike.composite uses sees (ihWithin (Arena.resolve_inner found found' newer sees)) (ihRest sees)
  | redeclared here rest ih =>
    intro sees
    subst here
    exact WalkAlike.composite uses sees (WalkAlike.inside_hidden uses) (ih sees)

end Walks

/-! ## Rejections -/

section Rejections

variable {registry : Registry} {options : Options} {arena arena' : Arena} {scope : ScopeId} {nodes : List Node}
  {node : Node}

/-- A node is rejected alike where the same variables are seen, and declared in its own scope. -/
theorem Visit.rejection?_eq_of_resolve {v : Visit} {type : BuiltinType} (builtin : v.generator = type.generator)
    (sees : ∀ name, arena.resolve v.scope name = arena'.resolve v.scope name)
    (declared : ∀ own ∈ v.node.scope?, ∀ name, arena.declared? own name = arena'.declared? own name) (handle : String) :
    v.rejection? ⟨registry, options, arena⟩ handle = v.rejection? ⟨registry, options, arena'⟩ handle := by
  have alike : Draft.Alike _ (type.generator.draft ⟨options, arena, handle, v.scope⟩ v.node)
      (type.generator.draft ⟨options, arena', handle, v.scope⟩ v.node) :=
    (Site.seesLike_of_resolve sees).alike type fun a told raw item own owned =>
      congrArg Option.isSome (declared own owned (receiverName raw))
  show Option.map _ (v.generator.draft ⟨options, arena, handle, v.scope⟩ v.node).problem? =
    Option.map _ (v.generator.draft ⟨options, arena', handle, v.scope⟩ v.node).problem?
  rw [builtin, alike.problem?_eq]

/-- **Nodes on which arenas agree are rejected alike**, but for the node on which they do not and those in it. -/
theorem Agrees.rejection?_eq (uses : registry.UsesBuiltins) (agrees : Agrees arena arena' node scope nodes) :
    (∀ name, arena.resolve scope name = arena'.resolve scope name) →
      ∀ v ∈ Node.visitsAll registry scope nodes, v.node.header.uniqueId ∈ Node.uniqueIds [node] ∨
        ∀ handle, v.rejection? ⟨registry, options, arena⟩ handle = v.rejection? ⟨registry, options, arena'⟩ handle := by
  induction agrees with
  | done =>
    intro sees v member
    cases member
  | plain rest ih =>
    intro sees v member
    rcases Node.mem_visitsAll_plain.1 member with ⟨same, inside, known⟩ | beside
    · obtain ⟨type, builtin⟩ := uses _ _ known
      refine .inr (Visit.rejection?_eq_of_resolve builtin (inside ▸ sees) ?_)
      rw [same]
      exact nofun
    · exact ih sees v beside
  | @composite enclosing own header children nodes connections declarations found found' newer within rest ihWithin
      ihRest =>
    intro sees v member
    rcases Node.mem_visitsAll_composite.1 member with ⟨same, inside, known⟩ | ⟨enters, deeper⟩ | beside
    · obtain ⟨type, builtin⟩ := uses _ _ known
      refine .inr (Visit.rejection?_eq_of_resolve builtin (inside ▸ sees) ?_)
      rw [same]
      rintro _ ⟨⟩ name
      rw [Arena.declared?, Arena.declared?, found, found']
    · exact ihWithin (Arena.resolve_inner found found' newer sees) v deeper
    · exact ihRest sees v beside
  | @redeclared enclosing own header children nodes connections here rest ih =>
    intro sees v member
    subst here
    rw [Node.visitsAll, List.mem_append] at member
    rcases member with here | beside
    · refine .inl ?_
      have among : v.node ∈ (Node.composite header own children connections).flatten :=
        Node.visits_sublist.subset (List.mem_map_of_mem here)
      rw [Node.uniqueIds, Node.flattenAll, Node.flattenAll, List.append_nil]
      exact List.mem_map_of_mem among
    · exact ih sees v beside

/-- A graph that fails where another one with the same nodes does not fails for a node that is rejected otherwise. -/
theorem rejected_of_generate {d' : ProcessDefinition} {graph graph' : ProcessGraph} {session : Session}
    {e : GenerationError} {hidden : List String} (accepted' : ProcessGraph.ofDefinition d' = .ok graph')
    (same : graph'.nodes = graph.nodes) (alike : ∀ v ∈ graph.visits .builtin, v.node.header.uniqueId ∈ hidden ∨
      v.rejection? ⟨.builtin, options, graph.scopes⟩ rootHandle =
        v.rejection? ⟨.builtin, options, graph'.scopes⟩ rootHandle)
    (generated : generate graph .builtin options = .ok session)
    (stopped : generate graph' .builtin options = .error e) :
    ∃ error, e = .rejected error ∧ error.nodeId ∈ hidden := by
  have uses := Registry.usesBuiltins_builtin
  obtain ⟨_, _, _, built'⟩ := built_of_ofDefinition accepted'
  obtain ⟨v, member', refused⟩ := exists_refusal_of_generate uses stopped
  have member : v ∈ graph.visits .builtin := by
    rw [ProcessGraph.visits, same] at member'
    exact member'
  rw [Visit.refusal?, built'.misplacement?_eq_none v member', Option.none_or] at refused
  rcases alike v member with inside | equal
  · obtain ⟨problem, _, rfl⟩ := Option.map_eq_some_iff.1 refused
    exact ⟨_, rfl, inside⟩
  · have passes := (generate_eq_ok_iff_visits uses rootHandle).1 ⟨session, generated⟩ v member
    rw [Visit.refusal?, Option.or_eq_none_iff, equal, refused] at passes
    cases passes.2

end Rejections

/-! ## Whole graphs -/

/-- **The variables of a composite node concern only this node and those in it.** If two definitions differ in the
variables of one composite node, their graphs have the same nodes. A node that is not inside this one is created by the
same instructions, with the same expressions, if code comes out for both. If it comes out for one of them only, the
error for the other names the node or one in it. -/
theorem isolation_of_generate {d d' : ProcessDefinition} {graph graph' : ProcessGraph} {unique : String}
    (differ : d.Redeclared d' unique) (accepted : ProcessGraph.ofDefinition d = .ok graph)
    (accepted' : ProcessGraph.ofDefinition d' = .ok graph') (options : Options) :
    graph'.nodes = graph.nodes ∧ ∃ node ∈ Node.flattenAll graph.nodes, node.header.uniqueId = unique ∧
      (∀ session session', generate graph .builtin options = .ok session →
        generate graph' .builtin options = .ok session' →
          ∀ other ∈ Node.flattenAll graph.nodes, other ∉ Node.flattenAll node.children →
            session.body.instructions.filter (Body.creates other.header.uniqueId) =
                session'.body.instructions.filter (Body.creates other.header.uniqueId) ∧
              ∀ key, session.metadata.expression? other.header.uniqueId key =
                session'.metadata.expression? other.header.uniqueId key) ∧
      (∀ session e, generate graph .builtin options = .ok session → generate graph' .builtin options = .error e →
        ∃ error, e = .rejected error ∧ error.nodeId ∈ Node.uniqueIds [node]) ∧
      ∀ session e, generate graph' .builtin options = .ok session → generate graph .builtin options = .error e →
        ∃ error, e = .rejected error ∧ error.nodeId ∈ Node.uniqueIds [node] := by
  have uses := Registry.usesBuiltins_builtin
  obtain ⟨_, _, root, built⟩ := built_of_ofDefinition accepted
  obtain ⟨_, _, root', _⟩ := built_of_ofDefinition accepted'
  obtain ⟨same, node, member, named, agrees⟩ := differ.agrees accepted accepted'
  have declares : d'.declarations = d.declarations := by rw [differ.same]
  have sees : ∀ name, graph.scopes.resolve ProcessGraph.rootScope name =
      graph'.scopes.resolve ProcessGraph.rootScope name := by
    intro name
    rw [Arena.resolve_eq root (by simp), Arena.resolve_eq root' (by simp), declares]
    rfl
  have alike : ∀ v ∈ graph.visits .builtin, v.node.header.uniqueId ∈ Node.uniqueIds [node] ∨
      v.rejection? ⟨.builtin, options, graph.scopes⟩ rootHandle =
        v.rejection? ⟨.builtin, options, graph'.scopes⟩ rootHandle :=
    fun v visited => (agrees.rejection?_eq uses sees v visited).imp_right fun equal => equal rootHandle
  refine ⟨same, node, member, named, ?_, ?_, ?_⟩
  · intro session session' generated generated' other among apart
    have outside : other.header.uniqueId ∉ Node.uniqueIds node.children := by
      intro shared
      obtain ⟨inner, inside, alikeNamed⟩ := List.mem_map.1 shared
      have below := Node.flattenAll_children_subset_of_mem member inside
      exact apart (Node.eq_of_uniqueId_eq built.nodup_uniqueIds below among alikeNamed ▸ inside)
    obtain ⟨out, walk, body⟩ := generate_eq_ok_iff.1 generated
    obtain ⟨out', walk', body'⟩ := generate_eq_ok_iff.1 generated'
    rw [same] at walk'
    have start : (Metadata.empty graph.id).AlikeOutside (Node.uniqueIds node.children) (.empty graph'.id) :=
      ⟨rfl, fun _ _ _ => rfl⟩
    have runs := agrees.walks uses sees start walk walk'
    refine ⟨?_, runs.metadata.expressions _ outside⟩
    rw [body, body', filter_creates_enclosed, filter_creates_enclosed, runs.created _ outside]
  · intro session e generated stopped
    exact rejected_of_generate accepted' same alike generated stopped
  · intro session e generated stopped
    refine rejected_of_generate accepted same.symm (fun v visited => ?_) generated stopped
    rw [ProcessGraph.visits, same] at visited
    exact (alike v visited).imp_right Eq.symm

/-- A process with a loop that declares variables, a task in it, and a task behind it. -/
def rowsDefinition (declarations : SortedMap Variable) : ProcessDefinition where
  id := "orders"
  name := none
  version := none
  declarations := .ofList [("rows", ⟨.array, none, none⟩), ("total", ⟨.number, none, none⟩)]
  nodes := [
    ⟨"each", "for-each", none, .ofList [("collection", .string "rows"), ("item", .string "row")], some declarations,
      some [⟨"use", "task", none, .ofList [("expr", .string "row + total")], none, none, []⟩], []⟩,
    ⟨"after", "task", none, .ofList [("expr", .string "total")], none, none, []⟩]
  connections := []

theorem isolation_of_generate_shadowing : ∃ graph graph' graph'' session session',
    ProcessGraph.ofDefinition (rowsDefinition (.ofList [("row", ⟨.object, none, none⟩)])) = .ok graph ∧
      ProcessGraph.ofDefinition (rowsDefinition (.ofList [("row", ⟨.object, none, none⟩),
        ("total", ⟨.string, none, none⟩)])) = .ok graph' ∧
      ProcessGraph.ofDefinition (rowsDefinition .empty) = .ok graph'' ∧
      generate graph .builtin .default = .ok session ∧ generate graph' .builtin .default = .ok session' ∧
      session.metadata.expression? "each:use" "expr" ≠ session'.metadata.expression? "each:use" "expr" ∧
      session.metadata.expression? "after" "expr" = session'.metadata.expression? "after" "expr" ∧
      session.body.instructions.filter (Body.creates "after") =
        session'.body.instructions.filter (Body.creates "after") ∧
      ∃ node ∈ Node.flattenAll graph.nodes, node.header.uniqueId = "each" ∧
        ∃ error, generate graph'' .builtin .default = .error (.rejected error) ∧
          error.nodeId ∈ Node.uniqueIds [node] := by
  have nodes : (ProcessGraph.ofDefinition (rowsDefinition (.ofList [("row", ⟨.object, none, none⟩)]))).toOption.map
      (fun graph => (Node.flattenAll graph.nodes).map
        fun node => (node.header.uniqueId, Node.uniqueIds node.children)) =
      some [("each", ["each:use"]), ("each:use", []), ("after", [])] := by decide +kernel
  have plain : ((rowsDefinition (.ofList [("row", ⟨.object, none, none⟩)])).session? .builtin .default).map
      (fun session => session.metadata.expression? "each:use" "expr") =
      some (some ⟨"row + total", [⟨"row", ⟨1⟩, .object⟩, ⟨"total", ⟨0⟩, .number⟩]⟩) := by decide +kernel
  have shadowed : ((rowsDefinition (.ofList [("row", ⟨.object, none, none⟩),
      ("total", ⟨.string, none, none⟩)])).session? .builtin .default).map
      (fun session => session.metadata.expression? "each:use" "expr") =
      some (some ⟨"row + total", [⟨"row", ⟨1⟩, .object⟩, ⟨"total", ⟨1⟩, .string⟩]⟩) := by decide +kernel
  have refused : ((rowsDefinition .empty).refusal? .builtin .default).isSome := by decide +kernel
  obtain ⟨session, found, use⟩ := Option.map_eq_some_iff.1 plain
  obtain ⟨graph, accepted, generated⟩ := ProcessDefinition.session?_eq_some_iff.1 found
  obtain ⟨session', found', use'⟩ := Option.map_eq_some_iff.1 shadowed
  obtain ⟨graph', accepted', generated'⟩ := ProcessDefinition.session?_eq_some_iff.1 found'
  obtain ⟨e, refused⟩ := Option.isSome_iff_exists.1 refused
  obtain ⟨graph'', accepted'', stopped⟩ := ProcessDefinition.refusal?_eq_some_iff.1 refused
  have differ : ∀ declarations declarations' : SortedMap Variable,
      (rowsDefinition declarations).Redeclared (rowsDefinition declarations') "each" :=
    fun declarations declarations' => ⟨rfl, .here _ _⟩
  obtain ⟨_, node, member, named, alike, _⟩ := isolation_of_generate (differ _ _) accepted accepted' .default
  obtain ⟨_, node', member', named', _, fails, _⟩ := isolation_of_generate (differ _ _) accepted accepted'' .default
  rw [accepted] at nodes
  have listing : (Node.flattenAll graph.nodes).map
      (fun node => (node.header.uniqueId, Node.uniqueIds node.children)) =
      [("each", ["each:use"]), ("each:use", []), ("after", [])] := Option.some.inj nodes
  have inner : Node.uniqueIds node.children = ["each:use"] := by
    have listed := List.mem_map_of_mem (f := fun node : Node => (node.header.uniqueId, Node.uniqueIds node.children))
      member
    rw [listing, named] at listed
    simpa using listed
  obtain ⟨after, among, behind⟩ : ∃ after ∈ Node.flattenAll graph.nodes, after.header.uniqueId = "after" := by
    have listed : ("after", []) ∈ [("each", ["each:use"]), ("each:use", []), ("after", [])] := by decide
    rw [← listing] at listed
    obtain ⟨after, among, entry⟩ := List.mem_map.1 listed
    exact ⟨after, among, congrArg Prod.fst entry⟩
  have outside : after ∉ Node.flattenAll node.children := by
    intro inside
    have shared : after.header.uniqueId ∈ Node.uniqueIds node.children := List.mem_map_of_mem inside
    rw [inner, behind] at shared
    exact absurd shared (by decide)
  obtain ⟨created, expressed⟩ := alike session session' generated generated' after among outside
  rw [behind] at created expressed
  obtain ⟨error, rfl, cause⟩ := fails session e generated stopped
  refine ⟨graph, graph', graph'', session, session', accepted, accepted', accepted'', generated, generated', ?_,
    expressed "expr", created, node', member', named', error, stopped, cause⟩
  rw [use, use']
  decide

end ProcessCompiler
