import ProcessCompiler.Proofs.Expressions
import ProcessCompiler.Proofs.Occurrences
import ProcessCompiler.Proofs.Resolution

/-!
# Static scoping

Where a variable of an expression is declared can be read off the definition: in the nearest composite node around the
node that declares the name, or else in the process. A node's own variables are not seen by its attributes.

* `ProcessDefinition.innermost?`: the innermost declaration of a name, seen from inside composite nodes.
* `Stands`: how a scope of the graph stands to the composite nodes around it in the definition.
* `scoping_of_generate`: what is generated binds every name to its innermost declaration.
-/

namespace ProcessCompiler

/-! ## Scoping in a definition -/

namespace ProcessDefinition

/-- **The innermost declaration of a name** seen from inside composite nodes, and the node that declares it; the process
declares what no node does. -/
def innermost? (d : ProcessDefinition) (name : String) : List Enclosure → Option (Option String × Variable)
  | [] => (d.declarations.find? name).map fun v => (none, v)
  | enclosure :: above =>
    match enclosure.declarations.find? name with
    | some v => some (some enclosure.uniqueId, v)
    | none => d.innermost? name above

end ProcessDefinition

/-! ## Scopes of a graph -/

/-- The scope of the process, or of the composite node with a unique id. -/
def ProcessGraph.OwnsScope (graph : ProcessGraph) (owner : Option String) (scope : ScopeId) : Prop :=
  match owner with
  | none => scope = rootScope
  | some unique => ∃ node ∈ Node.flattenAll graph.nodes, node.header.uniqueId = unique ∧ node.scope? = some scope

/-- **A scope of a graph stands inside composite nodes of the definition.** -/
inductive Stands (d : ProcessDefinition) (graph : ProcessGraph) : ScopeId → List Enclosure → Prop
  | root (found : graph.scopes.get? ProcessGraph.rootScope = some ⟨d.declarations, none⟩) :
      Stands d graph ProcessGraph.rootScope []
  | inner {enclosing own : ScopeId} {enclosure : Enclosure} {above : List Enclosure}
      (around : Stands d graph enclosing above) (newer : enclosing.index < own.index)
      (found : graph.scopes.get? own = some ⟨enclosure.declarations, some enclosing⟩)
      (owned : graph.OwnsScope (some enclosure.uniqueId) own) : Stands d graph own (enclosure :: above)

/-- A name is resolved to its innermost declaration, in the scope of the node that declares it. -/
theorem Stands.innermost?_of_resolve {d : ProcessDefinition} {graph : ProcessGraph} {scope declaredIn : ScopeId}
    {above : List Enclosure} {name : String} {v : Variable} (stands : Stands d graph scope above)
    (h : graph.scopes.resolve scope name = some (declaredIn, v)) :
    declaredIn.index ≤ scope.index ∧
      ∃ owner, d.innermost? name above = some (owner, v) ∧ graph.OwnsScope owner declaredIn := by
  induction stands with
  | root found =>
    rw [Arena.resolve_eq found (by simp)] at h
    cases declared : d.declarations.find? name with
    | none => simp [declared] at h
    | some v' =>
      simp only [declared, Option.some.injEq, Prod.mk.injEq] at h
      obtain ⟨rfl, rfl⟩ := h
      refine ⟨Nat.le_refl _, none, ?_, rfl⟩
      rw [ProcessDefinition.innermost?, declared]
      rfl
  | @inner enclosing own enclosure above around newer found owned ih =>
    rw [Arena.resolve_eq found (by simpa using newer)] at h
    rw [ProcessDefinition.innermost?]
    cases declared : enclosure.declarations.find? name with
    | some v' =>
      simp only [declared, Option.some.injEq, Prod.mk.injEq] at h
      obtain ⟨rfl, rfl⟩ := h
      exact ⟨Nat.le_refl _, some enclosure.uniqueId, rfl, owned⟩
    | none =>
      simp only [declared] at h
      obtain ⟨older, owner, innermost, owns⟩ := ih h
      exact ⟨by omega, owner, innermost, owns⟩

/-! ## Nodes that are created -/

section Facts

variable (d : ProcessDefinition) (graph : ProcessGraph)

/-- **The node of a definition with a unique id** has a built-in type and attributes that can be read. -/
structure Told (unique : String) (above : List Enclosure) (definition : NodeDefinition) (type : BuiltinType)
    (a : type.Attributes) : Prop where
  occurs : d.Occurs unique above definition
  once : ∀ above' definition', d.Occurs unique above' definition' → above' = above ∧ definition' = definition
  tagged : BuiltinType.ofTag? definition.type = some type
  read : type.readAttributes definition.attributes = .ok a

/-- A variable that an expression reads is the innermost declaration of its name, in the scope it is declared in. -/
def Bound (above : List Enclosure) (r : Reference) : Prop :=
  ∃ owner v, d.innermost? r.name above = some (owner, v) ∧ r.type = v.type ∧ graph.OwnsScope owner r.scope

/-- **An expression is that of an attribute**: it has the attribute's text without delimiters, reads just the names in
it, and binds each to its innermost declaration around the node. -/
def Expressed (unique key : String) (e : ResolvedExpression) : Prop :=
  ∃ above definition type a raw, Told d unique above definition type a ∧
    (type.expressions a).reverse.find? (fun x => x.1 == key) = some (key, raw) ∧ e.text = Expression.strip raw ∧
    e.references.map Reference.name = Expression.references e.text ∧
    ∀ r ∈ e.references, Bound d graph above r ∧ ¬ graph.OwnsScope (some unique) r.scope

/-- **A node stores into variables that are declared**: its results into one that is declared around it, its items into
one of its own. -/
def Stores (unique : String) : Prop :=
  ∃ above definition type a, Told d unique above definition type a ∧
    (∀ raw ∈ type.receivers a, (d.innermost? (receiverName raw) above).isSome) ∧
    ∀ raw ∈ type.items a, ((definition.declarations.getD .empty).find? (receiverName raw)).isSome

/-- What is kept and created on a walk is as the definition says. -/
structure Scoped (m : Metadata) (out : List Instruction) (m' : Metadata) : Prop where
  expressed : ∀ unique key e, m'.expression? unique key = some e →
    m.expression? unique key = some e ∨ Expressed d graph unique key e
  stores : ∀ i ∈ out, ∀ unique, i.nodeId? = some unique → Stores d unique

end Facts

namespace Scoped

variable {d : ProcessDefinition} {graph : ProcessGraph} {m m' m'' : Metadata} {out more : List Instruction}

theorem trans (h : Scoped d graph m out m') (h' : Scoped d graph m' more m'') :
    Scoped d graph m (out ++ more) m'' where
  expressed unique key e kept := by
    rcases h'.expressed unique key e kept with before | here
    · exact h.expressed unique key e before
    · exact .inr here
  stores i member := (List.mem_append.1 member).elim (h.stores i) (h'.stores i)

/-- Only instructions that create nodes count. -/
theorem congr (h : Scoped d graph m out m') (same : ∀ i ∈ more, i ∈ out ∨ i.nodeId? = none) :
    Scoped d graph m more m' where
  expressed := h.expressed
  stores i member unique creates := by
    rcases same i member with member | none
    · exact h.stores i member unique creates
    · rw [none] at creates
      cases creates

theorem nothing (same : ∀ unique key, m'.expression? unique key = m.expression? unique key) :
    Scoped d graph m [] m' where
  expressed unique key e kept := .inl (same unique key ▸ kept)
  stores i member := by cases member

variable {options : Options} {handle : String} {scope : ScopeId} {node : Node} {above : List Enclosure}
  {definition : NodeDefinition} {type : BuiltinType} {a : type.Attributes} {requests : List Request}
  {code : String → Code}

/-- The variables that an expression of a node reads are bound around the node. -/
theorem bound_of_mem_resolved (stands : Stands d graph scope above) {raw : String} {r : Reference}
    (member : r ∈ (Site.resolved ⟨options, graph.scopes, handle, scope⟩ raw).references) :
    Bound d graph above r ∧ r.scope.index ≤ scope.index := by
  have found := Site.reference?_of_mem_resolved member
  obtain ⟨⟨declaredIn, v⟩, resolved, same⟩ := Option.map_eq_some_iff.1 found
  obtain ⟨older, owner, innermost, owns⟩ := stands.innermost?_of_resolve resolved
  rw [← same]
  exact ⟨⟨owner, v, innermost, rfl, owns⟩, older⟩

/-- The expressions of a node bind names as the definition says. -/
theorem expressed_of_drafted (told : Told d node.header.uniqueId above definition type a)
    (stands : Stands d graph scope above)
    (said : type.Drafted a ⟨options, graph.scopes, handle, scope⟩ node.header node.scope? requests code)
    (apart : ∀ own, graph.OwnsScope (some node.header.uniqueId) own → scope.index < own.index) {unique key : String}
    {e : ResolvedExpression} (kept : (m.grantAll requests).expression? unique key = some e) :
    m.expression? unique key = some e ∨ Expressed d graph unique key e := by
  rw [said.asked] at kept
  rcases BuiltinType.expression?_requests kept with before | ⟨rfl, raw, same, last⟩
  · exact .inl before
  have member : (key, raw) ∈ type.expressions a := List.mem_reverse.1 (List.mem_of_find?_eq_some last)
  have named := Site.names_resolved (said.resolved _ member)
  rw [← same] at named
  refine .inr ⟨above, definition, type, a, raw, told, last, by rw [same]; rfl, by rw [named, same]; rfl, ?_⟩
  intro r reads
  rw [same] at reads
  obtain ⟨bound, older⟩ := bound_of_mem_resolved stands reads
  refine ⟨bound, fun owns => ?_⟩
  have := apart _ owns
  omega

/-- The variables that a node stores into are declared where the definition says. -/
theorem stores_of_drafted (told : Told d node.header.uniqueId above definition type a)
    (stands : Stands d graph scope above)
    (said : type.Drafted a ⟨options, graph.scopes, handle, scope⟩ node.header node.scope? requests code)
    (owned : ∀ own ∈ node.scope?, ∃ around,
      graph.scopes.get? own = some ⟨definition.declarations.getD .empty, around⟩) : Stores d node.header.uniqueId := by
  refine ⟨above, definition, type, a, told, fun raw listed => ?_, fun raw listed => ?_⟩
  · obtain ⟨r, found⟩ := Option.isSome_iff_exists.1 (said.received raw listed)
    obtain ⟨⟨declaredIn, v⟩, resolved, _⟩ := Option.map_eq_some_iff.1 found
    obtain ⟨_, owner, innermost, _⟩ := stands.innermost?_of_resolve resolved
    rw [innermost]
    rfl
  · obtain ⟨own, listedOwn, declared⟩ := said.declared raw listed
    obtain ⟨around, found⟩ := owned own listedOwn
    rw [Arena.declared?, found] at declared
    exact declared

/-- **A node that is created binds names as the definition says.** -/
theorem creation (told : Told d node.header.uniqueId above definition type a) (stands : Stands d graph scope above)
    (said : type.Drafted a ⟨options, graph.scopes, handle, scope⟩ node.header node.scope? requests code)
    (apart : ∀ own, graph.OwnsScope (some node.header.uniqueId) own → scope.index < own.index)
    (owned : ∀ own ∈ node.scope?, ∃ around,
      graph.scopes.get? own = some ⟨definition.declarations.getD .empty, around⟩) (creating : Code) :
    Scoped d graph m [.creation handle node.header creating] (m.grantAll requests) where
  expressed _ _ _ kept := expressed_of_drafted told stands said apart kept
  stores i member unique creates := by
    rw [List.mem_singleton.1 member] at creates
    rw [← Option.some.inj creates]
    exact stores_of_drafted told stands said owned

end Scoped

/-! ## Walks -/

section Walks

variable {d : ProcessDefinition} {graph : ProcessGraph} {options : Options}

/-- A node that is drafted binds names as its definition says. -/
theorem scoped_of_draft (accepted : ProcessGraph.ofDefinition d = .ok graph) {scope : ScopeId}
    {above : List Enclosure} (stands : Stands d graph scope above) {node : Node} {definition : NodeDefinition}
    (occurs : d.Occurs node.header.uniqueId above definition) (typed : node.header.type = definition.type)
    (attributed : node.header.attributes = definition.attributes) (member : node ∈ Node.flattenAll graph.nodes)
    (owned : ∀ own ∈ node.scope?, scope.index < own.index ∧
      ∃ around, graph.scopes.get? own = some ⟨definition.declarations.getD .empty, around⟩)
    {handle : String} {generator : Generator} {requests : List Request} {code : String → Code}
    (known : Registry.builtin.find? node.header.type = some generator)
    (drafted : generator.draft ⟨options, graph.scopes, handle, scope⟩ node = ⟨requests, .ok code⟩) (m : Metadata)
    (creating : Code) : Scoped d graph m [.creation handle node.header creating] (m.grantAll requests) := by
  obtain ⟨type, tagged, rfl⟩ := Registry.exists_ofTag?_of_find?_builtin known
  obtain ⟨a, said⟩ := BuiltinType.drafted_of_eq_ok drafted
  obtain ⟨_, _, _, built⟩ := built_of_ofDefinition accepted
  have told : Told d node.header.uniqueId above definition type a := {
    occurs := occurs
    once := fun _ _ other => occurs.eq_of_accepted accepted other
    tagged := typed ▸ tagged
    read := attributed ▸ said.told }
  refine .creation told stands said ?_ (fun own ownedBy => (owned own ownedBy).2) creating
  rintro own ⟨other, member', same, owns⟩
  rw [Node.eq_of_uniqueId_eq built.nodup_uniqueIds member' member same] at owns
  exact (owned own owns).1

theorem scoped_of_skip (m : Metadata) (plan : Plan) (node : NodeHeader) :
    Scoped d graph m [] (m.grantAll (plan.skipRequests node)) :=
  .nothing fun _ _ => m.expression?_skipRequests plan node

/-- **A walk over nodes that are built binds names as their definitions say.** -/
theorem Built.binds (accepted : ProcessGraph.ofDefinition d = .ok graph) {parent : Option String} {scope : ScopeId}
    {definitions : List NodeDefinition} {nodes : List Node}
    (built : Built graph.scopes parent scope definitions nodes) :
    ∀ {above : List Enclosure} {handle : String} {m m' : Metadata} {out : List Instruction},
      Stands d graph scope above →
      (∀ {unique around definition}, NodeDefinition.Occurs parent above definitions unique around definition →
        d.Occurs unique around definition) →
      Node.flattenAll nodes ⊆ Node.flattenAll graph.nodes →
      Walk ⟨.builtin, options, graph.scopes⟩ handle scope nodes m out m' → Scoped d graph m out m' := by
  induction built with
  | done =>
    intro above handle m m' out _ _ _ walk
    cases walk
    exact .nothing fun _ _ => rfl
  | @plain parent scope definitions nodes id tag name attributes declarations connections valid fresh bare rest ih =>
    intro above handle m m' out stands occurs listed walk
    let node : Node := .plain ⟨id, uniqueId parent id, tag, name, attributes⟩
    have here : d.Occurs node.header.uniqueId above _ := occurs (.here List.mem_cons_self)
    have member : node ∈ Node.flattenAll graph.nodes := listed (Node.mem_flattenAll_self _ _)
    have further {m out} := @ih above handle m m' out stands (fun h => occurs h.cons)
      (fun node member => listed (Node.flattenAll_subset _ _ member))
    cases walk with
    | skip unknown others => exact (scoped_of_skip _ _ _).trans (further others)
    | leaf known closed drafted others =>
      have owned : ∀ own ∈ node.scope?, scope.index < own.index ∧
          ∃ around, graph.scopes.get? own = some ⟨declarations.getD .empty, around⟩ := by
        rintro own ⟨⟩
      have created := scoped_of_draft accepted stands here rfl rfl member owned known drafted m
      exact (created _).trans (further others)
  | @composite parent scope own definitions inner nodes children id tag name attributes declarations connections valid
      fresh found newer within joined rest ihWithin ihRest =>
    intro above handle m m' out stands occurs listed walk
    let node : Node := .composite ⟨id, uniqueId parent id, tag, name, attributes⟩ own children connections
    have here : d.Occurs node.header.uniqueId above _ := occurs (.here List.mem_cons_self)
    have member : node ∈ Node.flattenAll graph.nodes := listed (Node.mem_flattenAll_self _ _)
    have owned : ∀ own' ∈ node.scope?, scope.index < own'.index ∧
        ∃ around, graph.scopes.get? own' = some ⟨declarations.getD .empty, around⟩ := by
      rintro _ ⟨⟩
      exact ⟨newer, _, found⟩
    have further {m out} := @ihRest above handle m m' out stands (fun h => occurs h.cons)
      (fun node member => listed (Node.flattenAll_subset _ _ member))
    cases walk with
    | skip unknown others => exact (scoped_of_skip _ _ _).trans (further others)
    | leaf known closed drafted others =>
      have created := scoped_of_draft accepted stands here rfl rfl member owned known drafted m
      exact (created _).trans (further others)
    | @composite _ named _ _ _ _ _ _ _ _ _ _ _ _ _ code known opens nested drafted _ insideWalk others =>
      have created := scoped_of_draft accepted stands here rfl rfl member owned known drafted m (code named)
      -- The scope of the node is new, and what it declares is in front for the nodes in it.
      have deeper : Stands d graph own (⟨uniqueId parent id, declarations.getD .empty⟩ :: above) :=
        .inner stands newer found ⟨node, member, rfl, rfl⟩
      have inside := ihWithin deeper (fun h => occurs (.inside List.mem_cons_self rfl h))
        (fun node member => listed (Node.flattenAll_children_subset _ _ _ _ _ member)) insideWalk
      refine ((created.trans inside).trans (further others)).congr fun i among => ?_
      rcases mem_composite among with rfl | within | beside | ⟨none, _⟩
      · exact .inl (List.mem_append_left _ (List.mem_append_left _ List.mem_cons_self))
      · exact .inl (List.mem_append_left _ (List.mem_append_right _ within))
      · exact .inl (List.mem_append_right _ beside)
      · exact .inr none

/-- **What is generated binds names as the definition says.** Every expression that is kept is that of an attribute of
the node with this unique id, and each variable in it is the innermost declaration of its name around the node. Every
node that is created stores its results into variables declared around it, and its items into variables of its own. -/
theorem scoping_of_generate {d : ProcessDefinition} {session : Session}
    (accepted : ProcessGraph.ofDefinition d = .ok graph) (generated : generate graph .builtin options = .ok session) :
    (∀ unique key e, session.metadata.expression? unique key = some e → Expressed d graph unique key e) ∧
      ∀ i ∈ session.body.instructions, ∀ unique, i.nodeId? = some unique → Stores d unique := by
  obtain ⟨_, _, root, built⟩ := built_of_ofDefinition accepted
  obtain ⟨out, walk, body⟩ := generate_eq_ok_iff.1 generated
  have binds := built.binds accepted (.root root) (fun h => h) (fun node member => member) walk
  constructor
  · intro unique key e kept
    rcases binds.expressed unique key e kept with before | here
    · cases before
    · exact here
  · intro i member unique creates
    rw [body] at member
    rcases mem_enclosed member with inside | ⟨none, _⟩
    · exact binds.stores i inside unique creates
    · rw [none] at creates
      cases creates

end Walks

/-- A process with a loop over `row` whose items are called `row` too. -/
def shadowingDefinition : ProcessDefinition where
  id := "orders"
  name := none
  version := none
  declarations := .ofList [("row", ⟨.array, none, none⟩), ("done", ⟨.boolean, none, none⟩)]
  nodes := [
    ⟨"each", "for-each", none,
      .ofList [("collection", .string "#\x7brow\x7d"), ("item", .string "row"), ("output", .string "#\x7b done \x7d")],
      some (.ofList [("row", ⟨.object, none, none⟩)]),
      some [⟨"check", "task", none, .ofList [("expr", .string "row.size == done")], none, none, []⟩], []⟩]
  connections := []

theorem scoping_of_generate_shadowing : ∃ graph session e inner,
    ProcessGraph.ofDefinition shadowingDefinition = .ok graph ∧ generate graph .builtin .default = .ok session ∧
      session.metadata.expression? "each" "collection" = some e ∧ e = ⟨"row", [⟨"row", ⟨0⟩, .array⟩]⟩ ∧
      session.metadata.expression? "each:check" "expr" = some inner ∧
      inner = ⟨"row.size == done", [⟨"row", ⟨1⟩, .object⟩, ⟨"done", ⟨0⟩, .boolean⟩]⟩ ∧
      Expressed shadowingDefinition graph "each" "collection" e ∧
      Expressed shadowingDefinition graph "each:check" "expr" inner ∧ Stores shadowingDefinition "each" := by
  have kept : (shadowingDefinition.session? .builtin .default).map (fun session =>
      (session.metadata.expression? "each" "collection", session.metadata.expression? "each:check" "expr",
        session.body.instructions.filterMap Instruction.nodeId?)) =
      some (some ⟨"row", [⟨"row", ⟨0⟩, .array⟩]⟩,
        some ⟨"row.size == done", [⟨"row", ⟨1⟩, .object⟩, ⟨"done", ⟨0⟩, .boolean⟩]⟩, ["each", "each:check"]) := by
    decide +kernel
  obtain ⟨session, found, same⟩ := Option.map_eq_some_iff.1 kept
  obtain ⟨graph, accepted, generated⟩ := ProcessDefinition.session?_eq_some_iff.1 found
  simp only [Prod.mk.injEq] at same
  obtain ⟨outer, inner, created⟩ := same
  obtain ⟨expressed, stores⟩ := scoping_of_generate accepted generated
  obtain ⟨i, member, creates⟩ : ∃ i ∈ session.body.instructions, i.nodeId? = some "each" := by
    rw [← List.mem_filterMap, created]
    exact List.mem_cons_self
  exact ⟨graph, session, _, _, accepted, generated, outer, rfl, inner, rfl, expressed _ _ _ outer,
    expressed _ _ _ inner, stores i member "each" creates⟩

end ProcessCompiler
