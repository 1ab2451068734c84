import ProcessCompiler.Proofs.Coverage
import ProcessCompiler.Proofs.Records
import ProcessCompiler.Proofs.Requests

/-!
# The artifacts of a definition

Which nodes a compilation creates can be read off the definition by recursion on its nodes, and what it gathers besides
code is what these nodes name: the work items, the signals, and the builders to import. A node that is left out, and a
node inside one that is not entered, names nothing.

* `ProcessDefinition.created`: the nodes that are created, each before those in it.
* `NodeHeader.workName?`, `NodeHeader.signal?`, `NodeHeader.factoryPath?`: what a node names.
* `artifacts_of_generate`: a compilation gathers just the names of the nodes that it creates.
-/

namespace ProcessCompiler

/-! ## Nodes that are created -/

mutual

/-- The nodes created for a node: none if it has no built-in type, else the node itself, and those created for the nodes
in it if its type is composite. -/
def NodeDefinition.created (parent : Option String) : NodeDefinition → List NodeHeader
  | ⟨id, type, name, attributes, _, none, _⟩ =>
    match BuiltinType.ofTag? type with
    | none => []
    | some _ => [⟨id, uniqueId parent id, type, name, attributes⟩]
  | ⟨id, type, name, attributes, _, some nodes, _⟩ =>
    match BuiltinType.ofTag? type with
    | none => []
    | some builtin =>
      ⟨id, uniqueId parent id, type, name, attributes⟩ ::
        if builtin.isComposite then NodeDefinition.createdAll (some (uniqueId parent id)) nodes else []

/-- The nodes created for the nodes of a list. -/
def NodeDefinition.createdAll (parent : Option String) : List NodeDefinition → List NodeHeader
  | [] => []
  | definition :: rest => definition.created parent ++ createdAll parent rest

end

/-- **The nodes created for a definition**, each before those in it. -/
def ProcessDefinition.created (d : ProcessDefinition) : List NodeHeader := NodeDefinition.createdAll none d.nodes

/-- The nodes that a walk comes to are those created for their definitions. -/
theorem Built.headers_visitsAll {arena : Arena} {parent : Option String} {scope : ScopeId}
    {definitions : List NodeDefinition} {nodes : List Node} (built : Built arena parent scope definitions nodes) :
    (Node.visitsAll .builtin scope nodes).map (fun v => v.node.header) =
      NodeDefinition.createdAll parent definitions := by
  induction built with
  | done => simp [Node.visitsAll, NodeDefinition.createdAll]
  | @plain parent scope definitions nodes id type _ _ _ _ _ _ _ _ ih =>
    rw [Node.visitsAll, NodeDefinition.createdAll, NodeDefinition.created, List.map_append, ih]
    cases tagged : BuiltinType.ofTag? type with
    | none => rw [Node.visits_of_unknown (by simp [Registry.find?_builtin, Node.header, tagged])]; rfl
    | some builtin =>
      have known : Registry.builtin.find? type = some builtin.generator := by simp [Registry.find?_builtin, tagged]
      rw [Node.visits_plain known]
      rfl
  | @composite parent scope own definitions inner nodes children id type _ _ _ _ _ _ _ _ _ _ _ ihWithin ihRest =>
    rw [Node.visitsAll, NodeDefinition.createdAll, NodeDefinition.created, List.map_append, ihRest]
    cases tagged : BuiltinType.ofTag? type with
    | none => rw [Node.visits_of_unknown (by simp [Registry.find?_builtin, Node.header, tagged])]; rfl
    | some builtin =>
      have known : Registry.builtin.find? type = some builtin.generator := by simp [Registry.find?_builtin, tagged]
      rw [Node.visits, known]
      simp only [BuiltinType.opens_generator, List.map_cons]
      cases builtin.isComposite with
      | false => rfl
      | true =>
        rw [if_pos rfl, if_pos rfl, ihWithin]
        rfl

/-! ## What a node names -/

namespace Json

/-- A text among the fields of an object: what is bound to a name, if that is a string. -/
def text? (fields : SortedMap Value) (name : String) : Option String :=
  match fields.find? name with
  | some (.string text) => some text
  | _ => none

/-- A field that must be a string is the text of that name. -/
theorem Field.text?_of_required {origin : Origin} {fields : SortedMap Value} {name text : String}
    (fits : (Field.required name Codec.string).Fits origin (occurrences name fields.entries) text) :
    text? fields name = some text := by
  rw [occurrences_entries] at fits
  unfold text?
  cases found : fields.find? name with
  | none =>
    rw [found] at fits
    cases fits
  | some v =>
    rw [found] at fits
    have told : Reader.string origin (.ofValue v) = .ok text := fits
    rw [Reader.string_eq_ok_iff.1 told]

/-- A field that may be a string is the text of that name, if there is one. -/
theorem Field.text?_of_optional {origin : Origin} {fields : SortedMap Value} {name : String} {read : Option String}
    (fits : (Field.optional name Codec.string).Fits origin (occurrences name fields.entries) read) :
    text? fields name = read := by
  rw [occurrences_entries] at fits
  unfold text?
  cases found : fields.find? name with
  | none =>
    rw [found] at fits
    exact Option.some.inj fits
  | some v =>
    rw [found] at fits
    have told : Reader.optional Reader.string origin (.ofValue v) = .ok read := fits
    rw [Reader.optional_string_eq_ok_iff.1 told]
    cases read <;> rfl

end Json

/-- A text that a node is told. -/
def NodeHeader.text? (node : NodeHeader) (name : String) : Option String := Json.text? node.attributes name

namespace BuiltinType

variable {attributes : SortedMap Json.Value}

/-- The name of a work item is the text under that name. -/
theorem text?_of_workItem {a : WorkItemAttributes} (told : BuiltinType.workItem.readAttributes attributes = .ok a) :
    Json.text? attributes "workName" = some a.workName := by
  obtain ⟨⟨workName, parameters, _⟩, read, rfl⟩ := Json.map_eq_ok_iff.1 told
  obtain ⟨inside, _, named, _⟩ := (Json.Record.read_object_eq_ok_iff (by decide)).1 read
  exact Json.Field.text?_of_required named

theorem text?_of_start {a : StartAttributes} (told : BuiltinType.start.readAttributes attributes = .ok a) :
    Json.text? attributes "signal" = a.signal := by
  obtain ⟨⟨signal, _⟩, read, rfl⟩ := Json.map_eq_ok_iff.1 told
  obtain ⟨inside, _, named, _⟩ := (Json.Record.read_object_eq_ok_iff (by decide)).1 read
  exact Json.Field.text?_of_optional named

theorem text?_of_eventSubProcess {a : EventSubProcessAttributes}
    (told : BuiltinType.eventSubProcess.readAttributes attributes = .ok a) :
    Json.text? attributes "signal" = some a.signal := by
  obtain ⟨⟨signal, _⟩, read, rfl⟩ := Json.map_eq_ok_iff.1 told
  obtain ⟨inside, _, named, _⟩ := (Json.Record.read_object_eq_ok_iff (by decide)).1 read
  exact Json.Field.text?_of_required named

end BuiltinType

namespace NodeHeader

/-- The work item that a node names: a `work-item` its `workName`. -/
def workName? (node : NodeHeader) : Option String :=
  match BuiltinType.ofTag? node.type with
  | some .workItem => node.text? "workName"
  | _ => none

/-- The signal that a node names: a `start` or an `event-sub` its `signal`. -/
def signal? (node : NodeHeader) : Option String :=
  match BuiltinType.ofTag? node.type with
  | some .start | some .eventSubProcess => node.text? "signal"
  | _ => none

/-- The path of the factory that the builder of a node has. -/
def factoryPath? (options : Options) (node : NodeHeader) : Option String :=
  (BuiltinType.ofTag? node.type).map fun type => options.runtimePath ("nodes::" ++ type.factoryType)

end NodeHeader

namespace Request

/-- The work item that a request adds. -/
def workItem? : Request → Option String
  | .workItem name => some name
  | _ => none

/-- The signal that a request adds. -/
def signal? : Request → Option String
  | .signal name => some name
  | _ => none

end Request

/-- What is requested of one kind for a node is what the node names. -/
def BuiltinType.Names (options : Options) (asked : Request → Option String) (named : NodeHeader → Option String) :
    Prop :=
  ∀ {type : BuiltinType} {a : type.Attributes} {site : Site} {node : NodeHeader}, site.options = options →
    BuiltinType.ofTag? node.type = some type → type.readAttributes node.attributes = .ok a →
      (type.requests a site node).filterMap asked = (named node).toList

namespace BuiltinType

theorem names_workItem (options : Options) : Names options Request.workItem? NodeHeader.workName? := by
  intro type a site node _ tagged told
  rw [filterMap_requests (fun _ => rfl) (fun _ _ _ => rfl), NodeHeader.workName?, tagged]
  cases type with
  | workItem => rw [NodeHeader.text?, text?_of_workItem told]; rfl
  | start => obtain ⟨_ | signal⟩ := a <;> rfl
  | split =>
    simp only [wants]
    split <;> rfl
  | finish | task | join | timer | milestone | subProcess | forEach | eventSubProcess => rfl

theorem names_signal (options : Options) : Names options Request.signal? NodeHeader.signal? := by
  intro type a site node _ tagged told
  rw [filterMap_requests (fun _ => rfl) (fun _ _ _ => rfl), NodeHeader.signal?, tagged]
  cases type with
  | start =>
    rw [NodeHeader.text?, text?_of_start told]
    obtain ⟨_ | signal⟩ := a <;> rfl
  | eventSubProcess => rw [NodeHeader.text?, text?_of_eventSubProcess told]; rfl
  | split =>
    simp only [wants]
    split <;> rfl
  | finish | task | workItem | join | timer | milestone | subProcess | forEach => rfl

theorem names_factoryPath (options : Options) :
    Names options Request.import? (NodeHeader.factoryPath? options) := by
  rintro type a site node rfl tagged told
  rw [filterMap_import?_requests, NodeHeader.factoryPath?, tagged]
  rfl

end BuiltinType

/-! ## Sets of names -/

/-- The nodes created for an accepted definition are those that a walk through its graph comes to. -/
theorem ProcessDefinition.created_eq {d : ProcessDefinition} {graph : ProcessGraph}
    (accepted : ProcessGraph.ofDefinition d = .ok graph) :
    d.created = (graph.visits .builtin).map fun v => v.node.header := by
  obtain ⟨_, _, _, built⟩ := built_of_ofDefinition accepted
  exact built.headers_visitsAll.symm

namespace Metadata

theorem gathers_workItems : Gathers Metadata.workItems Request.workItem? where
  empty _ := rfl
  adds m r name asks := by cases r <;> cases asks; rfl
  keeps m r silent := by
    cases r with
    | workItem name => cases silent
    | helper name code => rw [grant, addHelper_eq]
    | _ => rfl
  skips _ := rfl

theorem gathers_signals : Gathers Metadata.signals Request.signal? where
  empty _ := rfl
  adds m r name asks := by cases r <;> cases asks; rfl
  keeps m r silent := by
    cases r with
    | signal name => cases silent
    | helper name code => rw [grant, addHelper_eq]
    | _ => rfl
  skips _ := rfl

namespace Gathers

variable {names : Metadata → NameSet} {asked : Request → Option String}
  {d : ProcessDefinition} {graph : ProcessGraph} {options : Options} {session : Session}

/-- **What a compilation gathers is what the nodes that it creates name.** -/
theorem mem_iff (gathers : Gathers names asked) {named : NodeHeader → Option String}
    (tells : BuiltinType.Names options asked named) (accepted : ProcessGraph.ofDefinition d = .ok graph)
    (generated : generate graph .builtin options = .ok session) (name : String) :
    name ∈ (names session.metadata).toList ↔ ∃ node ∈ d.created, named node = some name := by
  have uses := Registry.usesBuiltins_builtin
  rw [metadata_of_generate uses generated, gathers.mem_grantAll, gathers.empty, Node.filterMap_askedAll gathers.skips,
    or_iff_right (by exact List.not_mem_nil), List.mem_flatMap, ProcessDefinition.created_eq accepted]
  simp only [List.mem_map, exists_exists_and_eq_and]
  refine exists_congr fun v => and_congr_right fun member => ?_
  obtain ⟨_, _, _, _, known⟩ := ProcessGraph.mem_visits_iff.1 member
  obtain ⟨type, tagged, builtin⟩ := Registry.exists_ofTag?_of_find?_builtin known
  obtain ⟨a, told, requests⟩ := requests_of_mem_visits uses generated member builtin.symm
  rw [requests, tells rfl tagged told, Option.mem_toList]

end Gathers

end Metadata

/-! ## Whole definitions -/

/-- The nodes that a compilation creates are those created for the definition, in order. -/
theorem nodeIds_eq_created {d : ProcessDefinition} {graph : ProcessGraph} {options : Options} {session : Session}
    (accepted : ProcessGraph.ofDefinition d = .ok graph) (generated : generate graph .builtin options = .ok session) :
    session.body.nodeIds = d.created.map NodeHeader.uniqueId := by
  rw [nodeIds_of_generate generated, ProcessDefinition.created_eq accepted, List.map_map]
  rfl

/-- **A compilation gathers the names of the nodes that it creates**, and no others: each set is in ascending order, and
has the work items, the signals, or the paths of the factories that the nodes created for the definition name. -/
theorem artifacts_of_generate {d : ProcessDefinition} {graph : ProcessGraph} {options : Options} {session : Session}
    (accepted : ProcessGraph.ofDefinition d = .ok graph) (generated : generate graph .builtin options = .ok session) :
    session.body.nodeIds = d.created.map NodeHeader.uniqueId ∧
      (session.metadata.workItems.toList.Pairwise (· < ·) ∧ ∀ name, name ∈ session.metadata.workItems.toList ↔
        ∃ node ∈ d.created, node.workName? = some name) ∧
      (session.metadata.signals.toList.Pairwise (· < ·) ∧ ∀ name, name ∈ session.metadata.signals.toList ↔
        ∃ node ∈ d.created, node.signal? = some name) ∧
      (session.metadata.imports.toList.Pairwise (· < ·) ∧ ∀ path, path ∈ session.metadata.imports.toList ↔
        ∃ node ∈ d.created, node.factoryPath? options = some path) :=
  ⟨nodeIds_eq_created accepted generated,
    ⟨SortedMap.pairwise_keys _, Metadata.gathers_workItems.mem_iff (BuiltinType.names_workItem _) accepted generated⟩,
    ⟨SortedMap.pairwise_keys _, Metadata.gathers_signals.mem_iff (BuiltinType.names_signal _) accepted generated⟩,
    ⟨SortedMap.pairwise_keys _, Metadata.gathers_imports.mem_iff (BuiltinType.names_factoryPath _) accepted generated⟩⟩

/-- A process whose nodes name things twice, and have nodes in them that are left out with what they name. -/
def dispatchDefinition : ProcessDefinition where
  id := "dispatch"
  name := none
  version := none
  declarations := .empty
  nodes := [
    ⟨"begin", "start", none, .ofList [("signal", .string "order")], none, none, []⟩,
    ⟨"again", "start", none, .ofList [("signal", .null)], none, none, []⟩,
    ⟨"old", "legacy", none, .empty, none,
      some [⟨"lost", "work-item", none, .ofList [("workName", .string "archive")], none, none, []⟩], []⟩,
    ⟨"both", "join", none, .ofList [("kind", .string "and")], none,
      some [⟨"late", "event-sub", none, .ofList [("signal", .string "never")], none, some [], []⟩], []⟩,
    ⟨"ship", "work-item", none, .ofList [("workName", .string "ship")], none, none, []⟩,
    ⟨"back", "event-sub", none, .ofList [("signal", .string "cancel")], none, some [
      ⟨"ship", "work-item", none, .ofList [("workName", .string "ship")], none, none, []⟩,
      ⟨"bill", "work-item", none, .ofList [("workName", .string "refund")], none, none, []⟩,
      ⟨"more", "event-sub", none, .ofList [("signal", .string "order")], none, some [], []⟩], []⟩]
  connections := []

theorem artifacts_of_generate_dispatch : ∃ graph session,
    ProcessGraph.ofDefinition dispatchDefinition = .ok graph ∧
      generate graph .builtin Options.default = .ok session ∧
      session.body.nodeIds = dispatchDefinition.created.map NodeHeader.uniqueId ∧
      session.body.nodeIds = ["begin", "again", "both", "ship", "back", "back:ship", "back:bill", "back:more"] ∧
      session.metadata.workItems.toList = ["refund", "ship"] ∧
      session.metadata.signals.toList = ["cancel", "order"] := by
  have gathered : (dispatchDefinition.session? .builtin Options.default).map (fun session =>
      (session.body.nodeIds, session.metadata.workItems.toList, session.metadata.signals.toList)) =
        some (["begin", "again", "both", "ship", "back", "back:ship", "back:bill", "back:more"], ["refund", "ship"],
          ["cancel", "order"]) := by decide +kernel
  obtain ⟨session, found, names⟩ := Option.map_eq_some_iff.1 gathered
  obtain ⟨graph, accepted, generated⟩ := ProcessDefinition.session?_eq_some_iff.1 found
  simp only [Prod.mk.injEq] at names
  exact ⟨graph, session, accepted, generated, (artifacts_of_generate accepted generated).1, names⟩

end ProcessCompiler
