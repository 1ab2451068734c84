import ProcessCompiler.Proofs.Diagnostics
import ProcessCompiler.Proofs.Locality

/-!
# Nodes that are left out

A node of unknown type is left out with all that is in it, and reported if the options say so. A node of a plain type
hides what is in it: the nodes there are neither created nor reported.

* `Walk.nodeIds_eq`: a walk creates the nodes that it comes to.
* `Walk.skips_iff`: a walk reports the nodes of unknown type inside nodes that it enters.
* `lost_of_ofPlainType`: what is in a created node of a plain type is neither created nor reported.
* `coverage_of_generate`: which nodes are created, or left out with a report.
-/

namespace ProcessCompiler

/-- The report that a node is left out. -/
def NodeHeader.skip (node : NodeHeader) : Diagnostic := ⟨node.uniqueId, node.type, .unsupportedType⟩

/-- Whether nodes are of a built-in type that has no use for nodes in them. -/
def Node.OfPlainType (node : Node) : Prop :=
  ∃ type, BuiltinType.ofTag? node.header.type = some type ∧ type.isComposite = false

/-! ## Nodes that are created -/

section Walks

variable {plan : Plan} {handle : String} {scope : ScopeId} {above nodes : List Node} {m m' : Metadata}
  {out : List Instruction}

/-- **A walk creates the nodes that it comes to**, in order. -/
theorem Walk.nodeIds_eq (walk : Walk plan handle scope nodes m out m') :
    out.filterMap Instruction.nodeId? =
      (Node.visitsAll plan.registry scope nodes).map fun v => v.node.header.uniqueId := by
  induction walk with
  | done => rfl
  | skip unknown rest ih =>
    rw [Node.visitsAll, Node.visits_of_unknown unknown, List.nil_append]
    exact ih
  | leaf known closed drafted rest ih =>
    rw [Node.visitsAll, Node.visits_of_closed known closed, List.filterMap_cons, Instruction.nodeId?_creation, ih]
    rfl
  | composite known opens nested drafted named within rest ihWithin ihRest =>
    rw [Node.visitsAll, Node.visits_composite known opens]
    simp only [List.cons_append, List.filterMap_cons, Instruction.nodeId?_creation, List.filterMap_append,
      filterMap_nodeId?_declareVariables, filterMap_nodeId?_connect, Instruction.nodeId?_closing, List.filterMap_nil,
      List.nil_append, List.append_nil, ihWithin, ihRest, List.map_cons, List.map_append]
    rfl

/-! ## Nodes that are reported -/

/-- A node of unknown type, inside nodes that are entered. -/
def Registry.Skips (registry : Registry) (above nodes : List Node) (d : Diagnostic) : Prop :=
  ∃ around node, Node.Within above nodes around node ∧ (∀ outer ∈ around, registry.Enters outer) ∧
    registry.find? node.header.type = none ∧ d = node.header.skip

/-- Nodes are skipped at the front, in what is at the front, or further behind. -/
theorem Registry.skips_cons_iff {registry : Registry} {first : Node} {d : Diagnostic}
    (entered : ∀ outer ∈ above, registry.Enters outer) : registry.Skips above (first :: nodes) d ↔
      (registry.find? first.header.type = none ∧ d = first.header.skip) ∨
        (registry.Enters first ∧ registry.Skips (first :: above) first.children d) ∨ registry.Skips above nodes d := by
  constructor
  · rintro ⟨around, node, within, enters, unknown, same⟩
    rcases within.of_cons with ⟨rfl, rfl⟩ | inside | beside
    · exact .inl ⟨unknown, same⟩
    · have enters' := enters first (inside.above_subset List.mem_cons_self)
      exact .inr (.inl ⟨enters', around, node, inside, enters, unknown, same⟩)
    · exact .inr (.inr ⟨around, node, beside, enters, unknown, same⟩)
  · rintro (⟨unknown, same⟩ | ⟨_, around, node, inside, enters, unknown, same⟩ |
      ⟨around, node, beside, enters, unknown, same⟩)
    · exact ⟨above, first, .here List.mem_cons_self, entered, unknown, same⟩
    · exact ⟨around, node, .inside List.mem_cons_self inside, enters, unknown, same⟩
    · exact ⟨around, node, beside.mono (List.subset_cons_self _ _), enters, unknown, same⟩

/-- What is requested for a node that is compiled does not report that it is left out. -/
theorem mem_diagnostics_of_drafted {type : BuiltinType} {a : type.Attributes} {site : Site} {node : NodeHeader}
    {own? : Option ScopeId} {requests : List Request} {code : String → Code} {d : Diagnostic}
    (said : type.Drafted a site node own? requests code) (skip : d.kind = .unsupportedType) :
    d ∈ (m.grantAll requests).diagnostics ↔ d ∈ m.diagnostics := by
  rw [Metadata.diagnostics_grantAll, List.mem_append, said.asked, BuiltinType.filterMap_diagnostic?_requests]
  refine or_iff_left fun member => ?_
  obtain ⟨raw, _, reported⟩ := List.mem_flatMap.1 member
  unfold Site.reports at reported
  split at reported
  · rw [List.mem_singleton.1 reported] at skip
    cases skip
  · cases reported

/-- **A walk reports the nodes of unknown type inside nodes that it enters**, if the options say so. -/
theorem Walk.skips_iff (uses : plan.registry.UsesBuiltins) (reports : plan.options.diagnostics = true)
    (walk : Walk plan handle scope nodes m out m') (entered : ∀ outer ∈ above, plan.registry.Enters outer)
    {d : Diagnostic} (skip : d.kind = .unsupportedType) :
    d ∈ m'.diagnostics ↔ d ∈ m.diagnostics ∨ plan.registry.Skips above nodes d := by
  induction walk generalizing above with
  | done => exact (or_iff_left fun ⟨_, _, within, _⟩ => within.not_nil).symm
  | @skip _ _ node nodes m _ _ unknown rest ih =>
    have here : d ∈ (m.grantAll (plan.skipRequests node.header)).diagnostics ↔
        d ∈ m.diagnostics ∨ d = node.header.skip := by
      rw [Plan.skipRequests, if_pos reports, Metadata.diagnostics_grantAll, List.mem_append]
      exact or_congr_right List.mem_singleton
    have closed : ¬ plan.registry.Enters node := by
      rintro ⟨generator, known, _⟩
      rw [unknown] at known
      cases known
    rw [ih entered, here, Registry.skips_cons_iff entered, and_iff_right unknown, or_assoc]
    refine or_congr_right (or_congr_right ?_)
    exact (or_iff_right fun inside => closed inside.1).symm
  | @leaf _ _ node nodes _ _ _ _ _ _ known closed drafted rest ih =>
    obtain ⟨type, a, rfl, said⟩ := uses.drafted known drafted
    have shut : ¬ plan.registry.Enters node := by
      rintro ⟨generator, known', opens⟩
      rw [known] at known'
      cases known'
      rw [closed] at opens
      cases opens
    have front : ¬ (plan.registry.find? node.header.type = none ∧ d = node.header.skip) := by simp [known]
    rw [ih entered, mem_diagnostics_of_drafted said skip, Registry.skips_cons_iff entered, or_iff_right front]
    exact or_congr_right (or_iff_right fun inside => shut inside.1).symm
  | @composite _ _ _ own header children nodes connections _ _ _ _ _ _ _ _ known opens _ drafted _ _ _ ihWithin
      ihRest =>
    obtain ⟨type, a, rfl, said⟩ := uses.drafted known drafted
    have enters : plan.registry.Enters (.composite header own children connections) := ⟨_, known, opens⟩
    have further : ∀ outer ∈ Node.composite header own children connections :: above, plan.registry.Enters outer := by
      intro outer listed
      rcases List.mem_cons.1 listed with rfl | listed
      · exact enters
      · exact entered outer listed
    have front : ¬ (plan.registry.find? header.type = none ∧ d = header.skip) := by simp [known]
    rw [ihRest entered, ihWithin further, mem_diagnostics_of_drafted said skip, Registry.skips_cons_iff entered,
      and_iff_right enters, or_assoc]
    exact or_congr_right (or_iff_right front).symm

end Walks

/-! ## Whole graphs -/

section Graphs

variable {d : ProcessDefinition} {graph : ProcessGraph} {options : Options} {session : Session} {around : List Node}
  {node : Node}

/-- The nodes that are created are those that a walk comes to, in order. -/
theorem nodeIds_of_generate {registry : Registry} (generated : generate graph registry options = .ok session) :
    session.body.nodeIds = (graph.visits registry).map fun v => v.node.header.uniqueId := by
  obtain ⟨out, walk, body⟩ := generate_eq_ok_iff.1 generated
  have ids : session.body.nodeIds = session.body.instructions.filterMap Instruction.nodeId? := rfl
  rw [ids, body, List.filterMap_append, List.filterMap_append, filterMap_nodeId?_declareVariables,
    filterMap_nodeId?_connect, List.nil_append, List.append_nil, walk.nodeIds_eq]
  rfl

/-- No node is created twice. -/
theorem nodup_nodeIds {registry : Registry} (accepted : ProcessGraph.ofDefinition d = .ok graph)
    (generated : generate graph registry options = .ok session) : session.body.nodeIds.Nodup := by
  obtain ⟨_, _, _, built⟩ := built_of_ofDefinition accepted
  have visited : ((graph.visits registry).map Visit.node).Sublist (Node.flattenAll graph.nodes) :=
    Node.visitsAll_sublist
  have ids := visited.map fun node : Node => node.header.uniqueId
  rw [List.map_map] at ids
  rw [nodeIds_of_generate generated]
  exact built.nodup_uniqueIds.sublist ids

/-- A node is created exactly if it has a known type and all nodes around it are entered. -/
theorem mem_nodeIds_iff (accepted : ProcessGraph.ofDefinition d = .ok graph)
    (generated : generate graph .builtin options = .ok session) (within : graph.Within around node) :
    node.header.uniqueId ∈ session.body.nodeIds ↔
      (∀ outer ∈ around, Registry.builtin.Enters outer) ∧
        ∃ generator, Registry.builtin.find? node.header.type = some generator := by
  obtain ⟨_, _, _, built⟩ := built_of_ofDefinition accepted
  have distinct := built.nodup_uniqueIds
  rw [nodeIds_of_generate generated, List.mem_map]
  constructor
  · rintro ⟨v, member, same⟩
    obtain ⟨around', within', enters, _, known⟩ := ProcessGraph.mem_visits_iff.1 member
    obtain rfl := within'.around_eq_of_uniqueId_eq distinct within same
    rw [Node.eq_of_uniqueId_eq distinct within'.mem_flattenAll within.mem_flattenAll same] at known
    exact ⟨enters, _, known⟩
  · rintro ⟨enters, generator, known⟩
    exact ⟨⟨generator, Node.scopeInside around, node⟩,
      ProcessGraph.mem_visits_iff.2 ⟨around, within, enters, rfl, known⟩, rfl⟩

/-- A node is reported as left out exactly if it has an unknown type and all nodes around it are entered. -/
theorem mem_diagnostics_iff (accepted : ProcessGraph.ofDefinition d = .ok graph)
    (generated : generate graph .builtin options = .ok session) (reports : options.diagnostics = true)
    (within : graph.Within around node) : node.header.skip ∈ session.metadata.diagnostics ↔
      (∀ outer ∈ around, Registry.builtin.Enters outer) ∧ Registry.builtin.find? node.header.type = none := by
  obtain ⟨_, _, _, built⟩ := built_of_ofDefinition accepted
  have distinct := built.nodup_uniqueIds
  obtain ⟨out, walk, body⟩ := generate_eq_ok_iff.1 generated
  have none : ∀ outer ∈ ([] : List Node), Registry.builtin.Enters outer := by simp
  have skips : node.header.skip ∈ session.metadata.diagnostics ↔
      node.header.skip ∈ (Metadata.empty graph.id).diagnostics ∨
        Registry.builtin.Skips [] graph.nodes node.header.skip :=
    walk.skips_iff Registry.usesBuiltins_builtin reports none rfl
  rw [skips, or_iff_right (fun member => nomatch member)]
  constructor
  · rintro ⟨around', node', within', enters, unknown, same⟩
    have named : node'.header.uniqueId = node.header.uniqueId := (congrArg Diagnostic.nodeId same).symm
    obtain rfl := within'.around_eq_of_uniqueId_eq distinct within named
    rw [Node.eq_of_uniqueId_eq distinct within'.mem_flattenAll within.mem_flattenAll named] at unknown
    exact ⟨enters, unknown⟩
  · rintro ⟨enters, unknown⟩
    exact ⟨around, node, within, enters, unknown, rfl⟩

/-- Nodes of a plain type are not entered. -/
theorem Node.OfPlainType.not_enters {node : Node} (plain : node.OfPlainType) : ¬ Registry.builtin.Enters node := by
  obtain ⟨type, tagged, closed⟩ := plain
  rw [Registry.enters_builtin_iff]
  rintro ⟨other, tagged', opens⟩
  obtain rfl := Option.some.inj (tagged.symm.trans tagged')
  rw [closed] at opens
  cases opens

/-- A node of known type that is not entered has a plain type. -/
theorem Node.ofPlainType_of_not_enters {node : Node} {generator : Generator}
    (known : Registry.builtin.find? node.header.type = some generator) (shut : ¬ Registry.builtin.Enters node) :
    node.OfPlainType := by
  obtain ⟨type, tagged, _⟩ := Registry.exists_ofTag?_of_find?_builtin known
  refine ⟨type, tagged, ?_⟩
  cases opens : type.isComposite with
  | false => rfl
  | true => exact absurd (Registry.enters_builtin_iff.2 ⟨type, tagged, opens⟩) shut

/-- **What is in a created node of a plain type is lost**: it is not created, and neither it nor what is around it is
reported. -/
theorem lost_of_ofPlainType (accepted : ProcessGraph.ofDefinition d = .ok graph)
    (generated : generate graph .builtin options = .ok session) (reports : options.diagnostics = true)
    (within : graph.Within around node) {outer : Node} (listed : outer ∈ around) (plain : outer.OfPlainType)
    (created : outer.header.uniqueId ∈ session.body.nodeIds) :
    node.header.uniqueId ∉ session.body.nodeIds ∧
      ∀ x ∈ node :: around, x.header.skip ∉ session.metadata.diagnostics := by
  obtain ⟨between, rest, split⟩ := List.append_of_mem listed
  have inside : graph.Within rest outer := within.of_around split (Nat.zero_le _)
  obtain ⟨entersRest, generator, known⟩ := (mem_nodeIds_iff accepted generated inside).1 created
  -- Nothing that has the plain node around it is entered, and what is around the plain node is known.
  have hidden : ¬ ∀ further ∈ around, Registry.builtin.Enters further := fun enters =>
    plain.not_enters (enters outer listed)
  refine ⟨fun member => hidden ((mem_nodeIds_iff accepted generated within).1 member).1, fun x among named => ?_⟩
  rcases List.mem_cons.1 among with rfl | among
  · exact hidden ((mem_diagnostics_iff accepted generated reports within).1 named).1
  rw [split, List.mem_append, List.mem_cons] at among
  rcases among with below | rfl | further
  · obtain ⟨front, back, same⟩ := List.append_of_mem below
    have stands : graph.Within (back ++ outer :: rest) x :=
      within.of_around (by rw [split, same, List.append_assoc, List.cons_append]) (Nat.zero_le _)
    have enters := ((mem_diagnostics_iff accepted generated reports stands).1 named).1
    exact plain.not_enters (enters outer (List.mem_append_right _ List.mem_cons_self))
  · have unknown := ((mem_diagnostics_iff accepted generated reports inside).1 named).2
    rw [known] at unknown
    cases unknown
  · obtain ⟨front, back, same⟩ := List.append_of_mem further
    have stands : graph.Within back x := inside.of_around same (Nat.zero_le _)
    have unknown := ((mem_diagnostics_iff accepted generated reports stands).1 named).2
    obtain ⟨generator, known', _⟩ := entersRest x further
    rw [unknown] at known'
    cases known'

/-- A node is created, or it or one around it is reported, or one of a plain type around it is created. -/
theorem created_or_reported (accepted : ProcessGraph.ofDefinition d = .ok graph)
    (generated : generate graph .builtin options = .ok session) (reports : options.diagnostics = true)
    (within : graph.Within around node) : node.header.uniqueId ∈ session.body.nodeIds ∨
      (∃ outer ∈ node :: around, outer.header.skip ∈ session.metadata.diagnostics) ∨
        ∃ outer ∈ around, outer.OfPlainType ∧ outer.header.uniqueId ∈ session.body.nodeIds := by
  have none : ∀ outer ∈ ([] : List Node), Registry.builtin.Enters outer := by simp
  rcases within.outermost none with enters | ⟨outer, listed, shut, around', inside, enters⟩
  · cases known : Registry.builtin.find? node.header.type with
    | none =>
      have reported := (mem_diagnostics_iff accepted generated reports within).2 ⟨enters, known⟩
      exact .inr (.inl ⟨node, List.mem_cons_self, reported⟩)
    | some generator => exact .inl ((mem_nodeIds_iff accepted generated within).2 ⟨enters, generator, known⟩)
  · cases known : Registry.builtin.find? outer.header.type with
    | none =>
      have reported := (mem_diagnostics_iff accepted generated reports inside).2 ⟨enters, known⟩
      exact .inr (.inl ⟨outer, List.mem_cons_of_mem _ listed, reported⟩)
    | some generator =>
      have created := (mem_nodeIds_iff accepted generated inside).2 ⟨enters, generator, known⟩
      exact .inr (.inr ⟨outer, listed, Node.ofPlainType_of_not_enters known shut, created⟩)

/-- **Every node is created once, or is left out with a report on it or on a node around it, except in nodes of a plain
type.** If reports are wanted, this holds of a node exactly if no node around it has a plain type and is created
itself: what is in such a node is lost without a report. -/
theorem coverage_of_generate (accepted : ProcessGraph.ofDefinition d = .ok graph)
    (generated : generate graph .builtin options = .ok session) (reports : options.diagnostics = true)
    (within : graph.Within around node) :
    (session.body.nodeIds.count node.header.uniqueId = 1 ∨
      ∃ outer ∈ node :: around, outer.header.skip ∈ session.metadata.diagnostics) ↔
    ∀ outer ∈ around, outer.OfPlainType → outer.header.uniqueId ∉ session.body.nodeIds := by
  constructor
  · intro covered outer listed plain created
    obtain ⟨absent, unreported⟩ := lost_of_ofPlainType accepted generated reports within listed plain created
    rcases covered with once | ⟨x, among, named⟩
    · refine absent ?_
      rw [← List.count_pos_iff]
      omega
    · exact unreported x among named
  · intro clear
    rcases created_or_reported accepted generated reports within with
      created | reported | ⟨outer, listed, plain, created⟩
    · exact .inl (List.count_eq_one_of_mem (nodup_nodeIds accepted generated) created)
    · exact .inr reported
    · exact absurd created (clear outer listed plain)

end Graphs

/-- A process with a script, which has an unknown type, and a task; both have a node in them. -/
def hidingDefinition : ProcessDefinition where
  id := "orders"
  name := none
  version := none
  declarations := .ofList [("total", ⟨.number, none, none⟩)]
  nodes := [
    ⟨"run", "script", none, .empty, none, some [⟨"done", "end", none, .empty, none, none, []⟩], []⟩,
    ⟨"sum", "task", none, .ofList [("expr", .string "total")], none,
      some [⟨"note", "script", none, .empty, none, none, []⟩], []⟩]
  connections := []

/-- What is generated from the process: of its nodes with one in it, one is created and one is reported. -/
theorem exists_session_of_hidingDefinition : ∃ graph session,
    ProcessGraph.ofDefinition hidingDefinition = .ok graph ∧
      generate graph .builtin ⟨true, false, "rt"⟩ = .ok session ∧
      (∀ ids ∈ [("run", "run:done"), ("sum", "sum:note")], ∃ outer node, graph.Within [outer] node ∧
        outer.header.uniqueId = ids.1 ∧ node.header.uniqueId = ids.2) ∧
      session.body.nodeIds = ["sum"] ∧ session.metadata.diagnostics = [⟨"run", "script", .unsupportedType⟩] := by
  have outcome : (ProcessGraph.ofDefinition hidingDefinition).toOption.map (fun graph =>
      (graph.nodes.flatMap fun outer => outer.children.map fun node => (outer.header.uniqueId, node.header.uniqueId),
        (generate graph .builtin ⟨true, false, "rt"⟩).toOption.map fun session =>
          (session.body.nodeIds, session.metadata.diagnostics))) =
      some ([("run", "run:done"), ("sum", "sum:note")],
        some (["sum"], [⟨"run", "script", .unsupportedType⟩])) := by
    decide +kernel
  obtain ⟨graph, built, same⟩ := Option.map_eq_some_iff.1 outcome
  obtain ⟨nodes, rest⟩ := Prod.mk.inj same
  obtain ⟨session, given, same⟩ := Option.map_eq_some_iff.1 rest
  obtain ⟨created, reported⟩ := Prod.mk.inj same
  have accepted := Except.toOption_eq_some_iff.1 built
  have generated := Except.toOption_eq_some_iff.1 given
  refine ⟨graph, session, accepted, generated, ?_, created, reported⟩
  intro ids listed
  rw [← nodes] at listed
  obtain ⟨outer, member, inside⟩ := List.mem_flatMap.1 listed
  obtain ⟨node, member', rfl⟩ := List.mem_map.1 inside
  exact ⟨outer, node, .inside member (.here member'), rfl, rfl⟩

theorem coverage_of_generate_script : ∃ graph session outer node,
    ProcessGraph.ofDefinition hidingDefinition = .ok graph ∧
      generate graph .builtin ⟨true, false, "rt"⟩ = .ok session ∧ graph.Within [outer] node ∧
      node.header.uniqueId = "run:done" ∧
      (session.body.nodeIds.count node.header.uniqueId = 1 ∨
        ∃ x ∈ [node, outer], x.header.skip ∈ session.metadata.diagnostics) := by
  obtain ⟨graph, session, accepted, generated, inside, created, _⟩ := exists_session_of_hidingDefinition
  obtain ⟨outer, node, within, named, named'⟩ := inside ("run", "run:done") (by simp)
  refine ⟨graph, session, outer, node, accepted, generated, within, named', ?_⟩
  refine (coverage_of_generate accepted generated rfl within).2 ?_
  intro other listed _
  rw [List.mem_singleton.1 listed, named, created]
  decide

/-- A node in a task is neither created nor reported, though its type is unknown; the task is not reported either. -/
theorem not_covered_in_task : ¬ ∀ (d : ProcessDefinition) (graph : ProcessGraph) (options : Options)
    (session : Session) (around : List Node) (node : Node), ProcessGraph.ofDefinition d = .ok graph →
      generate graph .builtin options = .ok session → options.diagnostics = true → graph.Within around node →
        session.body.nodeIds.count node.header.uniqueId = 1 ∨
          ∃ outer ∈ node :: around, outer.header.skip ∈ session.metadata.diagnostics := by
  intro covered
  obtain ⟨graph, session, accepted, generated, inside, created, reported⟩ := exists_session_of_hidingDefinition
  obtain ⟨outer, node, within, named, named'⟩ := inside ("sum", "sum:note") (by simp)
  rcases covered _ _ _ _ _ _ accepted generated rfl within with once | ⟨other, listed, skipped⟩
  · rw [created, named'] at once
    cases once
  · rw [reported, List.mem_singleton] at skipped
    have unique : other.header.uniqueId = "run" := congrArg Diagnostic.nodeId skipped
    rw [List.mem_cons, List.mem_singleton] at listed
    rcases listed with rfl | rfl
    · exact absurd (named'.symm.trans unique) (by decide)
    · exact absurd (named.symm.trans unique) (by decide)

end ProcessCompiler
