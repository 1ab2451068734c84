import Mathlib.Data.List.Dedup
import ProcessCompiler.Proofs.Constructors
import ProcessCompiler.Proofs.Coverage
import ProcessCompiler.Proofs.Requests

/-!
# Expressions that are kept and lost

An expression that the code of a node constructs is also kept for those who read the metadata, under the node and the
name of its attribute. Two attributes of a node have one name only if they are the constraints of a split for one
target; then the later expression takes the place of the earlier one.

* `Metadata.length_keptKeys`: how many expressions are kept is a matter of their nodes and names.
* `expression?_of_mem_visits`: the last expression of a node under a name is kept.
* `NodeHeader.nodup_names_iff`: which nodes have two expressions of one name.
* `resolutions_of_generate`: what is constructed, what is kept, and when nothing is lost.
-/

namespace ProcessCompiler

/-! ## What expressions are kept for -/

namespace Metadata

variable {m : Metadata} {unique key : String}

/-- The nodes and attributes that expressions are kept for. -/
def keptKeys (m : Metadata) : List (String × String) :=
  m.expressions.entries.flatMap fun node => node.2.keys.map fun key => (node.1, key)

/-- An expression is counted once for the node and attribute that it is kept for. -/
theorem length_keptKeys (m : Metadata) : m.keptKeys.length = m.expressionCount := by
  have counted : ∀ (nodes : List (String × SortedMap ResolvedExpression)) (n : Nat),
      nodes.foldl (fun n node => n + node.2.entries.length) n =
        n + (nodes.flatMap fun node => node.2.keys.map fun key => (node.1, key)).length := by
    intro nodes
    induction nodes with
    | nil => exact fun _ => rfl
    | cons node nodes ih =>
      intro n
      rw [List.foldl_cons, ih, List.flatMap_cons, List.length_append, List.length_map, SortedMap.keys,
        List.length_map, Nat.add_assoc]
  rw [expressionCount, counted, Nat.zero_add, keptKeys]

theorem mem_keptKeys_iff : (unique, key) ∈ m.keptKeys ↔ (m.expression? unique key).isSome := by
  rw [keptKeys, List.mem_flatMap, expression?]
  constructor
  · rintro ⟨⟨node, attributes⟩, member, listed⟩
    obtain ⟨_, named, ⟨⟩⟩ := List.mem_map.1 listed
    rw [(SortedMap.mem_entries_iff _ _ _).1 member, Option.bind_some]
    exact (SortedMap.mem_keys_iff _ _).1 named
  · intro kept
    obtain ⟨e, kept⟩ := Option.isSome_iff_exists.1 kept
    obtain ⟨attributes, found, within⟩ := Option.bind_eq_some_iff.1 kept
    refine ⟨(unique, attributes), (SortedMap.mem_entries_iff _ _ _).2 found, List.mem_map.2 ⟨key, ?_, rfl⟩⟩
    exact (SortedMap.mem_keys_iff _ _).2 (Option.isSome_iff_exists.2 ⟨e, within⟩)

theorem nodup_keptKeys (m : Metadata) : m.keptKeys.Nodup := by
  refine List.nodup_flatMap.2 ⟨fun node _ => ?_, ?_⟩
  · exact node.2.nodup_keys.map fun key other same => congrArg Prod.snd same
  · refine m.expressions.ascending.imp ?_
    rintro node other below ⟨unique, key⟩ listed listed'
    obtain ⟨_, _, ⟨⟩⟩ := List.mem_map.1 listed
    obtain ⟨_, _, same⟩ := List.mem_map.1 listed'
    rw [congrArg Prod.fst same] at below
    exact String.lt_irrefl _ below

/-- **As many expressions are kept as keys are asked for**, exactly if no key is asked for twice. -/
theorem expressionCount_eq_iff {keys : List (String × String)}
    (kept : ∀ unique key, (m.expression? unique key).isSome ↔ (unique, key) ∈ keys) :
    m.expressionCount = keys.length ↔ keys.Nodup := by
  have members : ∀ k, k ∈ m.keptKeys ↔ k ∈ keys.dedup := by
    rintro ⟨unique, key⟩
    rw [mem_keptKeys_iff, kept, List.mem_dedup]
  have same := ((List.perm_ext_iff_of_nodup m.nodup_keptKeys keys.nodup_dedup).2 members).length_eq
  rw [← length_keptKeys, same]
  constructor
  · intro whole
    exact List.dedup_eq_self.1 (keys.dedup_sublist.eq_of_length whole)
  · intro distinct
    rw [List.dedup_eq_self.2 distinct]

end Metadata

/-! ## The names of a node's expressions -/

/-- A split that has no two constraints for one target, or a node that is no split. -/
def NodeHeader.DistinctTargets (node : NodeHeader) : Prop :=
  BuiltinType.ofTag? node.type = some .split → ∀ a : SplitAttributes,
    BuiltinType.readAttributes .split node.attributes = .ok a → (a.constraints.map Constraint.target).Nodup

/-- Names of one beginning differ in their ends. -/
theorem nodup_map_append_iff (start : String) (names : List String) :
    (names.map (start ++ ·)).Nodup ↔ names.Nodup := by
  refine List.nodup_map_iff ?_
  intro name other same
  have chars := congrArg String.toList same
  simp only [String.toList_append] at chars
  exact String.toList_inj.1 (List.append_cancel_left chars)

namespace BuiltinType

/-- The expressions of a split have different names if its constraints have different targets. -/
theorem nodup_names_split_iff (a : SplitAttributes) :
    ((BuiltinType.split.expressions a).map Prod.fst).Nodup ↔ (a.constraints.map Constraint.target).Nodup := by
  have targets : (BuiltinType.split.expressions a).map Prod.fst =
      (a.constraints.map Constraint.target).map ("constraints." ++ ·) := by
    simp [expressions]
  rw [targets, nodup_map_append_iff]

/-- The expressions of a node that is no split have different names. -/
theorem nodup_names {type : BuiltinType} (other : type ≠ .split) (a : type.Attributes) :
    ((type.expressions a).map Prod.fst).Nodup := by
  cases type with
  | split => exact absurd rfl other
  | workItem =>
    have parameters : (BuiltinType.workItem.expressions a).map Prod.fst =
        ((WorkItemAttributes.embedded a).map Prod.fst).map ("parameters." ++ ·) := by
      simp [expressions]
    rw [parameters, nodup_map_append_iff]
    exact (WorkItemAttributes.parameters a).nodup_keys.sublist (List.filter_sublist.map Prod.fst)
  | timer =>
    simp only [expressions]
    cases TimerAttributes.embedded? a <;> simp
  | _ => simp [expressions]

end BuiltinType

/-- **The expressions of a node have different names**, unless they are constraints for one target. -/
theorem NodeHeader.nodup_names_iff (node : NodeHeader) (site : Site) :
    ((node.resolved site).map Prod.fst).Nodup ↔ node.DistinctTargets := by
  unfold DistinctTargets
  cases tagged : BuiltinType.ofTag? node.type with
  | none => simp [resolved, tagged]
  | some type =>
    cases told : type.readAttributes node.attributes with
    | error e =>
      rw [resolved, tagged]
      simp only [told]
      refine iff_of_true List.nodup_nil fun same a told' => ?_
      cases Option.some.inj same
      cases told.symm.trans told'
    | ok a =>
      have names : (node.resolved site).map Prod.fst = (type.expressions a).map Prod.fst := by
        rw [resolved_eq tagged told, List.map_map]
        rfl
      rw [names]
      by_cases split : type = .split
      · subst split
        refine (BuiltinType.nodup_names_split_iff a).trans ⟨fun distinct _ a' told' => ?_, fun h => h rfl a told⟩
        cases told.symm.trans told'
        exact distinct
      · exact iff_of_true (BuiltinType.nodup_names split a) fun same => absurd (Option.some.inj same) split

/-! ## Whole graphs -/

section Graphs

variable {d : ProcessDefinition} {graph : ProcessGraph} {options : Options} {session : Session} {v : Visit}

/-- A node that is visited asks to keep its expressions. -/
theorem filterMap_record?_of_mem_visits (generated : generate graph .builtin options = .ok session)
    (member : v ∈ graph.visits .builtin) :
    (v.requests (graph.plan options)).filterMap Request.record? =
      (v.resolved (graph.plan options)).map fun x => (v.node.header.uniqueId, x.1, x.2) := by
  obtain ⟨_, _, _, _, known⟩ := ProcessGraph.mem_visits_iff.1 member
  obtain ⟨type, tagged, builtin⟩ := Registry.exists_ofTag?_of_find?_builtin known
  obtain ⟨a, told, asked⟩ := requests_of_mem_visits Registry.usesBuiltins_builtin generated member builtin.symm
  rw [asked, BuiltinType.filterMap_record?_requests, Visit.resolved, NodeHeader.resolved_eq tagged told, List.map_map]
  rfl

/-- What a graph keeps for a node and an attribute: the last of all expressions that are asked for. -/
theorem expression?_of_generate (generated : generate graph .builtin options = .ok session) (unique key : String) :
    session.metadata.expression? unique key =
      (((graph.visits .builtin).flatMap fun v => (v.resolved (graph.plan options)).map fun x =>
        (v.node.header.uniqueId, x.1, x.2)).reverse.find? fun x => x.1 == unique && x.2.1 == key).map (·.2.2) := by
  have nothing : (Metadata.empty graph.id).expression? unique key = none := rfl
  have asked : (Node.askedAll (graph.plan options) ProcessGraph.rootScope graph.nodes).filterMap
      Request.record? = (graph.visits .builtin).flatMap fun v =>
        (v.resolved (graph.plan options)).map fun x => (v.node.header.uniqueId, x.1, x.2) := by
    rw [Node.filterMap_askedAll fun _ => rfl]
    exact List.flatMap_congr fun v member => filterMap_record?_of_mem_visits generated member
  rw [metadata_of_generate Registry.usesBuiltins_builtin generated, Metadata.expression?_grantAll, asked, nothing,
    Option.or_none]

/-- Nodes that are visited have different unique ids. -/
theorem nodup_uniqueIds_of_visits (accepted : ProcessGraph.ofDefinition d = .ok graph)
    (generated : generate graph .builtin options = .ok session) :
    ((graph.visits .builtin).map fun v => v.node.header.uniqueId).Nodup :=
  nodeIds_of_generate generated ▸ nodup_nodeIds accepted generated

/-- **The last expression of a node under a name is kept.** -/
theorem expression?_of_mem_visits (accepted : ProcessGraph.ofDefinition d = .ok graph)
    (generated : generate graph .builtin options = .ok session) (member : v ∈ graph.visits .builtin) (key : String) :
    session.metadata.expression? v.node.header.uniqueId key =
      ((v.resolved (graph.plan options)).reverse.find? fun x => x.1 == key).map Prod.snd := by
  have distinct := nodup_uniqueIds_of_visits accepted generated
  rw [expression?_of_generate generated]
  obtain ⟨before, after, split⟩ := List.append_of_mem member
  rw [split] at distinct ⊢
  rw [List.map_append, List.map_cons, List.nodup_middle, List.nodup_cons] at distinct
  -- the other nodes have other unique ids, so nothing is found in what they ask for
  have elsewhere : ∀ visits : List Visit, (∀ w ∈ visits, w ∈ before ++ after) →
      (visits.flatMap fun w => (w.resolved (graph.plan options)).map fun x =>
        (w.node.header.uniqueId, x.1, x.2)).reverse.find?
          (fun x => x.1 == v.node.header.uniqueId && x.2.1 == key) = none := by
    intro visits others
    rw [List.find?_eq_none]
    intro x listed same
    obtain ⟨w, within, listed⟩ := List.mem_flatMap.1 (List.mem_reverse.1 listed)
    obtain ⟨y, _, rfl⟩ := List.mem_map.1 listed
    have ids : w.node.header.uniqueId = v.node.header.uniqueId := eq_of_beq (Bool.and_eq_true_iff.1 same).1
    apply distinct.1
    rw [← List.map_append, ← ids]
    exact List.mem_map_of_mem (others w within)
  have here : ∀ x : String × ResolvedExpression,
      (v.node.header.uniqueId == v.node.header.uniqueId && x.1 == key) = (x.1 == key) := by simp
  rw [List.flatMap_append, List.flatMap_cons, List.reverse_append, List.reverse_append, List.append_assoc,
    List.find?_append, elsewhere after fun w => List.mem_append_right _, List.find?_append,
    elsewhere before fun w => List.mem_append_left _, ← List.map_reverse, List.find?_map]
  simp only [Option.none_or, Option.or_none, Option.map_map, Function.comp_def, here]

/-- An expression is found under its name if no other has this name. -/
theorem find?_name_eq_some {α : Type} {xs : List (String × α)} (distinct : (xs.map Prod.fst).Nodup) {x : String × α}
    (member : x ∈ xs) : xs.find? (fun y => y.1 == x.1) = some x := by
  induction xs with
  | nil => cases member
  | cons y xs ih =>
    obtain ⟨apart, others⟩ := List.nodup_cons.1 distinct
    rcases List.mem_cons.1 member with rfl | member
    · exact List.find?_cons_of_pos (beq_self_eq_true _)
    · have differs : (y.1 == x.1) = false := by
        rw [beq_eq_false_iff_ne]
        intro same
        rw [same] at apart
        exact apart (List.mem_map_of_mem member)
      rw [List.find?_cons, differs]
      exact ih others member

/-- An expression of a node is kept if the node has no other one under its name. -/
theorem expression?_of_distinctTargets (accepted : ProcessGraph.ofDefinition d = .ok graph)
    (generated : generate graph .builtin options = .ok session) (member : v ∈ graph.visits .builtin)
    (distinct : v.node.header.DistinctTargets) {x : String × ResolvedExpression}
    (listed : x ∈ v.resolved (graph.plan options)) :
    session.metadata.expression? v.node.header.uniqueId x.1 = some x.2 := by
  have backwards : ((v.resolved (graph.plan options)).reverse.map Prod.fst).Nodup := by
    rw [List.map_reverse, List.nodup_reverse]
    exact (NodeHeader.nodup_names_iff v.node.header _).2 distinct
  rw [expression?_of_mem_visits accepted generated member,
    find?_name_eq_some backwards (List.mem_reverse.2 listed), Option.map_some]

/-- **As many expressions are kept as are constructed**, exactly if no split has two constraints for one target. -/
theorem expressionCount_of_generate (accepted : ProcessGraph.ofDefinition d = .ok graph)
    (generated : generate graph .builtin options = .ok session) :
    session.metadata.expressionCount = (session.body.constructions.flatMap Prod.snd).length ↔
      ∀ v ∈ graph.visits .builtin, v.node.header.DistinctTargets := by
  have kept : ∀ unique key, (session.metadata.expression? unique key).isSome ↔
      (unique, key) ∈ (graph.visits .builtin).flatMap fun v => (v.resolved (graph.plan options)).map fun x =>
        (v.node.header.uniqueId, x.1) := by
    intro unique key
    rw [expression?_of_generate generated, Option.isSome_map, List.find?_isSome]
    simp only [List.mem_reverse, List.mem_flatMap, List.mem_map, Bool.and_eq_true, beq_iff_eq]
    constructor
    · rintro ⟨_, ⟨v, member, x, listed, rfl⟩, rfl, rfl⟩
      exact ⟨v, member, x, listed, rfl⟩
    · rintro ⟨v, member, x, listed, same⟩
      exact ⟨_, ⟨v, member, x, listed, rfl⟩, congrArg Prod.fst same, congrArg Prod.snd same⟩
  have written : (session.body.constructions.flatMap Prod.snd).length =
      ((graph.visits .builtin).flatMap fun v => (v.resolved (graph.plan options)).map fun x =>
        (v.node.header.uniqueId, x.1)).length := by
    rw [constructions_of_generate generated, List.flatMap_map]
    simp only [List.length_flatMap, List.length_map]
  rw [written, Metadata.expressionCount_eq_iff kept, List.nodup_flatMap]
  have names : ∀ v : Visit, ((v.resolved (graph.plan options)).map fun x => (v.node.header.uniqueId, x.1)).Nodup ↔
      v.node.header.DistinctTargets := by
    intro v
    have same : ((v.resolved (graph.plan options)).map fun x => (v.node.header.uniqueId, x.1)) =
        ((v.resolved (graph.plan options)).map Prod.fst).map (Prod.mk v.node.header.uniqueId) := by
      rw [List.map_map]
      rfl
    rw [same, List.nodup_map_iff fun _ _ => congrArg Prod.snd]
    exact NodeHeader.nodup_names_iff v.node.header _
  simp only [names]
  refine and_iff_left ((List.pairwise_map.1 (nodup_uniqueIds_of_visits accepted generated)).imp ?_)
  rintro v w differ ⟨unique, key⟩ listed listed'
  obtain ⟨_, _, same⟩ := List.mem_map.1 listed
  obtain ⟨_, _, same'⟩ := List.mem_map.1 listed'
  exact differ ((congrArg Prod.fst same).trans (congrArg Prod.fst same').symm)

/-- **What becomes of expressions.** A node that is created constructs its expressions in order, and of these the last
one under a name is kept. As many are kept as are constructed, exactly if no split has two constraints for one target,
and each expression of a node is kept as it is constructed if the node is no such split. -/
theorem resolutions_of_generate (accepted : ProcessGraph.ofDefinition d = .ok graph)
    (generated : generate graph .builtin options = .ok session) :
    (session.body.constructions = (graph.visits .builtin).map fun v =>
      (v.node.header.uniqueId, (v.resolved (graph.plan options)).map fun x => x.2.written)) ∧
    (∀ v ∈ graph.visits .builtin, ∀ key, session.metadata.expression? v.node.header.uniqueId key =
      ((v.resolved (graph.plan options)).reverse.find? fun x => x.1 == key).map Prod.snd) ∧
    (session.metadata.expressionCount = (session.body.constructions.flatMap Prod.snd).length ↔
      ∀ v ∈ graph.visits .builtin, v.node.header.DistinctTargets) ∧
    ∀ v ∈ graph.visits .builtin, v.node.header.DistinctTargets → ∀ x ∈ v.resolved (graph.plan options),
      session.metadata.expression? v.node.header.uniqueId x.1 = some x.2 :=
  ⟨constructions_of_generate generated, fun _ member => expression?_of_mem_visits accepted generated member,
    expressionCount_of_generate accepted generated,
    fun _ member distinct _ listed => expression?_of_distinctTargets accepted generated member distinct listed⟩

end Graphs

/-- A process with a split that has two constraints for one target. -/
def forkDefinition : ProcessDefinition where
  id := "orders"
  name := none
  version := none
  declarations := .ofList [("total", ⟨.number, none, none⟩)]
  nodes := [
    ⟨"gate", "split", none, .ofList [("kind", .string "xor"), ("constraints", .array [
      .object [("to", .string "ship"), ("expr", .string "total > 10")],
      .object [("to", .string "ship"), ("expr", .string "total < 5")]])], none, none, []⟩,
    ⟨"ship", "end", none, .empty, none, none, []⟩]
  connections := [⟨"gate", "ship", none⟩]

theorem exists_session_of_forkDefinition : ∃ graph session,
    ProcessGraph.ofDefinition forkDefinition = .ok graph ∧ generate graph .builtin .default = .ok session ∧
      session.metadata.expressionCount = 1 ∧
      session.body.constructions =
        [("gate", [("total > 10", ["total"]), ("total < 5", ["total"])]), ("ship", [])] := by
  have outcome : (forkDefinition.session? .builtin .default).map
      (fun session => (session.metadata.expressionCount, session.body.constructions)) =
        some (1, [("gate", [("total > 10", ["total"]), ("total < 5", ["total"])]), ("ship", [])]) := by decide +kernel
  obtain ⟨session, found, same⟩ := Option.map_eq_some_iff.1 outcome
  obtain ⟨graph, accepted, generated⟩ := ProcessDefinition.session?_eq_some_iff.1 found
  exact ⟨graph, session, accepted, generated, congrArg Prod.fst same, congrArg Prod.snd same⟩

/-- One expression is kept of two that are constructed, so the split has two constraints for one target. -/
theorem resolutions_of_generate_fork : ∃ graph session,
    ProcessGraph.ofDefinition forkDefinition = .ok graph ∧ generate graph .builtin .default = .ok session ∧
      session.metadata.expressionCount = 1 ∧ (session.body.constructions.flatMap Prod.snd).length = 2 ∧
      ¬ ∀ v ∈ graph.visits .builtin, v.node.header.DistinctTargets := by
  obtain ⟨graph, session, accepted, generated, kept, constructed⟩ := exists_session_of_forkDefinition
  refine ⟨graph, session, accepted, generated, kept, by rw [constructed]; rfl, fun distinct => ?_⟩
  obtain ⟨_, _, count, _⟩ := resolutions_of_generate accepted generated
  have same := count.2 distinct
  rw [kept, constructed] at same
  cases same

/-- Fewer expressions may be kept than are constructed. -/
theorem lost_in_split : ¬ ∀ (d : ProcessDefinition) (graph : ProcessGraph) (options : Options) (session : Session),
    ProcessGraph.ofDefinition d = .ok graph → generate graph .builtin options = .ok session →
      session.metadata.expressionCount = (session.body.constructions.flatMap Prod.snd).length ∧
        ∀ v ∈ graph.visits .builtin, ∀ x ∈ v.resolved (graph.plan options),
          session.metadata.expression? v.node.header.uniqueId x.1 = some x.2 := by
  intro kept
  obtain ⟨graph, session, accepted, generated, count, constructed⟩ := exists_session_of_forkDefinition
  have same := (kept _ _ _ _ accepted generated).1
  rw [count, constructed] at same
  cases same

end ProcessCompiler
