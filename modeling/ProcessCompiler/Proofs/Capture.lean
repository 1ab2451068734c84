import ProcessCompiler.Proofs.Handles
import ProcessCompiler.Proofs.Identifiers
import ProcessCompiler.Proofs.Requests

/-!
# Handles and helpers

Handles are made distinct from each other, but not from the helpers of a program. Of all type tags and unique ids there
is one pair whose handle has the name of a helper: a node `condition` of type `eval`. No number behind a name makes a
helper's name of it.

* `NodeHeader.handleBase_eq_iff`: the one pair of a tag and an id.
* `Walk.exists_fresh`: where the handle of a node comes from.
* `captures_iff`: when a handle of a body has the name of a helper.
-/

namespace ProcessCompiler

/-! ## The name of the helper -/

/-- **One tag and one id ask for the name of the helper.** -/
theorem NodeHeader.handleBase_eq_iff (node : NodeHeader) :
    node.handleBase = conditionHelper ↔ node.type = "eval" ∧ node.uniqueId = "condition" := by
  constructor
  · intro same
    have chars : (Identifier.sanitize node.type).toList ++ '_' :: (Identifier.sanitize node.uniqueId).toList =
        "eval".toList ++ '_' :: "condition".toList := by
      have spelled := congrArg String.toList same
      simpa [handleBase, conditionHelper] using spelled
    -- the name has one underscore, so it can be split in one way only
    have before : '_' ∉ "eval".toList := by decide
    have behind : '_' ∉ "condition".toList := by decide
    have parts := (List.append_cons_inj_of_notMem before behind).1 chars.symm
    obtain ⟨first, _, second⟩ := parts
    have type : Identifier.sanitize node.type = "eval" := String.toList_injective first.symm
    have id : Identifier.sanitize node.uniqueId = "condition" := String.toList_injective second.symm
    exact ⟨Identifier.eq_of_sanitize_eq type (by decide), Identifier.eq_of_sanitize_eq id (by decide)⟩
  · rintro ⟨type, id⟩
    rw [handleBase, type, id]
    decide

namespace Metadata

/-- A name with a number behind it ends in a digit. -/
theorem numbered_ne_conditionHelper (base : String) (n : Nat) : numbered base n ≠ conditionHelper := by
  intro same
  have digits : Nat.toDigits 10 n ≠ [] := Nat.toDigits_ne_nil
  obtain ⟨last, ends⟩ : ∃ c, (Nat.toDigits 10 n).getLast? = some c := ⟨_, List.getLast?_eq_some_getLast digits⟩
  have digit : last.isDigit = true :=
    Nat.isDigit_of_mem_toDigits (by omega) (by omega) (List.mem_of_getLast? ends)
  have lastOf : (numbered base n).toList.getLast? = some last := by
    rw [numbered, Nat.toString_eq_ofList_toDigits, String.toList_append, String.toList_ofList, List.getLast?_append,
      ends]
    rfl
  rw [same] at lastOf
  have letter : some 'n' = some last := lastOf
  cases letter
  exact absurd digit (by decide)

/-- Only a builder that asks for the name of the helper gets it. -/
theorem eq_of_freshHandle_eq {m : Metadata} {base : String} (h : m.freshHandle base = conditionHelper) :
    base = conditionHelper := by
  rcases m.freshHandle_eq base with same | ⟨n, same⟩
  · rw [← same]
    exact h
  · rw [same] at h
    exact absurd h (numbered_ne_conditionHelper base n)

end Metadata

/-! ## Where handles come from -/

section Walks

variable {plan : Plan} {handle : String} {scope : ScopeId} {nodes : List Node} {m n : Metadata}
  {out : List Instruction}

/-- **The handle of a node is the one that is free for it**, while no more names are taken than in the end. -/
theorem Walk.exists_fresh (uses : plan.registry.UsesBuiltins) (walk : Walk plan handle scope nodes m out n) :
    ∀ i ∈ out, i.nodeId?.isSome → ∃ (node : NodeHeader) (before : Metadata),
      i.kind = .node node.uniqueId node.type ∧ (plan.registry.find? node.type).isSome ∧
        i.declares? = some (before.freshHandle node.handleBase) ∧
          ∀ name, before.handles.contains name = true → n.handles.contains name = true := by
  induction walk with
  | done =>
    intro i member
    cases member
  | skip unknown rest ih => exact ih
  | @leaf _ _ node _ m _ _ _ _ _ known closed drafted rest ih =>
    have whole := (Walk.leaf known closed drafted rest).introduces uses
    obtain ⟨type, a, rfl, said⟩ := uses.drafted known drafted
    intro i member creates
    rcases List.mem_cons.1 member with rfl | member
    · refine ⟨node.header, m, rfl, by rw [known]; rfl, Instruction.declares?_of_drafted said _ _, ?_⟩
      intro name taken
      exact (whole.taken name).2 (.inl taken)
    · exact ih i member creates
  | @composite _ inner _ own header _ _ _ m _ _ _ _ _ _ _ known opens nested drafted named within rest ihWithin
      ihRest =>
    have whole := (Walk.composite known opens nested drafted named within rest).introduces uses
    have further := rest.introduces uses
    obtain ⟨type, a, rfl, said⟩ := uses.drafted_composite known drafted
    intro i member creates
    rcases mem_composite member with rfl | inside | beside | ⟨nothing, _⟩
    · refine ⟨header, m, rfl, by rw [known]; rfl, ?_, ?_⟩
      · rw [← named]
        exact Instruction.declares?_of_drafted said _ _
      · intro name taken
        exact (whole.taken name).2 (.inl taken)
    · obtain ⟨node, before, kind, tagged, declares, still⟩ := ihWithin i inside creates
      refine ⟨node, before, kind, tagged, declares, ?_⟩
      intro name taken
      exact (further.taken name).2 (.inl (still name taken))
    · exact ihRest i beside creates
    · rw [nothing] at creates
      cases creates

/-- A node whose handle has the name of the helper is the one that asks for it. -/
theorem Walk.kind_of_declares (uses : plan.registry.UsesBuiltins) (walk : Walk plan handle scope nodes m out n)
    {i : Instruction} (member : i ∈ out) (declares : i.declares? = some conditionHelper) :
    i.kind = .node "condition" "eval" ∧ (plan.registry.find? "eval").isSome := by
  have creates : i.nodeId?.isSome := by
    rw [walk.isSome_declares? uses i member, declares]
    rfl
  obtain ⟨node, before, kind, known, fresh, _⟩ := walk.exists_fresh uses i member creates
  have asks : node.handleBase = conditionHelper := by
    apply Metadata.eq_of_freshHandle_eq
    exact Option.some.inj (fresh.symm.trans declares)
  obtain ⟨type, id⟩ := node.handleBase_eq_iff.1 asks
  rw [type] at known
  rw [kind, type, id]
  exact ⟨rfl, known⟩

/-- If the node that asks for the name of the helper is created, the name is taken in the end. -/
theorem Walk.taken_of_kind (uses : plan.registry.UsesBuiltins) (walk : Walk plan handle scope nodes m out n)
    {i : Instruction} (member : i ∈ out) (kind : i.kind = .node "condition" "eval") :
    n.handles.contains conditionHelper = true := by
  have creates : i.nodeId?.isSome := by
    rw [Instruction.nodeId?, kind]
    rfl
  obtain ⟨node, before, kind', _, fresh, still⟩ := walk.exists_fresh uses i member creates
  rw [kind, InstructionKind.node.injEq] at kind'
  obtain ⟨id, type⟩ := kind'
  have asks : node.handleBase = conditionHelper := node.handleBase_eq_iff.2 ⟨type.symm, id.symm⟩
  rw [asks] at fresh
  by_cases taken : before.handles.contains conditionHelper = true
  · exact still _ taken
  · have free : before.freshHandle conditionHelper = conditionHelper := by
      rw [Metadata.freshHandle, if_neg taken]
    rw [free] at fresh
    have introduced : conditionHelper ∈ introduced out := List.mem_filterMap.2 ⟨i, member, fresh⟩
    exact ((walk.introduces uses).taken conditionHelper).2 (.inr introduced)

end Walks

/-! ## Whole bodies -/

/-- Every helper of a graph has the one name. -/
theorem eq_of_contains_helpers {graph : ProcessGraph} {registry : Registry} {options : Options} {session : Session}
    (uses : registry.UsesBuiltins) (generated : generate graph registry options = .ok session) {name : String}
    (declared : session.metadata.helpers.contains name = true) : name = conditionHelper := by
  obtain ⟨code, found⟩ := Option.isSome_iff_exists.1 declared
  exact ((find?_helpers uses generated name code).1 found).1.1

/-- **A handle has the name of a helper in one case only**: the helper that evaluates conditions is declared, and a node
`condition` of type `eval` is created. The instruction that creates this node is then the only one that introduces such
a handle. -/
theorem captures_iff {graph : ProcessGraph} {bindings : List (String × BuiltinType)} {options : Options}
    {session : Session} (generated : generate graph (.ofTypes bindings) options = .ok session) :
    ((∃ handle ∈ introduced session.body.instructions, session.metadata.helpers.contains handle = true) ↔
      session.metadata.helpers.contains conditionHelper = true ∧
        ∃ i ∈ session.body.instructions, i.kind = .node "condition" "eval") ∧
    ∀ i ∈ session.body.instructions, ∀ handle, i.declares? = some handle →
      session.metadata.helpers.contains handle = true →
        handle = conditionHelper ∧ i.kind = .node "condition" "eval" := by
  have uses := Registry.usesBuiltins_ofTypes bindings
  obtain ⟨out, walk, body⟩ := generate_eq_ok_iff.1 generated
  have only : ∀ i ∈ session.body.instructions, ∀ handle, i.declares? = some handle →
      session.metadata.helpers.contains handle = true →
        handle = conditionHelper ∧ i.kind = .node "condition" "eval" := by
    intro i member handle declares declared
    obtain rfl := eq_of_contains_helpers uses generated declared
    rw [body] at member
    rcases mem_enclosed member with inside | ⟨_, nothing⟩
    · exact ⟨rfl, (walk.kind_of_declares uses inside declares).1⟩
    · rw [nothing] at declares
      cases declares
  refine ⟨?_, only⟩
  constructor
  · rintro ⟨handle, member, declared⟩
    obtain ⟨i, listed, declares⟩ := List.mem_filterMap.1 member
    obtain ⟨rfl, kind⟩ := only i listed handle declares declared
    exact ⟨declared, i, listed, kind⟩
  · rintro ⟨declared, i, listed, kind⟩
    refine ⟨conditionHelper, ?_, declared⟩
    have inside : i ∈ out := by
      rw [body] at listed
      rcases mem_enclosed listed with inside | ⟨nothing, _⟩
      · exact inside
      · rw [Instruction.nodeId?, kind] at nothing
        cases nothing
    have taken := walk.taken_of_kind uses inside kind
    have introduced : conditionHelper ∈ introduced out := by
      rcases ((walk.introduces uses).taken conditionHelper).1 taken with before | within
      · cases before
      · exact within
    rw [body]
    simpa using introduced

/-- A process with one milestone that asks for the name of the helper. -/
def capturingDefinition : ProcessDefinition where
  id := "orders"
  name := none
  version := none
  declarations := .ofList [("done", ⟨.boolean, none, none⟩)]
  nodes := [⟨"condition", "eval", none, .ofList [("condition", .string "done")], none, none, []⟩]
  connections := []

/-- The milestone gets the name of the helper, which it needs itself. -/
theorem exists_session_of_capturingDefinition : ∃ graph session,
    ProcessGraph.ofDefinition capturingDefinition = .ok graph ∧
      generate graph (.ofTypes [("eval", .milestone)]) .default = .ok session ∧
      introduced session.body.instructions = [conditionHelper] ∧
      session.metadata.helpers.contains conditionHelper = true := by
  have named : (capturingDefinition.session? (.ofTypes [("eval", .milestone)]) .default).map (fun session =>
      (introduced session.body.instructions, session.metadata.helpers.contains conditionHelper)) =
        some ([conditionHelper], true) := by
    decide +kernel
  obtain ⟨session, found, same⟩ := Option.map_eq_some_iff.1 named
  obtain ⟨graph, accepted, generated⟩ := ProcessDefinition.session?_eq_some_iff.1 found
  obtain ⟨handles, declared⟩ := Prod.mk.inj same
  exact ⟨graph, session, accepted, generated, handles, declared⟩

theorem captures_iff_milestone : ∃ graph session,
    ProcessGraph.ofDefinition capturingDefinition = .ok graph ∧
      generate graph (.ofTypes [("eval", .milestone)]) .default = .ok session ∧
      session.metadata.helpers.contains conditionHelper = true ∧
        ∃ i ∈ session.body.instructions, i.kind = .node "condition" "eval" := by
  obtain ⟨graph, session, accepted, generated, handles, declared⟩ := exists_session_of_capturingDefinition
  refine ⟨graph, session, accepted, generated, (captures_iff generated).1.1 ⟨conditionHelper, ?_, declared⟩⟩
  rw [handles]
  exact List.mem_singleton_self _

/-- The handle of a milestone takes the name of the helper that evaluates its condition. -/
theorem captured_by_milestone : ¬ ∀ (d : ProcessDefinition) (graph : ProcessGraph)
    (bindings : List (String × BuiltinType)) (options : Options) (session : Session),
      ProcessGraph.ofDefinition d = .ok graph → generate graph (.ofTypes bindings) options = .ok session →
        ∀ handle ∈ introduced session.body.instructions, session.metadata.helpers.contains handle = false := by
  intro apart
  obtain ⟨graph, session, accepted, generated, handles, declared⟩ := exists_session_of_capturingDefinition
  have free := apart _ graph _ _ session accepted generated conditionHelper (by
    rw [handles]
    exact List.mem_singleton_self _)
  rw [declared] at free
  cases free

end ProcessCompiler
