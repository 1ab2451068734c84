import ProcessCompiler.Proofs.Instructions

/-!
# The outline of a program

The outline of a definition is the list of instructions that its program has, each by its kind and the handle it is
addressed to, read off the definition by recursion on its nodes. What it leaves open is how the handles are called.

* `ProcessDefinition.outline`: the outline, once the handle of each composite node is known.
* `instructions_eq_outline`: a body has the outline of its definition.
-/

namespace ProcessCompiler

/-! ## Outlines -/

/-- What an outline tells of an instruction: what it does and, if known, its handle. -/
abbrev OutlineEntry := InstructionKind × Option String

/-- An instruction in an outline. -/
def Instruction.entry (i : Instruction) : OutlineEntry := (i.kind, some i.handle)

/-- The variables of a scope in an outline, in ascending order of their names. -/
def outlineVariables (handle : Option String) (declarations : SortedMap Variable) : List OutlineEntry :=
  declarations.keys.map fun name => (.declaration name, handle)

/-- Connections in an outline. -/
def outlineConnections (handle : Option String) (connections : List Connection) : List OutlineEntry :=
  connections.map fun c => (.connection c.source c.target, handle)

mutual

/-- The outline of a node, for the builder around it. A node of no built-in type has none. A node of a plain type has
one entry, whatever is in it. A composite node has one entry, and then on the builder of its own: its variables, its
nodes, its connections and its end. -/
def NodeDefinition.outline (handleOf? : String → Option String) (parent handle : Option String) :
    NodeDefinition → List OutlineEntry
  | ⟨id, type, _, _, _, none, _⟩ =>
    match BuiltinType.ofTag? type with
    | none => []
    | some _ => [(.node (uniqueId parent id) type, handle)]
  | ⟨id, type, _, _, declarations, some nodes, connections⟩ =>
    let unique := uniqueId parent id
    let own := handleOf? unique
    match BuiltinType.ofTag? type with
    | none => []
    | some builtin =>
      if builtin.isComposite then
        (.node unique type, handle) ::
          (outlineVariables own (declarations.getD .empty) ++
            NodeDefinition.outlineAll handleOf? (some unique) own nodes ++
            outlineConnections own connections ++ [(.close unique, own)])
      else [(.node unique type, handle)]

/-- The outline of nodes, in their order. -/
def NodeDefinition.outlineAll (handleOf? : String → Option String) (parent handle : Option String) :
    List NodeDefinition → List OutlineEntry
  | [] => []
  | definition :: rest => definition.outline handleOf? parent handle ++ outlineAll handleOf? parent handle rest

end

/-- The outline of a definition: the process variables, the nodes and the connections of the process, on its factory. -/
def ProcessDefinition.outline (d : ProcessDefinition) (handleOf? : String → Option String) : List OutlineEntry :=
  outlineVariables (some rootHandle) d.declarations ++
    NodeDefinition.outlineAll handleOf? none (some rootHandle) d.nodes ++
    outlineConnections (some rootHandle) d.connections

/-! ## Walks and outlines -/

section Entries

variable {options : Options} {handle : String}

theorem map_entry_declareVariables (declarations : SortedMap Variable) :
    (declareVariables options handle declarations).map Instruction.entry =
      outlineVariables (some handle) declarations := by
  simp only [declareVariables, outlineVariables, SortedMap.keys, List.map_map]
  rfl

theorem map_entry_connect (connections : List Connection) :
    (connections.map (connect handle)).map Instruction.entry = outlineConnections (some handle) connections := by
  simp only [outlineConnections, List.map_map]
  rfl

end Entries

/-- The instruction that creates a node introduces the handle that is known for it. -/
def Knows (handleOf? : String → Option String) (out : List Instruction) : Prop :=
  ∀ i ∈ out, ∀ unique, i.nodeId? = some unique → handleOf? unique = i.declares?

/-- **Nodes that are built emit the outline of their definitions.** -/
theorem Built.map_entry_eq_outline {plan : Plan} (default : plan.registry = .builtin) {parent : Option String}
    {scope : ScopeId} {definitions : List NodeDefinition} {nodes : List Node}
    (built : Built plan.scopes parent scope definitions nodes) {handleOf? : String → Option String} :
    ∀ {handle : String} {m m' : Metadata} {out : List Instruction},
      Walk plan handle scope nodes m out m' → Knows handleOf? out →
        out.map Instruction.entry = NodeDefinition.outlineAll handleOf? parent (some handle) definitions := by
  induction built with
  | done =>
    intro handle m m' out walk _
    cases walk
    rfl
  | @plain parent _ definitions _ id type _ _ _ _ _ _ _ _ ih =>
    intro handle m m' out walk knows
    rw [NodeDefinition.outlineAll, NodeDefinition.outline]
    cases walk with
    | skip unknown others =>
      have untagged : BuiltinType.ofTag? type = none :=
        Registry.ofTag?_of_find?_builtin_eq_none (default ▸ unknown)
      rw [untagged, ih others knows]
      rfl
    | leaf known closed drafted others =>
      obtain ⟨builtin, tagged, rfl⟩ : ∃ builtin, BuiltinType.ofTag? type = some builtin ∧ builtin.generator = _ :=
        Registry.exists_ofTag?_of_find?_builtin (default ▸ known)
      rw [tagged, List.map_cons, ih others fun i member => knows i (List.mem_cons_of_mem _ member)]
      rfl
  | @composite parent _ own definitions inner _ _ id type _ _ declarations connections _ _ found _ _ _ _ ihWithin
      ihRest =>
    intro handle m m' out walk knows
    rw [NodeDefinition.outlineAll, NodeDefinition.outline]
    cases walk with
    | skip unknown others =>
      have untagged : BuiltinType.ofTag? type = none :=
        Registry.ofTag?_of_find?_builtin_eq_none (default ▸ unknown)
      rw [untagged, ihRest others knows]
      rfl
    | leaf known closed drafted others =>
      obtain ⟨builtin, tagged, rfl⟩ : ∃ builtin, BuiltinType.ofTag? type = some builtin ∧ builtin.generator = _ :=
        Registry.exists_ofTag?_of_find?_builtin (default ▸ known)
      rw [BuiltinType.opens_generator] at closed
      rw [tagged, List.map_cons, ihRest others fun i member => knows i (List.mem_cons_of_mem _ member)]
      simp only [closed, Bool.false_eq_true, if_false]
      rfl
    | @composite _ inner _ _ _ _ _ _ _ _ _ inside out _ _ _ known opens nested drafted named within others =>
      obtain ⟨builtin, tagged, rfl⟩ : ∃ builtin, BuiltinType.ofTag? type = some builtin ∧ builtin.generator = _ :=
        Registry.exists_ofTag?_of_find?_builtin (default ▸ known)
      rw [BuiltinType.opens_generator] at opens
      obtain ⟨a, said⟩ := BuiltinType.drafted_of_eq_ok drafted
      have called : handleOf? (uniqueId parent id) = some inner :=
        (knows _ List.mem_cons_self _ rfl).trans (Instruction.declares?_of_drafted said _ _)
      have knowsInside : Knows handleOf? inside := fun i member => knows i (by simp [member])
      have knowsOut : Knows handleOf? out := fun i member => knows i (by simp [member])
      have declared : plan.declarations own = declarations.getD .empty := plan.declarations_of_get? found
      simp only [tagged, opens, if_true, called, List.map_cons, List.map_append, declared, map_entry_declareVariables,
        map_entry_connect, ihWithin within knowsInside, ihRest others knowsOut, List.cons_append]
      rfl

/-- **A body has the outline of its definition.** The handle of a composite node is the one that the code of its
instruction introduces. -/
theorem instructions_eq_outline {d : ProcessDefinition} {graph : ProcessGraph} {options : Options} {session : Session}
    (accepted : ProcessGraph.ofDefinition d = .ok graph) (generated : generate graph .builtin options = .ok session) :
    session.body.instructions.map Instruction.entry = d.outline session.body.handleOf? := by
  obtain ⟨_, connections, root, built⟩ := built_of_ofDefinition accepted
  obtain ⟨out, walk, body⟩ := generate_eq_ok_iff.1 generated
  have knows : Knows session.body.handleOf? out := by
    intro i member unique creates
    refine handleOf?_of_mem accepted generated ?_ creates
    rw [body]
    exact List.mem_append_left _ (List.mem_append_right _ member)
  rw [body, List.map_append, List.map_append, map_entry_declareVariables, map_entry_connect,
    built.map_entry_eq_outline rfl walk knows, connections, Plan.declarations_of_get? _ root]
  rfl

/-- A process with a node of no known type and a loop that has a task in it. -/
def loopDefinition : ProcessDefinition where
  id := "orders"
  name := none
  version := none
  declarations := .ofList [("rows", ⟨.array, none, none⟩), ("limit", ⟨.integer, none, none⟩)]
  nodes := [
    ⟨"old", "legacy", none, .empty, none, some [⟨"in", "start", none, .empty, none, none, []⟩], []⟩,
    ⟨"each", "for-each", none, .ofList [("collection", .string "rows"), ("item", .string "row")],
      some (.ofList [("row", ⟨.object, none, none⟩)]),
      some [
        ⟨"check", "task", none, .ofList [("expr", .string "row.size < limit")], none, none, []⟩,
        ⟨"stop", "end", none, .empty, none, none, []⟩],
      [⟨"check", "stop", none⟩]⟩,
    ⟨"stop", "end", none, .empty, none, some [⟨"in", "start", none, .empty, none, none, []⟩], []⟩]
  connections := [⟨"each", "stop", some "then"⟩]

/-- What the program of the loop has in it: the node of no known type is left out with the node in it. -/
def loopOutline : List OutlineEntry :=
  [(.declaration "limit", some "factory"), (.declaration "rows", some "factory"),
    (.node "each" "for-each", some "factory"), (.declaration "row", some "for_each_each"),
    (.node "each:check" "task", some "for_each_each"), (.node "each:stop" "end", some "for_each_each"),
    (.connection "check" "stop", some "for_each_each"), (.close "each", some "for_each_each"),
    (.node "stop" "end", some "factory"), (.connection "each" "stop", some "factory")]

theorem instructions_eq_outline_loop : ∃ graph session,
    ProcessGraph.ofDefinition loopDefinition = .ok graph ∧ generate graph .builtin .default = .ok session ∧
      session.body.instructions.map Instruction.entry = loopDefinition.outline session.body.handleOf? ∧
      session.body.instructions.map Instruction.entry = loopOutline := by
  have outlined : (loopDefinition.session? .builtin .default).map
      (fun session => session.body.instructions.map Instruction.entry) = some loopOutline := by decide +kernel
  obtain ⟨session, found, entries⟩ := Option.map_eq_some_iff.1 outlined
  obtain ⟨graph, accepted, generated⟩ := ProcessDefinition.session?_eq_some_iff.1 found
  exact ⟨graph, session, accepted, generated, instructions_eq_outline accepted generated, entries⟩

end ProcessCompiler
