import ProcessCompiler.Proofs.Comparison
import ProcessCompiler.Proofs.Registry
import ProcessCompiler.Proofs.UniqueIds

/-!
# What a step of generation leaves as it was

Generators write into one body and one set of metadata, and any of them may refuse a node when a part of its work is
done. Whatever happens, they only add: what was there before stays, in the body as in the metadata.

* `Metadata.Grows`: what is kept of metadata; expressions may be replaced under given unique ids only.
* `Metadata.grows_grantAll`: requests on behalf of a node replace expressions of this node only.
* `BuiltinType.concerns_draft`: what a built-in type drafts, refused or not, is on behalf of its node.
* `BuiltinType.creates`: a built-in type adds one instruction that creates its node, or refuses it and adds none.
* `adds_emitNode`: a node with all that is in it only adds, wherever its generation ends.
-/

namespace ProcessCompiler

/-! ## Metadata that grow -/

namespace Metadata

/-- **Metadata that grow**: all that is gathered stays, except expressions of nodes with the unique ids given. -/
structure Grows (uniqueIds : List String) (m m' : Metadata) : Prop where
  processId : m'.processId = m.processId
  imports : m.imports.toList ⊆ m'.imports.toList
  helpers : ∀ name code, m.helpers.find? name = some code → m'.helpers.find? name = some code
  workItems : m.workItems.toList ⊆ m'.workItems.toList
  signals : m.signals.toList ⊆ m'.signals.toList
  handles : m.handles.toList ⊆ m'.handles.toList
  diagnostics : m.diagnostics <+: m'.diagnostics
  expressions : ∀ unique ∉ uniqueIds, ∀ key, m'.expression? unique key = m.expression? unique key

namespace Grows

variable {m middle m' : Metadata} {uniqueIds others : List String}

protected theorem refl (uniqueIds : List String) (m : Metadata) : m.Grows uniqueIds m where
  processId := rfl
  imports := List.Subset.refl _
  helpers _ _ found := found
  workItems := List.Subset.refl _
  signals := List.Subset.refl _
  handles := List.Subset.refl _
  diagnostics := List.prefix_rfl
  expressions _ _ _ := rfl

theorem trans (h : m.Grows uniqueIds middle) (h' : middle.Grows uniqueIds m') : m.Grows uniqueIds m' where
  processId := h'.processId.trans h.processId
  imports := List.Subset.trans h.imports h'.imports
  helpers name code found := h'.helpers name code (h.helpers name code found)
  workItems := List.Subset.trans h.workItems h'.workItems
  signals := List.Subset.trans h.signals h'.signals
  handles := List.Subset.trans h.handles h'.handles
  diagnostics := h.diagnostics.trans h'.diagnostics
  expressions unique outside key := (h'.expressions unique outside key).trans (h.expressions unique outside key)

theorem mono (h : m.Grows uniqueIds m') (fewer : uniqueIds ⊆ others) : m.Grows others m' :=
  { h with expressions := fun unique outside key => h.expressions unique (fun inside => outside (fewer inside)) key }

end Grows

end Metadata

theorem NameSet.toList_subset_add (names : NameSet) (name : String) : names.toList ⊆ (names.add name).toList :=
  fun other member => (NameSet.mem_toList_add names name other).2 (.inr member)

/-- A request that keeps no expressions but those of a node. -/
def Request.Concerns (node : NodeHeader) : Request → Prop
  | .expression unique _ _ => unique = node.uniqueId
  | _ => True

namespace Metadata

variable {node : NodeHeader}

/-- A request on behalf of a node. -/
theorem grows_grant (m : Metadata) {r : Request} (concerns : r.Concerns node) :
    m.Grows [node.uniqueId] (m.grant r) := by
  have same := Grows.refl [node.uniqueId] m
  cases r with
  | builder path base =>
    exact { same with
      imports := NameSet.toList_subset_add _ _
      handles := NameSet.toList_subset_add _ _ }
  | helper name code =>
    -- The helper is added under a name that has none.
    rw [grant, addHelper]
    split
    · exact same
    · next absent =>
      refine { same with helpers := fun other old found => ?_ }
      have differ : other ≠ name := by
        rintro rfl
        exact absent (by rw [SortedMap.contains, found]; rfl)
      rw [SortedMap.find?_insert, if_neg differ]
      exact found
  | workItem name => exact { same with workItems := NameSet.toList_subset_add _ _ }
  | signal name => exact { same with signals := NameSet.toList_subset_add _ _ }
  | diagnostic d => exact { same with diagnostics := List.prefix_append _ _ }
  | expression unique key e =>
    obtain rfl : unique = node.uniqueId := concerns
    refine { same with expressions := fun other outside otherKey => ?_ }
    have differ : other ≠ node.uniqueId := by simpa using outside
    rw [grant, expression?_record, if_neg fun both => differ both.1]

/-- **Requests on behalf of a node** replace nothing but expressions of this node. -/
theorem grows_grantAll (m : Metadata) {requests : List Request} (concern : ∀ r ∈ requests, r.Concerns node) :
    m.Grows [node.uniqueId] (m.grantAll requests) := by
  induction requests generalizing m with
  | nil => exact .refl _ _
  | cons r requests ih =>
    obtain ⟨first, others⟩ := List.forall_mem_cons.1 concern
    exact (m.grows_grant first).trans (ih _ others)

end Metadata

/-! ## On whose behalf a draft requests -/

namespace Site

/-- Drafts are compared with themselves by the node that their requests concern. -/
def concern (site : Site) (node : NodeHeader) : Comparison site site node where
  holds same d d' := Draft.Alike same d d' ∧ ∀ r ∈ d.requests, r.Concerns node
  done results := ⟨.done results, nofun⟩
  refused _ _ := ⟨.refused, nofun⟩
  bind first next := by
    obtain ⟨alike, concern⟩ := first
    refine ⟨alike.bind fun a b same => (next a b same).1, ?_⟩
    cases alike with
    | refused => exact concern
    | @done requests a b results => exact List.forall_mem_append.2 ⟨concern, (next a b results).2⟩
  request r fixed := by
    refine ⟨.refl _, List.forall_mem_singleton.2 ?_⟩
    cases fixed <;> trivial
  normalize raw := by
    refine ⟨(SeesLike.refl site).comparison node |>.normalize raw, ?_⟩
    unfold Draft.normalize
    cases Expression.isUnclosed raw with
    | false => exact nofun
    | true =>
      cases site.options.strictExpressions with
      | true => exact nofun
      | false =>
        cases site.options.diagnostics with
        | true => exact List.forall_mem_singleton.2 trivial
        | false => exact nofun
  requireVariable expression name := by
    refine ⟨.refl _, ?_⟩
    unfold Draft.requireVariable
    cases site.scopes.reference? site.scope name <;> exact nofun
  builder _ := ⟨.refl _, List.forall_mem_singleton.2 trivial⟩
  helper := ⟨.refl _, List.forall_mem_singleton.2 trivial⟩

end Site

/-- **What a built-in type drafts is on behalf of its node**, also before a problem. -/
theorem BuiltinType.concerns_draft (type : BuiltinType) (site : Site) (node : Node) :
    ∀ r ∈ (type.generator.draft site node).requests, r.Concerns node.header :=
  ((site.concern node.header).generator type fun _ _ _ _ _ _ => rfl).2

/-! ## One node -/

namespace Emit

variable {α β : Type}

/-- **One instruction or none**: a step that succeeds has added the instruction that creates a node, for the builder
with a handle, and one that fails has added no instruction. -/
def Creates (step : Emit α) (handle : String) (node : NodeHeader) : Prop :=
  ∀ s : Session,
    match step.run s with
    | .ok _ t =>
      (∃ code, t.body = s.body.push (.creation handle node code)) ∧ s.metadata.Grows [node.uniqueId] t.metadata
    | .error _ t => t.body = s.body ∧ s.metadata.Grows [node.uniqueId] t.metadata

/-- A step that does more only to its result does not add more. -/
theorem Creates.discard {step : Emit α} {handle : String} {node : NodeHeader} (creates : step.Creates handle node)
    (b : β) : (step >>= fun _ => pure b).Creates handle node := by
  intro s
  have created := creates s
  rw [EStateM.run_bind]
  cases ran : step.run s with
  | ok a t => simpa only [ran, EStateM.run_pure] using created
  | error e t => simpa only [ran] using created

end Emit

/-- **A built-in type creates its node or refuses it.** -/
theorem BuiltinType.creates (type : BuiltinType) (site : Site) (node : Node) :
    (Emit.create site node.header (type.generator.draft site node)).Creates site.handle node.header := by
  intro s
  have concern := type.concerns_draft site node
  rcases drafted : type.generator.draft site node with ⟨requests, problem | code⟩
  · rw [drafted] at concern
    rw [Emit.run_create_of_error rfl]
    exact ⟨by simp [Session.after], s.metadata.grows_grantAll concern⟩
  · rw [drafted] at concern
    rw [Emit.run_create_of_ok rfl]
    exact ⟨⟨_, rfl⟩, s.metadata.grows_grantAll concern⟩

/-- A node of a plain type is done when it is created. -/
theorem BuiltinType.creates_emitNode {plan : Plan} {type : BuiltinType} (closed : type.generator.opens = false)
    {node : Node} (known : plan.registry.find? node.header.type = some type.generator) (handle : String)
    (scope : ScopeId) : (emitNode plan handle scope node).Creates handle node.header := by
  have creates := type.creates (plan.site handle scope) node
  unfold emitNode
  rw [known]
  cases type with
  | subProcess | forEach | eventSubProcess => cases closed
  | start | finish | task | workItem | split | join | timer | milestone => exact creates.discard ()

/-! ## Nodes with all that is in them -/

/-- **A session that goes on from another**: instructions are added behind, and the metadata grow. -/
structure Session.Extends (uniqueIds : List String) (s t : Session) : Prop where
  body : s.body.instructions <+: t.body.instructions
  metadata : s.metadata.Grows uniqueIds t.metadata

namespace Session.Extends

variable {s middle t : Session} {uniqueIds others : List String}

protected theorem refl (uniqueIds : List String) (s : Session) : s.Extends uniqueIds s := ⟨List.prefix_rfl, .refl _ _⟩

theorem trans (h : s.Extends uniqueIds middle) (h' : middle.Extends uniqueIds t) : s.Extends uniqueIds t :=
  ⟨h.body.trans h'.body, h.metadata.trans h'.metadata⟩

theorem mono (h : s.Extends uniqueIds t) (fewer : uniqueIds ⊆ others) : s.Extends others t :=
  ⟨h.body, h.metadata.mono fewer⟩

theorem after {m : Metadata} (out : List Instruction) (grows : s.metadata.Grows uniqueIds m) :
    s.Extends uniqueIds (s.after out m) := ⟨List.prefix_append _ _, grows⟩

end Session.Extends

namespace Emit

variable {α β : Type} {uniqueIds others : List String}

/-- What there is after a step, whether it succeeds or fails. -/
def leaves (step : Emit α) (s : Session) : Session :=
  match step.run s with
  | .ok _ t => t
  | .error _ t => t

/-- A step that only adds. -/
def Adds (uniqueIds : List String) (step : Emit α) : Prop := ∀ s : Session, s.Extends uniqueIds (step.leaves s)

namespace Adds

theorem mono {step : Emit α} (h : step.Adds uniqueIds) (fewer : uniqueIds ⊆ others) : step.Adds others :=
  fun s => (h s).mono fewer

protected theorem pure (a : α) : (pure a : Emit α).Adds uniqueIds := fun _ => .refl _ _

theorem bind {step : Emit α} {next : α → Emit β} (h : step.Adds uniqueIds) (h' : ∀ a, (next a).Adds uniqueIds) :
    (step >>= next).Adds uniqueIds := by
  intro s
  have first := h s
  cases ran : step.run s with
  | error e t =>
    rw [leaves, ran] at first
    rw [leaves, EStateM.run_bind, ran]
    exact first
  | ok a t =>
    rw [leaves, ran] at first
    rw [leaves, EStateM.run_bind, ran]
    exact first.trans (h' a t)

theorem reject (node : NodeHeader) (problem : Problem) : (Emit.reject node problem : Emit α).Adds uniqueIds :=
  fun _ => .refl _ _

theorem pushAll (out : List Instruction) : (Emit.pushAll out).Adds uniqueIds := fun _ => .after out (.refl _ _)

theorem push (i : Instruction) : (Emit.push i).Adds uniqueIds := fun _ => .after [i] (.refl _ _)

theorem parentOf (scopes : Arena) (own : ScopeId) : (ProcessCompiler.parentOf scopes own).Adds uniqueIds := by
  unfold ProcessCompiler.parentOf
  cases scopes.get own with
  | ok found => exact .pure _
  | error e => exact fun _ => .refl _ _

theorem skip (options : Options) (node : NodeHeader) : (Emit.skip options node).Adds [node.uniqueId] := by
  unfold Emit.skip
  split
  · exact fun s => ⟨List.prefix_rfl, s.metadata.grows_grant (r := .diagnostic _) trivial⟩
  · exact .pure _

end Adds

/-- A step that creates a node only adds. -/
theorem Creates.adds {step : Emit α} {handle : String} {node : NodeHeader} (creates : step.Creates handle node) :
    step.Adds [node.uniqueId] := by
  intro s
  have created := creates s
  cases ran : step.run s with
  | ok a t =>
    rw [ran] at created
    obtain ⟨⟨code, body⟩, grows⟩ := created
    rw [leaves, ran]
    exact ⟨by rw [body]; exact List.prefix_append _ _, grows⟩
  | error e t =>
    rw [ran] at created
    rw [leaves, ran]
    exact ⟨created.1 ▸ List.prefix_rfl, created.2⟩

end Emit

section Walks

variable {plan : Plan}

mutual

/-- **A node with all that is in it only adds**, and replaces no expressions but those of its nodes. -/
theorem adds_emitNode (uses : plan.registry.UsesBuiltins) (handle : String) (scope : ScopeId) (node : Node) :
    (emitNode plan handle scope node).Adds (Node.uniqueIds [node]) := by
  have own : [node.header.uniqueId] ⊆ Node.uniqueIds [node] :=
    List.cons_subset.2 ⟨List.mem_map_of_mem (Node.mem_flattenAll_self node []), List.nil_subset _⟩
  unfold emitNode
  cases known : plan.registry.find? node.header.type with
  | none => exact (Emit.Adds.skip plan.options node.header).mono own
  | some generator =>
    obtain ⟨type, rfl⟩ := uses _ _ known
    have creates := (type.creates (plan.site handle scope) node).adds.mono own
    cases kind : type.generator with
    | statement draft => cases type <;> cases kind
    | builder draft =>
      rw [kind] at creates
      exact creates.bind fun _ => .pure ()
    | composite draft =>
      rw [kind] at creates
      match node with
      | .plain header => exact .reject header noChildren
      | .composite header inner nodes connections =>
        have children : Node.uniqueIds nodes ⊆ Node.uniqueIds [.composite header inner nodes connections] := by
          simp [Node.uniqueIds_composite]
        refine (Emit.Adds.parentOf plan.scopes inner).bind fun parent => ?_
        split
        · exact .reject header .scopeNotNested
        refine creates.bind fun innerHandle => ?_
        refine (Emit.Adds.pushAll _).bind fun _ => ?_
        refine ((adds_emitNodes uses innerHandle inner nodes).mono children).bind fun _ => ?_
        exact (Emit.Adds.pushAll _).bind fun _ => .push _

/-- Nodes with all that is in them only add. -/
theorem adds_emitNodes (uses : plan.registry.UsesBuiltins) (handle : String) (scope : ScopeId) (nodes : List Node) :
    (emitNodes plan handle scope nodes).Adds (Node.uniqueIds nodes) := by
  match nodes with
  | [] => exact .pure ()
  | node :: nodes =>
    have split : Node.uniqueIds (node :: nodes) = Node.uniqueIds [node] ++ Node.uniqueIds nodes := by
      cases node <;> simp
    rw [emitNodes, split]
    have first := (adds_emitNode uses handle scope node).mono (List.subset_append_left _ (Node.uniqueIds nodes))
    have others := (adds_emitNodes uses handle scope nodes).mono (List.subset_append_right (Node.uniqueIds [node]) _)
    exact first.bind fun _ => others

end

end Walks

/-- **The generators of built-in types only add.** Each of them adds one instruction that creates its node or none, and
what is bound to the tag of a node, be it under its own tag or another, goes through the node and all that is in it
without a loss, also if it ends in an error. -/
theorem generators_add (bindings : List (String × BuiltinType)) (options : Options) (scopes : Arena) (handle : String)
    (scope : ScopeId) (node : Node) :
    (∀ type : BuiltinType, (Emit.create ⟨options, scopes, handle, scope⟩ node.header
      (type.generator.draft ⟨options, scopes, handle, scope⟩ node)).Creates handle node.header) ∧
    (∀ type : BuiltinType, type.generator.opens = false →
      (Registry.ofTypes bindings).find? node.header.type = some type.generator →
        (emitNode ⟨.ofTypes bindings, options, scopes⟩ handle scope node).Creates handle node.header) ∧
    (emitNode ⟨.ofTypes bindings, options, scopes⟩ handle scope node).Adds (Node.uniqueIds [node]) :=
  ⟨fun type => type.creates ⟨options, scopes, handle, scope⟩ node,
    fun _ closed known => BuiltinType.creates_emitNode closed known handle scope,
    adds_emitNode (Registry.usesBuiltins_ofTypes bindings) handle scope node⟩

/-- A node of the tag `pause` is delayed, if the tag is bound to timers. -/
theorem generators_add_pause :
    BuiltinType.timer.generator.opens = false ∧
      (Registry.ofTypes [("pause", .timer)]).find? "pause" = some BuiltinType.timer.generator ∧
      (emitNode ⟨.ofTypes [("pause", .timer)], ⟨true, false, "runtime"⟩, ⟨[]⟩⟩ "factory" ⟨0⟩
        (.plain ⟨"p", "main_p", "pause", none, .ofList [("delay", .string "PT1H")]⟩)).Creates "factory"
          ⟨"p", "main_p", "pause", none, .ofList [("delay", .string "PT1H")]⟩ :=
  have known : (Registry.ofTypes [("pause", .timer)]).find? "pause" = some BuiltinType.timer.generator := by
    rw [Registry.find?_ofTypes]
    rfl
  ⟨rfl, known, (generators_add [("pause", .timer)] ⟨true, false, "runtime"⟩ ⟨[]⟩ "factory" ⟨0⟩
    (.plain ⟨"p", "main_p", "pause", none, .ofList [("delay", .string "PT1H")]⟩)).2.1 .timer rfl known⟩

end ProcessCompiler
