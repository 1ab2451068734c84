import ProcessCompiler.Proofs.FreshNames
import ProcessCompiler.Proofs.Instructions

/-!
# Handles

Every node that is created introduces a handle of its own, and a handle is used between the instruction that introduces
it and the one that closes its node. This holds however the generators of the built-in types are bound to tags.

* `Walk.introduces`: the handles that a walk introduces are new, and distinct.
* `Bracketed`: a handle is used only while it is open.
* `handles_of_generate`: both, for a whole body.
-/

namespace ProcessCompiler

/-! ## Names that are claimed -/

/-- The name that a request claims for a builder. -/
def Request.base? : Request → Option String
  | .builder _ base => some base
  | _ => none

theorem Request.base?_eq_none {r : Request} (other : r.isBuilder = false) : r.base? = none := by
  cases r with
  | builder => cases other
  | _ => rfl

namespace BuiltinType

/-- A node of a built-in type claims one name. -/
theorem filterMap_base?_requests (type : BuiltinType) (a : type.Attributes) (site : Site) (node : NodeHeader) :
    (type.requests a site node).filterMap Request.base? = [node.handleBase] :=
  filterMap_requests_of_builders (fun _ => Request.base?_eq_none) type a site node

end BuiltinType

namespace Metadata

variable {m : Metadata} {requests : List Request} {base : String}

theorem handles_grant_of_none {r : Request} (h : r.base? = none) : (m.grant r).handles = m.handles := by
  cases r with
  | builder factoryPath base => cases h
  | helper name code => rw [grant, addHelper_eq]
  | _ => rfl

/-- Requests that claim no name leave the names as they are. -/
theorem handles_grantAll_of_nil (h : requests.filterMap Request.base? = []) :
    (m.grantAll requests).handles = m.handles := by
  induction requests generalizing m with
  | nil => rfl
  | cons r requests ih =>
    have none : r.base? = none := (List.filterMap_eq_nil_iff.1 h) r List.mem_cons_self
    rw [List.filterMap_cons_none none] at h
    rw [grantAll_cons, ih h, handles_grant_of_none none]

theorem freshHandle_congr {m' : Metadata} (h : m.handles = m'.handles) : m.freshHandle base = m'.freshHandle base := by
  rw [freshHandle, freshHandle, h]

/-- Requests that claim one name add the name that is then free. -/
theorem handles_grantAll (h : requests.filterMap Request.base? = [base]) :
    (m.grantAll requests).handles = m.handles.add (m.freshHandle base) := by
  induction requests generalizing m with
  | nil => cases h
  | cons r requests ih =>
    rw [grantAll_cons]
    cases claimed : r.base? with
    | none =>
      rw [List.filterMap_cons_none claimed] at h
      rw [ih h, handles_grant_of_none claimed, freshHandle_congr (handles_grant_of_none claimed)]
    | some own =>
      rw [List.filterMap_cons_some claimed] at h
      obtain ⟨rfl, others⟩ := List.cons.inj h
      rw [handles_grantAll_of_nil others]
      cases r with
      | builder factoryPath base =>
        cases claimed
        rfl
      | _ => cases claimed

/-- A node that is skipped takes no name. -/
theorem handles_skipRequests (m : Metadata) (plan : Plan) (node : NodeHeader) :
    (m.grantAll (plan.skipRequests node)).handles = m.handles := by
  refine handles_grantAll_of_nil ?_
  unfold Plan.skipRequests
  split <;> rfl

/-- A node that is created takes the name that is free for it. -/
theorem handles_drafted {type : BuiltinType} {a : type.Attributes} {site : Site} {node : NodeHeader}
    {own? : Option ScopeId} {code : String → Code} (said : type.Drafted a site node own? requests code)
    (m : Metadata) : (m.grantAll requests).handles = m.handles.add (m.freshHandle node.handleBase) := by
  rw [said.asked]
  exact handles_grantAll (type.filterMap_base?_requests a site node)

end Metadata

/-! ## Handles that are introduced -/

/-- The handles that instructions introduce, in order. -/
def introduced (out : List Instruction) : List String := out.filterMap Instruction.declares?

@[simp] theorem introduced_cons (i : Instruction) (out : List Instruction) :
    introduced (i :: out) = i.declares?.toList ++ introduced out := by
  cases first : i.declares? with
  | none => rw [introduced, List.filterMap_cons_none first]; rfl
  | some handle => rw [introduced, List.filterMap_cons_some first]; rfl

@[simp] theorem introduced_append (out more : List Instruction) :
    introduced (out ++ more) = introduced out ++ introduced more := List.filterMap_append

@[simp] theorem introduced_declareVariables (options : Options) (handle : String) (declarations : SortedMap Variable) :
    introduced (declareVariables options handle declarations) = [] := by
  simp [introduced, declareVariables, List.filterMap_map, Function.comp_def]

@[simp] theorem introduced_connect (handle : String) (connections : List Connection) :
    introduced (connections.map (connect handle)) = [] := by
  simp [introduced, List.filterMap_map, Function.comp_def]

/-- A composite node and what is beside it introduce its handle, those inside and those beside. -/
theorem introduced_composite {options : Options} {handle inner : String} {header : NodeHeader} {code : Code}
    (introduces : (Instruction.creation handle header code).declares? = some inner) (declarations : SortedMap Variable)
    (connections : List Connection) (inside out : List Instruction) :
    introduced (.creation handle header code :: (declareVariables options inner declarations ++ inside ++
      connections.map (connect inner) ++ [.closing inner header]) ++ out) =
        inner :: (introduced inside ++ introduced out) := by
  simp only [List.cons_append, introduced_cons, introduces, Option.toList_some, introduced_append,
    introduced_declareVariables, introduced_connect, Instruction.declares?_closing, Option.toList_none, List.nil_append,
    List.append_assoc]

/-- The name of a node's builder has an underscore in it. -/
theorem underscore_mem_freshHandle (m : Metadata) (node : NodeHeader) :
    '_' ∈ (m.freshHandle node.handleBase).toList := by
  rcases m.freshHandle_eq node.handleBase with same | ⟨n, same⟩
  · rw [same]
    simp [NodeHeader.handleBase]
  · rw [same]
    simp [Metadata.numbered]

/-- The name of the factory has no underscore in it. -/
theorem freshHandle_ne_rootHandle (m : Metadata) (node : NodeHeader) : m.freshHandle node.handleBase ≠ rootHandle := by
  have underscored := underscore_mem_freshHandle m node
  intro same
  rw [same] at underscored
  exact absurd underscored (by decide)

/-- The handles that instructions introduce are distinct, were free before, and are taken after. -/
structure Introduces (m : Metadata) (out : List Instruction) (m' : Metadata) : Prop where
  distinct : (introduced out).Nodup
  free : ∀ handle ∈ introduced out, m.handles.contains handle = false
  notRoot : rootHandle ∉ introduced out
  taken : ∀ handle, m'.handles.contains handle = true ↔ m.handles.contains handle = true ∨ handle ∈ introduced out

namespace Introduces

variable {m m' m'' : Metadata} {out more : List Instruction}

/-- Only the handles that are introduced count. -/
theorem congr (h : Introduces m out m') (same : introduced more = introduced out) : Introduces m more m' where
  distinct := same ▸ h.distinct
  free := same ▸ h.free
  notRoot := same ▸ h.notRoot
  taken := same ▸ h.taken

theorem nothing (same : m'.handles = m.handles) : Introduces m [] m' where
  distinct := List.nodup_nil
  free _ member := by cases member
  notRoot member := by cases member
  taken handle := by
    rw [same]
    exact ⟨.inl, fun h => h.resolve_right List.not_mem_nil⟩

theorem trans (h : Introduces m out m') (h' : Introduces m' more m'') : Introduces m (out ++ more) m'' where
  distinct := by
    rw [introduced_append]
    refine List.nodup_append.2 ⟨h.distinct, h'.distinct, ?_⟩
    rintro handle early _ late rfl
    have free := h'.free handle late
    rw [(h.taken handle).2 (.inr early)] at free
    cases free
  free := by
    intro handle member
    rw [introduced_append] at member
    rcases List.mem_append.1 member with member | member
    · exact h.free handle member
    · have free := h'.free handle member
      cases before : m.handles.contains handle with
      | false => rfl
      | true =>
        rw [(h.taken handle).2 (.inl before)] at free
        cases free
  notRoot := by
    rw [introduced_append, List.mem_append]
    exact not_or.2 ⟨h.notRoot, h'.notRoot⟩
  taken := by
    intro handle
    rw [h'.taken, h.taken, introduced_append, List.mem_append, or_assoc]

/-- A node that is created introduces the name that its draft claims. -/
theorem creation {type : BuiltinType} {a : type.Attributes} {site : Site} {node : NodeHeader} {own? : Option ScopeId}
    {requests : List Request} {code : String → Code} (h : type.Drafted a site node own? requests code)
    (handle : String) : Introduces m [.creation handle node (code (m.freshHandle node.handleBase))]
      (m.grantAll requests) := by
  have one : introduced [.creation handle node (code (m.freshHandle node.handleBase))] =
      [m.freshHandle node.handleBase] := by
    rw [introduced, List.filterMap_cons_some (Instruction.declares?_of_drafted h _ _), List.filterMap_nil]
  exact {
    distinct := by simp [one]
    free := by simp [one, Metadata.contains_freshHandle]
    notRoot := by simpa [one] using (freshHandle_ne_rootHandle m node).symm
    taken := by
      intro handle
      rw [Metadata.handles_drafted h, one, List.mem_singleton, SortedMap.contains, SortedMap.contains, NameSet.add,
        SortedMap.find?_insert]
      by_cases same : handle = m.freshHandle node.handleBase <;> simp [same] }

end Introduces

/-- **The handles that a walk introduces are new and distinct.** -/
theorem Walk.introduces {plan : Plan} (uses : plan.registry.UsesBuiltins) {handle : String} {scope : ScopeId}
    {nodes : List Node} {m m' : Metadata} {out : List Instruction} (walk : Walk plan handle scope nodes m out m') :
    Introduces m out m' := by
  induction walk with
  | done => exact .nothing rfl
  | skip unknown rest ih => exact (Introduces.nothing (Metadata.handles_skipRequests _ _ _)).trans ih
  | leaf known closed drafted rest ih =>
    obtain ⟨type, a, rfl, said⟩ := uses.drafted known drafted
    exact (Introduces.creation said _).trans ih
  | @composite handle _ _ _ _ _ _ _ _ _ _ _ _ _ _ _ known opens nested drafted named within rest ihWithin ihRest =>
    obtain ⟨type, a, rfl, said⟩ := uses.drafted_composite known drafted
    subst named
    refine (((Introduces.creation said handle).trans ihWithin).trans ihRest).congr ?_
    have introduces := Instruction.declares?_of_drafted said
    rw [introduced_composite (introduces _ _), List.singleton_append, List.cons_append, introduced_cons, introduces,
      introduced_append]
    rfl

/-- Instructions that create nodes introduce handles, no others do. -/
theorem Walk.isSome_declares? {plan : Plan} (uses : plan.registry.UsesBuiltins) {handle : String} {scope : ScopeId}
    {nodes : List Node} {m m' : Metadata} {out : List Instruction} (walk : Walk plan handle scope nodes m out m') :
    ∀ i ∈ out, i.nodeId?.isSome = i.declares?.isSome := by
  induction walk with
  | done => exact fun i member => by cases member
  | skip unknown rest ih => exact ih
  | leaf known closed drafted rest ih =>
    obtain ⟨type, a, rfl, said⟩ := uses.drafted known drafted
    intro i member
    rcases List.mem_cons.1 member with rfl | member
    · rw [Instruction.declares?_of_drafted said, Instruction.nodeId?_creation]
      rfl
    · exact ih i member
  | composite known opens nested drafted named within rest ihWithin ihRest =>
    obtain ⟨type, a, rfl, said⟩ := uses.drafted_composite known drafted
    intro i member
    rcases mem_composite member with rfl | inside | beside | ⟨creates, introduces⟩
    · rw [Instruction.declares?_of_drafted said, Instruction.nodeId?_creation]
      rfl
    · exact ihWithin i inside
    · exact ihRest i beside
    · rw [creates, introduces]

/-! ## Handles that are used -/

/-- A handle is open between two pieces of a body: a node was created with it before, and is closed on it after. -/
def IsOpen (handle : String) (before after : List Instruction) : Prop :=
  ∃ unique type, (∃ i ∈ before, i.kind = .node unique type ∧ i.declares? = some handle) ∧
    ∃ i ∈ after, i.kind = .close unique ∧ i.handle = handle

/-- Every instruction is for the handle around it, or for one that is open where it stands. The instruction that closes
a node is the last one that may be for its handle. -/
def Bracketed (handle : String) (out : List Instruction) : Prop :=
  ∀ before i after, out = before ++ i :: after → i.handle = handle ∨ IsOpen i.handle before (i :: after)

theorem IsOpen.extend {handle : String} {before after : List Instruction} (h : IsOpen handle before after)
    (earlier later : List Instruction) : IsOpen handle (earlier ++ before) (after ++ later) := by
  obtain ⟨unique, type, ⟨i, member, creates⟩, j, member', closes⟩ := h
  exact ⟨unique, type, ⟨i, List.mem_append_right _ member, creates⟩, j, List.mem_append_left _ member', closes⟩

namespace Bracketed

variable {handle : String} {out more : List Instruction}

theorem of_forall (h : ∀ i ∈ out, i.handle = handle) : Bracketed handle out := by
  rintro before i after rfl
  exact .inl (h i (by simp))

theorem append (h : Bracketed handle out) (h' : Bracketed handle more) : Bracketed handle (out ++ more) := by
  intro before i after same
  obtain ⟨late, rfl, rest⟩ | ⟨early, rfl, rest⟩ := List.append_eq_append_iff.1 same
  · exact (h' late i after rest).imp_right fun isOpen => by simpa using isOpen.extend out []
  · cases early with
    | nil =>
      refine (h' [] i after (by simpa using rest.symm)).imp_right fun isOpen => ?_
      simpa using isOpen.extend before []
    | cons first early =>
      obtain ⟨rfl, rfl⟩ := List.cons.inj rest
      exact (h before i early rfl).imp_right fun isOpen => by simpa using isOpen.extend [] more

/-- Variables are declared, and nodes connected, on the handle around the nodes. -/
theorem enclosed {options : Options} {declarations : SortedMap Variable} {connections : List Connection}
    (h : Bracketed handle out) :
    Bracketed handle (declareVariables options handle declarations ++ out ++ connections.map (connect handle)) := by
  refine (Bracketed.append (of_forall ?_) h).append (of_forall ?_)
  · intro i member
    obtain ⟨entry, _, rfl⟩ := List.mem_map.1 member
    rfl
  · intro i member
    obtain ⟨c, _, rfl⟩ := List.mem_map.1 member
    rfl

/-- What a composite node adds, from what is inside. -/
theorem composite {inner : String} {header : NodeHeader} {code : Code} (h : Bracketed inner out)
    (introduces : (Instruction.creation handle header code).declares? = some inner) :
    Bracketed handle (.creation handle header code :: (out ++ [.closing inner header])) := by
  have whole : Bracketed inner (out ++ [.closing inner header]) :=
    h.append (of_forall fun i member => by rw [List.mem_singleton.1 member]; rfl)
  intro before i after same
  cases before with
  | nil =>
    obtain ⟨rfl, _⟩ := List.cons.inj same
    exact .inl rfl
  | cons first before =>
    obtain ⟨rfl, rest⟩ := List.cons.inj same
    refine .inr ?_
    rcases whole before i after rest with rfl | isOpen
    · have last : Instruction.closing i.handle header ∈ i :: after := by
        have ends := congrArg List.getLast? rest
        rw [List.getLast?_concat, List.append_eq, List.getLast?_append, List.getLast?_cons, Option.some_or] at ends
        exact List.mem_of_getLast? (List.getLast?_cons.trans ends.symm)
      exact ⟨_, _, ⟨_, List.mem_cons_self, rfl, introduces⟩, _, last, rfl, rfl⟩
    · simpa using isOpen.extend [_] []

end Bracketed

/-- **A walk uses a handle only while it is open.** -/
theorem Walk.bracketed {plan : Plan} (uses : plan.registry.UsesBuiltins) {handle : String} {scope : ScopeId}
    {nodes : List Node} {m m' : Metadata} {out : List Instruction} (walk : Walk plan handle scope nodes m out m') :
    Bracketed handle out := by
  induction walk with
  | done => exact .of_forall fun i member => by cases member
  | skip unknown rest ih => exact ih
  | leaf known closed drafted rest ih =>
    show Bracketed _ ([_] ++ _)
    refine Bracketed.append (.of_forall fun i member => ?_) ih
    rw [List.mem_singleton.1 member]
    rfl
  | composite known opens nested drafted named within rest ihWithin ihRest =>
    obtain ⟨type, a, rfl, said⟩ := uses.drafted_composite known drafted
    exact (ihWithin.enclosed.composite (Instruction.declares?_of_drafted said _ _)).append ihRest

/-! ## Nodes that are closed -/

/-- The node that an instruction closes. -/
def Instruction.closes? (i : Instruction) : Option String :=
  match i.kind with
  | .close id => some id
  | _ => none

/-- The nodes that instructions close, in order. -/
def closedIds (out : List Instruction) : List String := out.filterMap Instruction.closes?

@[simp] theorem closedIds_creation (handle : String) (node : NodeHeader) (code : Code) (out : List Instruction) :
    closedIds (.creation handle node code :: out) = closedIds out := rfl

@[simp] theorem closedIds_closing (handle : String) (node : NodeHeader) :
    closedIds [.closing handle node] = [node.uniqueId] := rfl

@[simp] theorem closedIds_append (out more : List Instruction) :
    closedIds (out ++ more) = closedIds out ++ closedIds more := List.filterMap_append

@[simp] theorem closedIds_declareVariables (options : Options) (handle : String) (declarations : SortedMap Variable) :
    closedIds (declareVariables options handle declarations) = [] := by
  rw [closedIds, List.filterMap_eq_nil_iff]
  intro i member
  obtain ⟨entry, _, rfl⟩ := List.mem_map.1 member
  rfl

@[simp] theorem closedIds_connect (handle : String) (connections : List Connection) :
    closedIds (connections.map (connect handle)) = [] := by
  rw [closedIds, List.filterMap_eq_nil_iff]
  intro i member
  obtain ⟨c, _, rfl⟩ := List.mem_map.1 member
  rfl

/-- A walk closes nodes of the graph, each at most once. -/
theorem Walk.closedIds_nodup {plan : Plan} {handle : String} {scope : ScopeId} {nodes : List Node} {m m' : Metadata}
    {out : List Instruction} (walk : Walk plan handle scope nodes m out m') :
    (Node.uniqueIds nodes).Nodup → (closedIds out).Nodup ∧ closedIds out ⊆ Node.uniqueIds nodes := by
  induction walk with
  | done => exact fun distinct => ⟨List.nodup_nil, List.nil_subset _⟩
  | @skip _ _ node nodes _ _ _ _ _ ih =>
    intro distinct
    have within := Node.uniqueIds_sublist node nodes
    obtain ⟨once, listed⟩ := ih (distinct.sublist within)
    exact ⟨once, fun u member => within.subset (listed member)⟩
  | @leaf _ _ node nodes _ _ _ _ _ _ _ _ _ _ ih =>
    intro distinct
    have within := Node.uniqueIds_sublist node nodes
    obtain ⟨once, listed⟩ := ih (distinct.sublist within)
    exact ⟨once, fun u member => within.subset (listed member)⟩
  | composite known opens nested drafted named within rest ihWithin ihRest =>
    intro distinct
    rw [Node.uniqueIds_composite] at distinct ⊢
    obtain ⟨own, others⟩ := List.nodup_cons.1 distinct
    rw [List.mem_append, not_or] at own
    obtain ⟨distinctInside, distinctRest, apart⟩ := List.nodup_append.1 others
    obtain ⟨onceInside, listedInside⟩ := ihWithin distinctInside
    obtain ⟨onceRest, listedRest⟩ := ihRest distinctRest
    simp only [closedIds_append, closedIds_creation, closedIds_declareVariables, closedIds_connect, closedIds_closing,
      List.nil_append, List.append_nil]
    constructor
    · refine List.nodup_append.2 ⟨List.nodup_append.2 ⟨onceInside, by simp, ?_⟩, onceRest, ?_⟩
      · rintro u inside v single rfl
        rw [List.mem_singleton.1 single] at inside
        exact own.1 (listedInside inside)
      · rintro u early v late rfl
        rcases List.mem_append.1 early with inside | single
        · exact apart u (listedInside inside) u (listedRest late) rfl
        · rw [List.mem_singleton.1 single] at late
          exact own.2 (listedRest late)
    · intro u member
      simp only [List.mem_append, List.mem_cons, List.not_mem_nil, or_false] at member ⊢
      rcases member with (inside | rfl) | late
      · exact .inr (.inl (listedInside inside))
      · exact .inl rfl
      · exact .inr (.inr (listedRest late))

/-! ## Whole bodies -/

/-- **Handles are distinct and used only while they are open.** Every node that is created introduces a handle, all of
them differ from each other and from the factory, every composite node is closed once, and each instruction is for the
factory or for a handle that is open where the instruction stands. -/
theorem handles_of_generate {d : ProcessDefinition} {graph : ProcessGraph} {bindings : List (String × BuiltinType)}
    {options : Options} {session : Session} (accepted : ProcessGraph.ofDefinition d = .ok graph)
    (generated : generate graph (.ofTypes bindings) options = .ok session) :
    (∀ i ∈ session.body.instructions, i.nodeId?.isSome = i.declares?.isSome) ∧
      (introduced session.body.instructions).Nodup ∧ rootHandle ∉ introduced session.body.instructions ∧
      (closedIds session.body.instructions).Nodup ∧ Bracketed rootHandle session.body.instructions := by
  obtain ⟨_, _, _, built⟩ := built_of_ofDefinition accepted
  obtain ⟨out, walk, body⟩ := generate_eq_ok_iff.1 generated
  have uses := Registry.usesBuiltins_ofTypes bindings
  have introduces := walk.introduces uses
  rw [body]
  refine ⟨?_, ?_, ?_, ?_, ?_⟩
  · intro i member
    rcases mem_enclosed member with inside | ⟨creates, introduces⟩
    · exact walk.isSome_declares? uses i inside
    · rw [creates, introduces]
  · simpa using introduces.distinct
  · simpa using introduces.notRoot
  · simpa using (walk.closedIds_nodup built.nodup_uniqueIds).1
  · exact (walk.bracketed uses).enclosed

/-- A process whose ids become the same in handles, also across levels. -/
def alikeDefinition : ProcessDefinition where
  id := "orders"
  name := none
  version := none
  declarations := .empty
  nodes := [
    ⟨"a-b", "box", none, .empty, none, some [⟨"c", "halt", none, .empty, none, none, []⟩], []⟩,
    ⟨"a_b", "box", none, .empty, none, some [⟨"c", "halt", none, .empty, none, none, []⟩], []⟩,
    ⟨"a_b_2", "box", none, .empty, none, some [], []⟩]
  connections := [⟨"a-b", "a_b", none⟩]

theorem handles_of_generate_alike : ∃ graph session,
    ProcessGraph.ofDefinition alikeDefinition = .ok graph ∧
      generate graph (.ofTypes [("box", .subProcess), ("halt", .task), ("halt", .finish)]) .default = .ok session ∧
      introduced session.body.instructions =
        ["box_a_b", "halt_a_b_c", "box_a_b_2", "halt_a_b_c_2", "box_a_b_2_2"] ∧
      (introduced session.body.instructions).Nodup ∧ Bracketed rootHandle session.body.instructions := by
  have named : (alikeDefinition.session? (.ofTypes [("box", .subProcess), ("halt", .task), ("halt", .finish)])
      .default).map (fun session => introduced session.body.instructions) =
        some ["box_a_b", "halt_a_b_c", "box_a_b_2", "halt_a_b_c_2", "box_a_b_2_2"] := by decide +kernel
  obtain ⟨session, found, handles⟩ := Option.map_eq_some_iff.1 named
  obtain ⟨graph, accepted, generated⟩ := ProcessDefinition.session?_eq_some_iff.1 found
  obtain ⟨_, distinct, _, _, bracketed⟩ := handles_of_generate accepted generated
  exact ⟨graph, session, accepted, generated, handles, distinct, bracketed⟩

end ProcessCompiler
