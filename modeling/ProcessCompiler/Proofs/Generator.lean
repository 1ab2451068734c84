import ProcessCompiler.Proofs.Draft
import ProcessCompiler.Proofs.Walk

/-!
# What the built-in types draft

For each built-in type: which attributes are expressions, which name a variable, and what a node with given attributes
requests. A draft that succeeds is told by its attributes alone.

* `BuiltinType.requests`: what a node of a type requests, from its attributes.
* `BuiltinType.calls`: the calls that set up its builder.
* `BuiltinType.Drafted`: everything that a draft that succeeds says.
* `BuiltinType.drafted_of_eq_ok`: a draft of a built-in type that succeeds is of this form.
-/

namespace ProcessCompiler

/-! ## Attributes by their use -/

namespace WorkItemAttributes

/-- The parameters that are expressions. -/
def embedded (a : WorkItemAttributes) : List (String × String) :=
  a.parameters.entries.filter fun p => Expression.isEmbedded p.2

end WorkItemAttributes

namespace TimerAttributes

/-- The delay without blanks around it, if it is an expression. -/
def embedded? (a : TimerAttributes) : Option String :=
  if Expression.isEmbedded (Text.trim a.delay) then some (Text.trim a.delay) else none

end TimerAttributes

/-- Whether a request is for a builder. -/
def Request.isBuilder : Request → Bool
  | .builder .. => true
  | _ => false

namespace BuiltinType

/-- The method of the enclosing builder that creates a node of a type. -/
def factoryMethod : BuiltinType → String
  | .start => "start_node"
  | .finish => "end_node"
  | .task => "action_node"
  | .workItem => "work_item_node"
  | .split => "split_node"
  | .join => "join_node"
  | .timer => "timer_node"
  | .milestone => "milestone_node"
  | .subProcess => "composite_node"
  | .forEach => "for_each_node"
  | .eventSubProcess => "event_sub_process_node"

/-- The type of the builder of a node. -/
def factoryType : BuiltinType → String
  | .start => "StartNodeFactory"
  | .finish => "EndNodeFactory"
  | .task => "ActionNodeFactory"
  | .workItem => "WorkItemNodeFactory"
  | .split => "SplitFactory"
  | .join => "JoinFactory"
  | .timer => "TimerNodeFactory"
  | .milestone => "MilestoneNodeFactory"
  | .subProcess => "CompositeContextNodeFactory"
  | .forEach => "ForEachNodeFactory"
  | .eventSubProcess => "EventSubProcessNodeFactory"

/-- The expressions among the attributes, under the names they are kept by, as they are written. A delay is taken
without the blanks around it. -/
def expressions : (type : BuiltinType) → type.Attributes → List (String × String)
  | .task => fun (a : TaskAttributes) => [("expr", a.expr)]
  | .workItem => fun (a : WorkItemAttributes) => a.embedded.map fun p => ("parameters." ++ p.1, p.2)
  | .split => fun (a : SplitAttributes) => a.constraints.map fun c => ("constraints." ++ c.target, c.expr)
  | .timer => fun (a : TimerAttributes) => a.embedded?.toList.map fun delay => ("delay", delay)
  | .milestone => fun (a : MilestoneAttributes) => [("condition", a.condition)]
  | .forEach => fun (a : ForEachAttributes) => [("collection", a.collection)]
  | .start | .finish | .join | .subProcess | .eventSubProcess => fun _ => []

/-- The attributes that name a variable which receives a result. -/
def receivers : (type : BuiltinType) → type.Attributes → List String
  | .task => fun (a : TaskAttributes) => a.output.toList
  | .forEach => fun (a : ForEachAttributes) => a.output.toList
  | .start | .finish | .workItem | .split | .join | .timer | .milestone | .subProcess | .eventSubProcess => fun _ => []

/-- The attributes that name a variable of the node's own scope. -/
def items : (type : BuiltinType) → type.Attributes → List String
  | .forEach => fun (a : ForEachAttributes) => [a.item]
  | .start | .finish | .task | .workItem | .split | .join | .timer | .milestone | .subProcess | .eventSubProcess =>
    fun _ => []

/-- The attributes that are stripped of delimiters, in the order in which that is done. -/
def delimited : (type : BuiltinType) → type.Attributes → List String
  | .task => fun (a : TaskAttributes) => a.expr :: a.output.toList
  | .workItem => fun (a : WorkItemAttributes) => a.embedded.map (·.2)
  | .split => fun (a : SplitAttributes) => a.constraints.map Constraint.expr
  | .timer => fun (a : TimerAttributes) => a.embedded?.toList
  | .milestone => fun (a : MilestoneAttributes) => [a.condition]
  | .forEach => fun (a : ForEachAttributes) => a.item :: a.collection :: a.output.toList
  | .start | .finish | .join | .subProcess | .eventSubProcess => fun _ => []

/-- The request for the builder of a node. -/
def builderRequest (type : BuiltinType) (site : Site) (node : NodeHeader) : Request :=
  .builder (site.options.runtimePath ("nodes::" ++ type.factoryType)) node.handleBase

/-- What is requested for the expressions among the attributes. -/
def resolutions (type : BuiltinType) (a : type.Attributes) (site : Site) (node : NodeHeader) : List Request :=
  (type.expressions a).flatMap fun x => site.resolution node x.1 x.2

/-- What is requested for the helper that evaluates conditions. -/
def helperRequest (site : Site) : Request := .helper conditionHelper (conditionHelperCode site.options)

/-- What a node with given attributes requests. -/
def requests (type : BuiltinType) (a : type.Attributes) (site : Site) (node : NodeHeader) : List Request :=
  let builder := type.builderRequest site node
  let resolutions := type.resolutions a site node
  match type, a with
  | .start, (a : StartAttributes) => builder :: a.signal.toList.map .signal
  | .finish, _ | .join, _ | .subProcess, _ => [builder]
  | .task, (a : TaskAttributes) => resolutions ++ a.output.toList.flatMap (site.cuts node) ++ [builder]
  | .workItem, (a : WorkItemAttributes) => builder :: resolutions ++ [.workItem a.workName]
  | .split, (a : SplitAttributes) => builder :: resolutions ++ if a.kind = .and then [] else [helperRequest site]
  | .timer, _ => builder :: resolutions
  | .milestone, _ => resolutions ++ [helperRequest site, builder]
  | .forEach, (a : ForEachAttributes) =>
    site.cuts node a.item ++ resolutions ++ a.output.toList.flatMap (site.cuts node) ++ [builder]
  | .eventSubProcess, (a : EventSubProcessAttributes) => [.signal a.signal, builder]

/-- What a node with given attributes requests besides what becomes of its expressions. -/
def wants (type : BuiltinType) (a : type.Attributes) (site : Site) (node : NodeHeader) : List Request :=
  let builder := type.builderRequest site node
  match type, a with
  | .start, (a : StartAttributes) => builder :: a.signal.toList.map .signal
  | .workItem, (a : WorkItemAttributes) => [builder, .workItem a.workName]
  | .split, (a : SplitAttributes) => builder :: if a.kind = .and then [] else [helperRequest site]
  | .milestone, _ => [helperRequest site, builder]
  | .eventSubProcess, (a : EventSubProcessAttributes) => [.signal a.signal, builder]
  | .finish, _ | .task, _ | .join, _ | .timer, _ | .subProcess, _ | .forEach, _ => [builder]

/-- The call of a parameter of a work item. -/
def parameterCall (site : Site) (p : String × String) : String × List Code :=
  if Expression.isEmbedded p.2 then
    ("parameter_expression", [Code.string p.1, (site.resolved p.2).code site.options])
  else ("parameter", [Code.string p.1, Code.string p.2])

/-- The call of a constraint of a split. -/
def constraintCall (site : Site) (c : Constraint) : String × List Code :=
  ("constraint", [Code.string c.target, Code.words [toString c.priority.toNat ++ "u32"],
    (site.resolved c.expr).code site.options, Code.words [conditionHelper]])

/-- The call of the delay of a timer. -/
def delayCall (site : Site) (a : TimerAttributes) : String × List Code :=
  match a.embedded? with
  | some delay => ("delay_expression", [(site.resolved delay).code site.options])
  | none => ("delay", [Code.string (Text.trim a.delay)])

/-- The calls of an attribute that may name a variable which receives a result. -/
def receiverCalls (method : String) (output : Option String) : List (String × List Code) :=
  output.toList.map fun raw => (method, [Code.string (receiverName raw)])

/-- **The calls that set up the builder of a node with given attributes**, by their methods and arguments. The last one
for a plain node finishes the builder. -/
def calls (type : BuiltinType) (a : type.Attributes) (site : Site) : List (String × List Code) :=
  match type, a with
  | .start, (a : StartAttributes) =>
    a.signal.toList.map (fun signal => ("trigger", [Code.string signal])) ++ [("done", [])]
  | .finish, (a : FinishAttributes) => [("terminate", [Code.bool a.terminate]), ("done", [])]
  | .task, (a : TaskAttributes) =>
    ("action", [(site.resolved a.expr).code site.options]) :: receiverCalls "output" a.output ++ [("done", [])]
  | .workItem, (a : WorkItemAttributes) =>
    ("work_name", [Code.string a.workName]) :: a.parameters.entries.map (parameterCall site) ++ [("done", [])]
  | .split, (a : SplitAttributes) =>
    ("kind", [site.options.runtimeMember ["SplitKind", a.kind.codeName]]) ::
      a.constraints.map (constraintCall site) ++ [("done", [])]
  | .join, (a : JoinAttributes) =>
    [("kind", [site.options.runtimeMember ["JoinKind", a.kind.codeName]]), ("done", [])]
  | .timer, (a : TimerAttributes) => [delayCall site a, ("done", [])]
  | .milestone, (a : MilestoneAttributes) =>
    [("condition", [(site.resolved a.condition).code site.options, Code.words [conditionHelper]]), ("done", [])]
  | .subProcess, (a : SubProcessAttributes) => [("auto_complete", [Code.bool a.autoComplete])]
  | .forEach, (a : ForEachAttributes) =>
    ("collection_expression", [(site.resolved a.collection).code site.options]) ::
      ("variable_name", [Code.string (receiverName a.item)]) :: receiverCalls "output_collection" a.output
  | .eventSubProcess, (a : EventSubProcessAttributes) => [("trigger", [Code.string a.signal])]

section Projections

variable {β : Type} {f : Request → Option β}

/-- A projection of requests that skips diagnostics finds nothing in what is cut. -/
theorem filterMap_cuts (skips : ∀ d, f (.diagnostic d) = none) (site : Site) (node : NodeHeader) (raw : String) :
    (site.cuts node raw).filterMap f = [] := by
  unfold Site.cuts
  split
  · rw [List.filterMap_cons_none (skips _), List.filterMap_nil]
  · rfl

theorem filterMap_flatMap_cuts (skips : ∀ d, f (.diagnostic d) = none) (site : Site) (node : NodeHeader)
    (raws : List String) : (raws.flatMap (site.cuts node)).filterMap f = [] := by
  rw [List.filterMap_flatMap, List.flatMap_eq_nil_iff]
  exact fun raw _ => filterMap_cuts skips site node raw

theorem filterMap_resolutions (skips : ∀ d, f (.diagnostic d) = none) (type : BuiltinType) (a : type.Attributes)
    (site : Site) (node : NodeHeader) : (type.resolutions a site node).filterMap f =
      (type.expressions a).filterMap fun x => f (.expression node.uniqueId x.1 (site.resolved x.2)) := by
  rw [resolutions]
  induction type.expressions a with
  | nil => rfl
  | cons x xs ih =>
    rw [List.flatMap_cons, List.filterMap_append, ih, Site.resolution, List.filterMap_append, filterMap_cuts skips]
    cases found : f (.expression node.uniqueId x.1 (site.resolved x.2)) <;> simp [found]

/-- What is requested of a kind that is neither reported nor kept with expressions. -/
theorem filterMap_requests (skips : ∀ d, f (.diagnostic d) = none)
    (passes : ∀ unique key e, f (.expression unique key e) = none) (type : BuiltinType) (a : type.Attributes)
    (site : Site) (node : NodeHeader) :
    (type.requests a site node).filterMap f = (type.wants a site node).filterMap f := by
  have resolved : (type.resolutions a site node).filterMap f = [] := by
    rw [filterMap_resolutions skips, List.filterMap_eq_nil_iff]
    exact fun _ _ => passes _ _ _
  cases type <;> simp only [requests, wants, List.filterMap_cons, List.filterMap_append, List.filterMap_nil, resolved,
    filterMap_cuts skips, filterMap_flatMap_cuts skips, List.nil_append, List.append_nil, List.cons_append]

/-- **A node of a built-in type requests one builder**, its own: this is all that is found by a projection that skips
requests of other kinds. -/
theorem filterMap_requests_of_builders (others : ∀ r : Request, r.isBuilder = false → f r = none) (type : BuiltinType)
    (a : type.Attributes) (site : Site) (node : NodeHeader) :
    (type.requests a site node).filterMap f = (f (type.builderRequest site node)).toList := by
  have behind {others' : List Request} (skipped : others'.filterMap f = []) :
      (type.builderRequest site node :: others').filterMap f = (f (type.builderRequest site node)).toList := by
    rw [List.filterMap_cons, skipped]
    cases f (type.builderRequest site node) <;> rfl
  rw [filterMap_requests (fun _ => others _ rfl) (fun _ _ _ => others _ rfl)]
  cases type with
  | start =>
    refine behind (List.filterMap_eq_nil_iff.2 fun r among => ?_)
    obtain ⟨signal, _, rfl⟩ := List.mem_map.1 among
    exact others _ rfl
  | workItem => exact behind (List.filterMap_cons_none (others _ rfl))
  | split =>
    refine behind ?_
    split
    · rfl
    · exact List.filterMap_cons_none (others _ rfl)
  | milestone => exact (List.filterMap_cons_none (others _ rfl)).trans (behind rfl)
  | eventSubProcess => exact (List.filterMap_cons_none (others _ rfl)).trans (behind rfl)
  | finish | task | join | timer | subProcess | forEach => exact behind rfl

end Projections

end BuiltinType

/-- The code of calls on a handle. -/
def Code.calls (handle : String) (calls : List (String × List Code)) : Code :=
  calls.flatMap fun c => Code.call handle c.1 c.2

@[simp] theorem Code.calls_nil (handle : String) : Code.calls handle [] = [] := rfl

@[simp] theorem Code.calls_cons (handle : String) (c : String × List Code) (calls : List (String × List Code)) :
    Code.calls handle (c :: calls) = Code.call handle c.1 c.2 ++ Code.calls handle calls := rfl

@[simp] theorem Code.calls_append (handle : String) (calls more : List (String × List Code)) :
    Code.calls handle (calls ++ more) = Code.calls handle calls ++ Code.calls handle more := List.flatMap_append

/-- What receives a result is named in one call, if there is something. -/
theorem Code.callOption_receiverName (handle method : String) (output : Option String) :
    Code.callOption handle method (output.map receiverName) =
      Code.calls handle (BuiltinType.receiverCalls method output) := by
  cases output with
  | none => rfl
  | some raw => exact (List.append_nil _).symm

namespace BuiltinType

/-- Everything that a draft of a built-in type says when it succeeds, of a node that may have a scope of its own. -/
structure Drafted (type : BuiltinType) (a : type.Attributes) (site : Site) (node : NodeHeader) (own? : Option ScopeId)
    (requests : List Request) (code : String → Code) : Prop where
  told : type.readAttributes node.attributes = .ok a
  asked : requests = type.requests a site node
  built : ∀ handle, code handle = node.builderCode site.handle type.factoryMethod type.factoryType handle ++
    Code.calls handle (type.calls a site)
  passes : ∀ raw ∈ type.delimited a, site.Passes raw
  resolved : ∀ x ∈ type.expressions a, site.Resolves x.2
  received : ∀ raw ∈ type.receivers a, (site.reference? (receiverName raw)).isSome
  declared : ∀ raw ∈ type.items a, ∃ own ∈ own?, (site.scopes.declared? own (receiverName raw)).isSome

/-! ## Type by type -/

/-- Attributes that are expressions are stripped of delimiters. -/
theorem delimited_of_expression {type : BuiltinType} {a : type.Attributes} {x : String × String}
    (h : x ∈ type.expressions a) : x.2 ∈ type.delimited a := by
  cases type <;> simp only [expressions, delimited, List.mem_map, List.mem_singleton, List.not_mem_nil] at h ⊢
  case task => simp [h]
  case workItem => obtain ⟨p, member, rfl⟩ := h; exact ⟨p, member, rfl⟩
  case split => obtain ⟨c, member, rfl⟩ := h; exact ⟨c, member, rfl⟩
  case timer => obtain ⟨delay, member, rfl⟩ := h; exact member
  case milestone => simp [h]
  case forEach => simp [h]

/-- Attributes that name a variable which receives a result are stripped of delimiters. -/
theorem delimited_of_receiver {type : BuiltinType} {a : type.Attributes} {raw : String}
    (h : raw ∈ type.receivers a) : raw ∈ type.delimited a := by
  cases type <;> simp only [receivers, delimited, List.not_mem_nil] at h ⊢
  case task => exact List.mem_cons_of_mem _ h
  case forEach => exact List.mem_cons_of_mem _ (List.mem_cons_of_mem _ h)

/-- Attributes that name a variable of the node's own scope are stripped of delimiters. -/
theorem delimited_of_item {type : BuiltinType} {a : type.Attributes} {raw : String}
    (h : raw ∈ type.items a) : raw ∈ type.delimited a := by
  cases type <;> simp only [items, delimited, List.mem_singleton, List.not_mem_nil] at h ⊢
  case forEach => simp [h]

section Types

open Draft

variable {site : Site} {node : NodeHeader} {own own' : ScopeId} {own? : Option ScopeId} {asked : List Request}
  {code : String → Code}

/-- Where nothing is stripped of delimiters there is nothing to resolve. -/
theorem Drafted.of_delimited_eq_nil {type : BuiltinType} {a : type.Attributes}
    (told : type.readAttributes node.attributes = .ok a) (asks : asked = type.requests a site node)
    (built : ∀ handle, code handle = node.builderCode site.handle type.factoryMethod type.factoryType handle ++
      Code.calls handle (type.calls a site))
    (h : type.delimited a = []) : Drafted type a site node own? asked code where
  told := told
  asked := asks
  built := built
  passes := by simp [h]
  resolved x member := absurd (delimited_of_expression member) (by simp [h])
  received raw member := absurd (delimited_of_receiver member) (by simp [h])
  declared raw member := absurd (delimited_of_item member) (by simp [h])

theorem Drafted.of_start (h : draftStart site node = ⟨asked, .ok code⟩) :
    ∃ a, Drafted .start a site node own? asked code := by
  obtain ⟨⟨signal⟩, told, h⟩ := of_attributes_bind .start h
  cases signal with
  | none =>
    simp only [bind_eq_ok_iff, builder_eq_ok_iff, pure_eq_ok_iff] at h
    obtain ⟨_, create, _, ⟨rfl, rfl⟩, ⟨rfl, rfl⟩, rfl⟩ := h
    exact ⟨_, .of_delimited_eq_nil told rfl (fun handle => by simp [calls, doneCode, factoryMethod, factoryType]) rfl⟩
  | some signal =>
    simp only [bind_eq_ok_iff, requireText_eq_ok_iff, builder_eq_ok_iff, request_eq_ok_iff, pure_eq_ok_iff] at h
    obtain ⟨_, _, _, ⟨rfl, filled⟩, ⟨_, create, _, ⟨rfl, rfl⟩, ⟨_, _, _, rfl, ⟨rfl, rfl⟩, rfl⟩, rfl⟩, rfl⟩ := h
    exact ⟨_, .of_delimited_eq_nil told rfl (fun handle => by simp [calls, doneCode, factoryMethod, factoryType]) rfl⟩

theorem Drafted.of_finish (h : draftFinish site node = ⟨asked, .ok code⟩) :
    ∃ a, Drafted .finish a site node own? asked code := by
  obtain ⟨a, told, h⟩ := of_attributes_bind .finish h
  simp only [bind_eq_ok_iff, builder_eq_ok_iff, pure_eq_ok_iff] at h
  obtain ⟨_, create, _, ⟨rfl, rfl⟩, ⟨rfl, rfl⟩, rfl⟩ := h
  exact ⟨a, .of_delimited_eq_nil told rfl (fun handle => by simp [calls, doneCode, factoryMethod, factoryType]) rfl⟩

theorem Drafted.of_join (h : draftJoin site node = ⟨asked, .ok code⟩) :
    ∃ a, Drafted .join a site node own? asked code := by
  obtain ⟨a, told, h⟩ := of_attributes_bind .join h
  simp only [bind_eq_ok_iff, builder_eq_ok_iff, pure_eq_ok_iff] at h
  obtain ⟨_, create, _, ⟨rfl, rfl⟩, ⟨rfl, rfl⟩, rfl⟩ := h
  exact ⟨a, .of_delimited_eq_nil told rfl (fun handle => by simp [calls, doneCode, factoryMethod, factoryType]) rfl⟩

theorem Drafted.of_subProcess (h : draftSubProcess site node = ⟨asked, .ok code⟩) :
    ∃ a, Drafted .subProcess a site node own? asked code := by
  obtain ⟨a, told, h⟩ := of_attributes_bind .subProcess h
  simp only [bind_eq_ok_iff, builder_eq_ok_iff, pure_eq_ok_iff] at h
  obtain ⟨_, create, _, ⟨rfl, rfl⟩, ⟨rfl, rfl⟩, rfl⟩ := h
  exact ⟨a, .of_delimited_eq_nil told rfl (fun handle => by simp [calls, factoryMethod, factoryType]) rfl⟩

theorem Drafted.of_eventSubProcess (h : draftEventSubProcess site node = ⟨asked, .ok code⟩) :
    ∃ a, Drafted .eventSubProcess a site node own? asked code := by
  obtain ⟨a, told, h⟩ := of_attributes_bind .eventSubProcess h
  simp only [bind_eq_ok_iff, requireText_eq_ok_iff, request_eq_ok_iff, builder_eq_ok_iff, pure_eq_ok_iff] at h
  obtain ⟨_, _, _, ⟨rfl, filled⟩, ⟨_, _, _, rfl, ⟨_, create, _, ⟨rfl, rfl⟩, ⟨rfl, rfl⟩, rfl⟩, rfl⟩, rfl⟩ := h
  exact ⟨a, .of_delimited_eq_nil told rfl (fun handle => by simp [calls, factoryMethod, factoryType]) rfl⟩

theorem Drafted.of_task (h : draftTask site node = ⟨asked, .ok code⟩) :
    ∃ a, Drafted .task a site node own? asked code := by
  obtain ⟨a, told, h⟩ := of_attributes_bind .task h
  simp only [bind_eq_ok_iff, requireText_eq_ok_iff, resolve_eq_ok_iff, receiver?_eq_ok_iff, builder_eq_ok_iff,
    pure_eq_ok_iff] at h
  obtain ⟨_, _, _, ⟨rfl, filled⟩, ⟨_, e, _, ⟨passes, resolves, rfl, rfl⟩, ⟨_, output, _, ⟨received, rfl, rfl⟩,
    ⟨_, create, _, ⟨rfl, rfl⟩, ⟨rfl, rfl⟩, rfl⟩, rfl⟩, rfl⟩, rfl⟩ := h
  exact ⟨a, {
    told := told
    asked := by simp [BuiltinType.requests, resolutions, expressions, builderRequest, factoryType]
    built := fun handle => by simp [calls, doneCode, factoryMethod, factoryType, Code.callOption_receiverName]
    passes := by
      intro raw member
      rcases List.mem_cons.1 member with rfl | member
      · exact passes
      · exact (received raw (Option.mem_toList.1 member)).1
    resolved := by simpa [expressions] using resolves
    received := fun raw member => (received raw (Option.mem_toList.1 member)).2.2
    declared := by simp [items] }⟩

theorem Drafted.of_milestone (h : draftMilestone site node = ⟨asked, .ok code⟩) :
    ∃ a, Drafted .milestone a site node own? asked code := by
  obtain ⟨a, told, h⟩ := of_attributes_bind .milestone h
  simp only [bind_eq_ok_iff, requireText_eq_ok_iff, resolve_eq_ok_iff, needConditionHelper, request_eq_ok_iff,
    builder_eq_ok_iff, pure_eq_ok_iff] at h
  obtain ⟨_, _, _, ⟨rfl, filled⟩, ⟨_, e, _, ⟨passes, resolves, rfl, rfl⟩, ⟨_, _, _, rfl,
    ⟨_, create, _, ⟨rfl, rfl⟩, ⟨rfl, rfl⟩, rfl⟩, rfl⟩, rfl⟩, rfl⟩ := h
  exact ⟨a, {
    told := told
    asked := by simp [BuiltinType.requests, resolutions, expressions, builderRequest, factoryType, helperRequest]
    built := fun handle => by simp [calls, doneCode, factoryMethod, factoryType]
    passes := by simpa [delimited] using passes
    resolved := by simpa [expressions] using resolves
    received := by simp [receivers]
    declared := by simp [items] }⟩

/-- An expression as a delay is resolved, any other delay asks for nothing more. -/
theorem Drafted.of_timer (h : draftTimer site node = ⟨asked, .ok code⟩) :
    ∃ a, Drafted .timer a site node own? asked code := by
  obtain ⟨a, told, h⟩ := of_attributes_bind .timer h
  -- a variable for the delay keeps its blanks from being computed away
  obtain ⟨delay, trimmed⟩ : ∃ delay, Text.trim (TimerAttributes.delay a) = delay := ⟨_, rfl⟩
  have embedded? : TimerAttributes.embedded? a = if Expression.isEmbedded delay then some delay else none := by
    rw [← trimmed]; rfl
  simp only [trimmed, bind_eq_ok_iff, requireText_eq_ok_iff, builder_eq_ok_iff] at h
  obtain ⟨_, _, _, ⟨rfl, filled⟩, ⟨_, create, _, ⟨rfl, rfl⟩, rest, rfl⟩, rfl⟩ := h
  split at rest
  · next embedded =>
    simp only [bind_eq_ok_iff, resolve_eq_ok_iff, pure_eq_ok_iff] at rest
    obtain ⟨_, e, _, ⟨passes, resolves, rfl, rfl⟩, ⟨rfl, rfl⟩, rfl⟩ := rest
    rw [if_pos embedded] at embedded?
    have call : delayCall site a = ("delay_expression", [(site.resolved delay).code site.options]) := by
      simp only [delayCall, embedded?]
    exact ⟨a, {
      told := told
      asked := by simp [BuiltinType.requests, resolutions, expressions, builderRequest, factoryType, embedded?]
      built := fun handle => by simp [calls, call, doneCode, factoryMethod, factoryType]
      passes := by simpa [delimited, embedded?] using passes
      resolved := by simpa [expressions, embedded?] using resolves
      received := by simp [receivers]
      declared := by simp [items] }⟩
  · next literal =>
    rw [if_neg literal] at embedded?
    have call : delayCall site a = ("delay", [Code.string delay]) := by
      simp only [delayCall, embedded?, trimmed]
    split at rest
    · obtain ⟨rfl, rfl⟩ := pure_eq_ok_iff.1 rest
      exact ⟨a, .of_delimited_eq_nil told
        (by simp [BuiltinType.requests, resolutions, expressions, builderRequest, factoryType, embedded?])
        (fun handle => by simp [calls, call, doneCode, factoryMethod, factoryType]) (by simp [delimited, embedded?])⟩
    · simp only [fail_eq_ok_iff] at rest

/-- The parameters that are expressions are resolved one after the other. -/
theorem draftParameters_eq_ok {entries : List (String × String)}
    (h : draftParameters site node entries = ⟨asked, .ok code⟩) :
    asked = (entries.filter fun p => Expression.isEmbedded p.2).flatMap
        (fun p => site.resolution node ("parameters." ++ p.1) p.2) ∧
      (∀ handle, code handle = Code.calls handle (entries.map (parameterCall site))) ∧
      ∀ p ∈ entries.filter fun p => Expression.isEmbedded p.2, site.Passes p.2 ∧ site.Resolves p.2 := by
  induction entries generalizing asked code with
  | nil =>
    obtain ⟨rfl, rfl⟩ := pure_eq_ok_iff.1 h
    simp
  | cons entry entries ih =>
    obtain ⟨key, value⟩ := entry
    simp only [draftParameters, bind_eq_ok_iff, pure_eq_ok_iff] at h
    obtain ⟨_, first, _, one, ⟨_, others, _, more, ⟨rfl, rfl⟩, rfl⟩, rfl⟩ := h
    obtain ⟨rfl, built, checked⟩ := ih more
    unfold draftParameter at one
    split at one
    · next embedded =>
      simp only [bind_eq_ok_iff, resolve_eq_ok_iff, pure_eq_ok_iff] at one
      obtain ⟨_, e, _, ⟨passes, resolves, rfl, rfl⟩, ⟨rfl, rfl⟩, rfl⟩ := one
      simp only [List.filter_cons, embedded, if_true, List.flatMap_cons, List.append_nil, List.forall_mem_cons,
        true_and]
      exact ⟨fun handle => by simp [parameterCall, embedded, built], ⟨passes, resolves⟩, checked⟩
    · next literal =>
      obtain ⟨rfl, rfl⟩ := pure_eq_ok_iff.1 one
      simp only [List.filter_cons, literal, List.append_nil, List.nil_append]
      exact ⟨rfl, fun handle => by simp [parameterCall, literal, built], checked⟩

theorem Drafted.of_workItem (h : draftWorkItem site node = ⟨asked, .ok code⟩) :
    ∃ a, Drafted .workItem a site node own? asked code := by
  obtain ⟨a, told, h⟩ := of_attributes_bind .workItem h
  simp only [bind_eq_ok_iff, requireText_eq_ok_iff, builder_eq_ok_iff, request_eq_ok_iff, pure_eq_ok_iff] at h
  obtain ⟨_, _, _, ⟨rfl, filled⟩, ⟨_, create, _, ⟨rfl, rfl⟩, ⟨_, parameters, _, more, ⟨_, _, _, rfl, ⟨rfl, rfl⟩, rfl⟩,
    rfl⟩, rfl⟩, rfl⟩ := h
  obtain ⟨rfl, built, checked⟩ := draftParameters_eq_ok more
  exact ⟨a, {
    told := told
    asked := by
      simp [BuiltinType.requests, resolutions, expressions, builderRequest, factoryType, List.flatMap_map,
        WorkItemAttributes.embedded]
    built := fun handle => by simp [calls, built, doneCode, factoryMethod, factoryType]
    passes := by
      intro raw member
      obtain ⟨p, listed, rfl⟩ := List.mem_map.1 member
      exact (checked p listed).1
    resolved := by
      intro x member
      obtain ⟨p, listed, rfl⟩ := List.mem_map.1 member
      exact (checked p listed).2
    received := by simp [receivers]
    declared := by simp [items] }⟩

/-- Constraints are resolved one after the other. -/
theorem draftConstraints_eq_ok {constraints : List Constraint}
    (h : draftConstraints site node constraints = ⟨asked, .ok code⟩) :
    asked = constraints.flatMap (fun c => site.resolution node ("constraints." ++ c.target) c.expr) ∧
      (∀ handle, code handle = Code.calls handle (constraints.map (constraintCall site))) ∧
      ∀ c ∈ constraints, site.Passes c.expr ∧ site.Resolves c.expr := by
  induction constraints generalizing asked code with
  | nil =>
    obtain ⟨rfl, rfl⟩ := pure_eq_ok_iff.1 h
    simp
  | cons c constraints ih =>
    simp only [draftConstraints, draftConstraint, bind_eq_ok_iff, requireText_eq_ok_iff, resolve_eq_ok_iff,
      pure_eq_ok_iff] at h
    obtain ⟨_, first, _, ⟨_, _, _, ⟨rfl, filled⟩, ⟨_, e, _, ⟨passes, resolves, rfl, rfl⟩, ⟨rfl, rfl⟩, rfl⟩, rfl⟩,
      ⟨_, others, _, more, ⟨rfl, rfl⟩, rfl⟩, rfl⟩ := h
    obtain ⟨rfl, built, checked⟩ := ih more
    simp only [List.flatMap_cons, List.append_nil, List.nil_append, List.forall_mem_cons, true_and]
    exact ⟨fun handle => by simp [constraintCall, built], ⟨passes, resolves⟩, checked⟩

theorem Drafted.of_split (h : draftSplit site node = ⟨asked, .ok code⟩) :
    ∃ a, Drafted .split a site node own? asked code := by
  obtain ⟨a, told, h⟩ := of_attributes_bind .split h
  split at h
  · simp only [fail_eq_ok_iff] at h
  simp only [bind_eq_ok_iff, builder_eq_ok_iff] at h
  obtain ⟨_, create, _, ⟨rfl, rfl⟩, ⟨_, constraints, _, more, rest, rfl⟩, rfl⟩ := h
  obtain ⟨rfl, built, checked⟩ := draftConstraints_eq_ok more
  have resolves : ∀ x ∈ BuiltinType.split.expressions a, site.Resolves x.2 := by
    intro x member
    obtain ⟨c, listed, rfl⟩ := List.mem_map.1 member
    exact (checked c listed).2
  have passes : ∀ raw ∈ BuiltinType.split.delimited a, site.Passes raw := by
    intro raw member
    obtain ⟨c, listed, rfl⟩ := List.mem_map.1 member
    exact (checked c listed).1
  split at rest
  · next differs =>
    simp only [needConditionHelper, bind_eq_ok_iff, request_eq_ok_iff, pure_eq_ok_iff] at rest
    obtain ⟨_, _, _, rfl, ⟨rfl, rfl⟩, rfl⟩ := rest
    exact ⟨a, {
      told := told
      asked := by
        simp [BuiltinType.requests, resolutions, expressions, builderRequest, factoryType, List.flatMap_map,
          helperRequest, differs]
      built := fun handle => by simp [calls, built, doneCode, factoryMethod, factoryType]
      passes := passes
      resolved := resolves
      received := by simp [receivers]
      declared := by simp [items] }⟩
  · next same =>
    obtain ⟨rfl, rfl⟩ := pure_eq_ok_iff.1 rest
    exact ⟨a, {
      told := told
      asked := by
        simp [BuiltinType.requests, resolutions, expressions, builderRequest, factoryType, List.flatMap_map,
          Decidable.not_not.1 same]
      built := fun handle => by simp [calls, built, doneCode, factoryMethod, factoryType]
      passes := passes
      resolved := resolves
      received := by simp [receivers]
      declared := by simp [items] }⟩

theorem Drafted.of_forEach (h : draftForEach site node own = ⟨asked, .ok code⟩) :
    ∃ a, Drafted .forEach a site node (some own) asked code := by
  obtain ⟨a, told, h⟩ := of_attributes_bind .forEach h
  simp only [bind_eq_ok_iff, requireText_eq_ok_iff, normalize_eq_ok_iff] at h
  obtain ⟨_, _, _, ⟨rfl, filled⟩, ⟨_, text, _, ⟨passesItem, rfl, rfl⟩, ⟨_, _, _, ⟨rfl, filledItem⟩, rest, rfl⟩, rfl⟩,
    rfl⟩ := h
  split at rest
  · simp only [fail_eq_ok_iff] at rest
  next declared =>
  simp only [bind_eq_ok_iff, resolve_eq_ok_iff, receiver?_eq_ok_iff, builder_eq_ok_iff, pure_eq_ok_iff] at rest
  obtain ⟨_, e, _, ⟨passes, resolves, rfl, rfl⟩, ⟨_, output, _, ⟨received, rfl, rfl⟩, ⟨_, create, _, ⟨rfl, rfl⟩,
    ⟨rfl, rfl⟩, rfl⟩, rfl⟩, rfl⟩ := rest
  exact ⟨a, {
    told := told
    asked := by simp [BuiltinType.requests, resolutions, expressions, builderRequest, factoryType]
    built := fun handle => by
      simp [calls, factoryMethod, factoryType, Code.callOption_receiverName]
      rfl
    passes := by
      intro raw member
      simp only [delimited, List.mem_cons, Option.mem_toList] at member
      rcases member with rfl | rfl | member
      · exact passesItem
      · exact passes
      · exact (received raw member).1
    resolved := by simpa [expressions] using resolves
    received := fun raw member => (received raw (Option.mem_toList.1 member)).2.2
    declared := by
      intro raw member
      obtain rfl := List.mem_singleton.1 member
      exact ⟨own, rfl, by simpa [receiverName, Option.isSome_iff_ne_none] using declared⟩ }⟩

end Types

/-! ## All types -/

/-- The generators of the composite types open their nodes, no others do. -/
@[simp] theorem opens_generator (type : BuiltinType) : type.generator.opens = type.isComposite := by
  cases type <;> rfl

/-- **A generator of a built-in type that succeeds drafts what its type drafts.** -/
theorem drafted_of_eq_ok {type : BuiltinType} {site : Site} {node : Node} {asked : List Request}
    {code : String → Code} (h : type.generator.draft site node = ⟨asked, .ok code⟩) :
    ∃ a, Drafted type a site node.header node.scope? asked code := by
  cases type with
  | start => exact Drafted.of_start h
  | finish => exact Drafted.of_finish h
  | task => exact Drafted.of_task h
  | workItem => exact Drafted.of_workItem h
  | split => exact Drafted.of_split h
  | join => exact Drafted.of_join h
  | timer => exact Drafted.of_timer h
  | milestone => exact Drafted.of_milestone h
  | subProcess =>
    obtain ⟨header, own, children, connections, rfl⟩ := Generator.composite_of_draft_eq_ok rfl h
    exact Drafted.of_subProcess h
  | forEach =>
    obtain ⟨header, own, children, connections, rfl⟩ := Generator.composite_of_draft_eq_ok rfl h
    exact Drafted.of_forEach h
  | eventSubProcess =>
    obtain ⟨header, own, children, connections, rfl⟩ := Generator.composite_of_draft_eq_ok rfl h
    exact Drafted.of_eventSubProcess h

end BuiltinType

end ProcessCompiler
