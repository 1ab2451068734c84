import ProcessCompiler.Proofs.Instructions

/-!
# Diagnostics

A compilation reports nodes that it leaves out and expressions that it cuts. Reports are kept in the order in which they
are requested, and each names a node of the graph.

* `BuiltinType.filterMap_diagnostic?_requests`: a node reports the cuts among its delimited attributes, in their order.
* `Walk.diagnostics`: what a walk reports.
-/

namespace ProcessCompiler

/-! ## Cuts -/

/-- Whether a diagnostic reports an expression that was cut. -/
def Diagnostic.isCut (d : Diagnostic) : Bool :=
  match d.kind with
  | .unclosedExpression _ => true
  | .unsupportedType => false

/-- The report that an expression of a node was cut. -/
def NodeHeader.cut (node : NodeHeader) (raw : String) : Diagnostic :=
  ⟨node.uniqueId, node.type, .unclosedExpression raw⟩

/-- The diagnostic that a request is for. -/
def Request.diagnostic? : Request → Option Diagnostic
  | .diagnostic d => some d
  | _ => none

/-- The reports of cuts among requests, in order. -/
def cutsOf (requests : List Request) : List Diagnostic :=
  (requests.filterMap Request.diagnostic?).filter Diagnostic.isCut

/-- The reports of cuts so far. -/
def Metadata.cuts (m : Metadata) : List Diagnostic := m.diagnostics.filter Diagnostic.isCut

theorem cutsOf_append (requests more : List Request) : cutsOf (requests ++ more) = cutsOf requests ++ cutsOf more := by
  rw [cutsOf, List.filterMap_append, List.filter_append]
  rfl

theorem Metadata.diagnostics_grant (m : Metadata) (r : Request) :
    (m.grant r).diagnostics = m.diagnostics ++ r.diagnostic?.toList := by
  cases r with
  | diagnostic d => rfl
  | helper name code =>
    rw [grant, addHelper_eq]
    exact (List.append_nil _).symm
  | _ => exact (List.append_nil _).symm

/-- Diagnostics are kept in the order in which they are requested. -/
theorem Metadata.diagnostics_grantAll (m : Metadata) (requests : List Request) :
    (m.grantAll requests).diagnostics = m.diagnostics ++ requests.filterMap Request.diagnostic? := by
  induction requests generalizing m with
  | nil => exact (List.append_nil _).symm
  | cons r requests ih =>
    rw [grantAll_cons, ih, diagnostics_grant, List.append_assoc]
    cases r <;> rfl

theorem Metadata.cuts_grantAll (m : Metadata) (requests : List Request) :
    (m.grantAll requests).cuts = m.cuts ++ cutsOf requests := by
  rw [cuts, diagnostics_grantAll, List.filter_append]
  rfl

/-! ## What a node reports -/

/-- The reports of a node for an attribute that is stripped of delimiters. -/
def Site.reports (site : Site) (node : NodeHeader) (raw : String) : List Diagnostic :=
  if Expression.isUnclosed raw && site.options.diagnostics then [node.cut raw] else []

theorem Site.filterMap_diagnostic?_cuts (site : Site) (node : NodeHeader) (raw : String) :
    (site.cuts node raw).filterMap Request.diagnostic? = site.reports node raw := by
  unfold cuts reports
  split <;> rfl

theorem Site.filterMap_diagnostic?_resolution (site : Site) (node : NodeHeader) (key raw : String) :
    (site.resolution node key raw).filterMap Request.diagnostic? = site.reports node raw := by
  rw [resolution, List.filterMap_append, filterMap_diagnostic?_cuts]
  exact List.append_nil _

namespace BuiltinType

/-- **A node reports the cuts among its delimited attributes, in their order.** -/
theorem filterMap_diagnostic?_requests (type : BuiltinType) (a : type.Attributes) (site : Site) (node : NodeHeader) :
    (type.requests a site node).filterMap Request.diagnostic? = (type.delimited a).flatMap (site.reports node) := by
  have cuts : ∀ raws : List String, (raws.flatMap (site.cuts node)).filterMap Request.diagnostic? =
      raws.flatMap (site.reports node) := by
    intro raws
    rw [List.filterMap_flatMap]
    simp only [Site.filterMap_diagnostic?_cuts]
  have resolved : (type.resolutions a site node).filterMap Request.diagnostic? =
      (type.expressions a).flatMap fun x => site.reports node x.2 := by
    rw [resolutions, List.filterMap_flatMap]
    simp only [Site.filterMap_diagnostic?_resolution]
  cases type <;> simp only [requests, List.filterMap_cons, List.filterMap_append, resolved, cuts, builderRequest,
    helperRequest, Request.diagnostic?, Site.filterMap_diagnostic?_cuts, expressions, delimited, List.flatMap_cons,
    List.flatMap_nil, List.filterMap_nil, List.append_nil, List.flatMap_map, List.append_assoc]
  case start => obtain ⟨_ | signal⟩ := a <;> rfl
  case split => split <;> exact List.append_nil _

end BuiltinType

/-! ## What a walk reports -/

/-- A diagnostic is about one of the nodes, or about a node in one: its type is unknown, or one of its delimited
attributes does not close. -/
def Reported (plan : Plan) (nodes : List Node) (d : Diagnostic) : Prop :=
  ∃ node ∈ Node.flattenAll nodes, d.nodeId = node.header.uniqueId ∧ d.nodeType = node.header.type ∧
    match d.kind with
    | .unsupportedType => plan.registry.find? node.header.type = none
    | .unclosedExpression raw => Expression.isUnclosed raw = true ∧
        ∃ (type : BuiltinType) (a : type.Attributes), plan.registry.find? node.header.type = some type.generator ∧
          type.readAttributes node.header.attributes = .ok a ∧ raw ∈ type.delimited a

namespace Reported

variable {plan : Plan} {node : Node} {nodes more : List Node} {d : Diagnostic}

theorem mono (h : Reported plan nodes d) (within : Node.flattenAll nodes ⊆ Node.flattenAll more) :
    Reported plan more d := by
  obtain ⟨node, member, about⟩ := h
  exact ⟨node, within member, about⟩

theorem of_skip (unknown : plan.registry.find? node.header.type = none)
    (member : d ∈ (plan.skipRequests node.header).filterMap Request.diagnostic?) : Reported plan (node :: nodes) d := by
  unfold Plan.skipRequests at member
  split at member
  · obtain rfl := List.mem_singleton.1 member
    exact ⟨node, Node.mem_flattenAll_self _ _, rfl, rfl, unknown⟩
  · cases member

theorem of_drafted {type : BuiltinType} {a : type.Attributes} {site : Site} {own? : Option ScopeId}
    {requests : List Request} {code : String → Code}
    (known : plan.registry.find? node.header.type = some type.generator)
    (said : type.Drafted a site node.header own? requests code)
    (member : d ∈ requests.filterMap Request.diagnostic?) : Reported plan (node :: nodes) d := by
  rw [said.asked, BuiltinType.filterMap_diagnostic?_requests] at member
  obtain ⟨raw, delimited, member⟩ := List.mem_flatMap.1 member
  unfold Site.reports at member
  split at member
  · next cut =>
    obtain rfl := List.mem_singleton.1 member
    rw [Bool.and_eq_true] at cut
    exact ⟨node, Node.mem_flattenAll_self _ _, rfl, rfl, cut.1, type, a, known, said.told, delimited⟩
  · cases member

end Reported

/-- **A walk adds reports on its nodes.** -/
theorem Walk.diagnostics {plan : Plan} (uses : plan.registry.UsesBuiltins) {handle : String} {scope : ScopeId}
    {nodes : List Node} {m m' : Metadata} {out : List Instruction} (walk : Walk plan handle scope nodes m out m') :
    ∃ more, m'.diagnostics = m.diagnostics ++ more ∧ ∀ d ∈ more, Reported plan nodes d := by
  induction walk with
  | done => exact ⟨[], (List.append_nil _).symm, fun d member => by cases member⟩
  | @skip _ _ node nodes _ _ _ unknown rest ih =>
    obtain ⟨more, added, about⟩ := ih
    refine ⟨_, by rw [added, Metadata.diagnostics_grantAll, List.append_assoc], fun d member => ?_⟩
    rcases List.mem_append.1 member with first | later
    · exact .of_skip unknown first
    · exact (about d later).mono (Node.flattenAll_subset node nodes)
  | @leaf _ _ node nodes _ _ _ _ _ _ known closed drafted rest ih =>
    obtain ⟨type, a, rfl, said⟩ := uses.drafted known drafted
    obtain ⟨more, added, about⟩ := ih
    refine ⟨_, by rw [added, Metadata.diagnostics_grantAll, List.append_assoc], fun d member => ?_⟩
    rcases List.mem_append.1 member with first | later
    · exact .of_drafted known said first
    · exact (about d later).mono (Node.flattenAll_subset node nodes)
  | @composite _ _ _ own header children nodes connections _ _ _ _ _ _ _ _ known _ _ drafted _ _ _ ihWithin ihRest =>
    obtain ⟨type, a, rfl, said⟩ := uses.drafted known drafted
    obtain ⟨inner, addedWithin, aboutWithin⟩ := ihWithin
    obtain ⟨more, added, about⟩ := ihRest
    refine ⟨_, by rw [added, addedWithin, Metadata.diagnostics_grantAll, List.append_assoc, List.append_assoc],
      fun d member => ?_⟩
    rcases List.mem_append.1 member with first | member
    · exact .of_drafted (by exact known) said first
    rcases List.mem_append.1 member with inside | later
    · exact (aboutWithin d inside).mono (Node.flattenAll_children_subset header own children nodes connections)
    · exact (about d later).mono (Node.flattenAll_subset _ nodes)

theorem Walk.cuts {plan : Plan} (uses : plan.registry.UsesBuiltins) {handle : String} {scope : ScopeId}
    {nodes : List Node} {m m' : Metadata} {out : List Instruction} (walk : Walk plan handle scope nodes m out m') :
    ∃ more, m'.cuts = m.cuts ++ more := by
  obtain ⟨more, added, _⟩ := walk.diagnostics uses
  exact ⟨more.filter Diagnostic.isCut, by rw [Metadata.cuts, added, List.filter_append]; rfl⟩

theorem Plan.cutsOf_skipRequests (plan : Plan) (node : NodeHeader) : cutsOf (plan.skipRequests node) = [] := by
  unfold skipRequests
  split <;> rfl

end ProcessCompiler
