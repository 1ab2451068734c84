import ProcessCompiler.Proofs.Comparison
import ProcessCompiler.Proofs.Diagnostics

/-!
# Strict compilation

With strict expressions an expression that does not close is refused where it would else be cut and reported. Both ways
of compiling do the same up to the first such expression.

* `Gated`: how the strict draft of a node stands to the lenient one.
* `generate_strict`: what is generated strictly is what is generated leniently without a cut, and else the first cut is
  refused.
-/

namespace ProcessCompiler

/-! ## Strict and lenient drafts -/

namespace Options

/-- The options to report and to refuse expressions that do not close. -/
def strict (runtime : String) : Options := ⟨true, true, runtime⟩

/-- The options to report and to cut expressions that do not close. -/
def lenient (runtime : String) : Options := ⟨true, false, runtime⟩

end Options

/-- **A strict draft and the lenient one of a node**: the same without a cut, or a refusal of what the lenient one cuts
first. -/
def Gated {α : Type} (node : NodeHeader) (strict lenient : Draft α) : Prop :=
  strict = lenient ∧ cutsOf lenient.requests = [] ∨
    ∃ before raw after, lenient.requests = before ++ .diagnostic (node.cut raw) :: after ∧ cutsOf before = [] ∧
      strict = ⟨before, .error (.unclosedExpression raw)⟩

/-- A strict draft and the lenient one as in `Gated`, but with results that are the `same` where nothing is cut. -/
def GatedBy {α β : Type} (node : NodeHeader) (same : α → β → Prop) (strict : Draft α) (lenient : Draft β) : Prop :=
  Draft.Alike same strict lenient ∧ cutsOf lenient.requests = [] ∨
    ∃ before raw after, lenient.requests = before ++ .diagnostic (node.cut raw) :: after ∧ cutsOf before = [] ∧
      strict = ⟨before, .error (.unclosedExpression raw)⟩

namespace GatedBy

variable {α β γ δ : Type} {same : α → β → Prop} {same' : γ → δ → Prop} {node : NodeHeader}

/-- Drafts without a cut. -/
theorem clean {strict : Draft α} {lenient : Draft β} (alike : Draft.Alike same strict lenient)
    (h : cutsOf lenient.requests = []) : GatedBy node same strict lenient := .inl ⟨alike, h⟩

/-- In a sequence of drafts the first cut counts. -/
theorem bind {strict : Draft α} {lenient : Draft β} {next : α → Draft γ} {next' : β → Draft δ}
    (h : GatedBy node same strict lenient) (h' : ∀ a b, same a b → GatedBy node same' (next a) (next' b)) :
    GatedBy node same' (strict >>= next) (lenient >>= next') := by
  rcases h with ⟨alike, clean⟩ | ⟨before, raw, after, cut, clean, rfl⟩
  · cases alike with
    | refused => exact .inl ⟨.refused, clean⟩
    | @done requests a b results =>
      rcases h' a b results with ⟨alikeNext, cleanNext⟩ | ⟨before, raw, after, cut, cleanBefore, refused⟩
      · have first : Draft.Alike (fun x y => x = a ∧ y = b) ⟨requests, .ok a⟩ ⟨requests, .ok b⟩ := .done ⟨rfl, rfl⟩
        refine .inl ⟨first.bind ?_, ?_⟩
        · rintro _ _ ⟨rfl, rfl⟩
          exact alikeNext
        · simp only [Bind.bind, Draft.bind, cutsOf_append, cleanNext, List.append_nil]
          exact clean
      · refine .inr ⟨requests ++ before, raw, after, ?_, ?_, ?_⟩
        · simp only [Bind.bind, Draft.bind, cut, List.append_assoc]
        · rw [cutsOf_append, cleanBefore, List.append_nil]
          exact clean
        · simp only [Bind.bind, Draft.bind, refused]
  · obtain ⟨requests, result⟩ := lenient
    have cut : requests = before ++ .diagnostic (node.cut raw) :: after := cut
    subst cut
    cases result with
    | error problem => exact .inr ⟨before, raw, after, rfl, clean, rfl⟩
    | ok b =>
      refine .inr ⟨before, raw, after ++ (next' b).requests, ?_, clean, rfl⟩
      simp only [Bind.bind, Draft.bind, List.append_assoc, List.cons_append]

/-- **All delimiters pass one gate**: what is cut leniently is refused strictly. -/
theorem normalize (runtime : String) (scopes : Arena) (handle : String) (scope : ScopeId) (raw : String) :
    GatedBy node (fun text text' => text = Expression.strip raw ∧ text' = Expression.strip raw)
      (Draft.normalize ⟨.strict runtime, scopes, handle, scope⟩ node raw)
      (Draft.normalize ⟨.lenient runtime, scopes, handle, scope⟩ node raw) := by
  unfold Draft.normalize
  cases Expression.isUnclosed raw with
  | false => exact clean (.done ⟨rfl, rfl⟩) rfl
  | true => exact .inr ⟨[], raw, [], rfl, rfl, rfl⟩

/-- The drafts of a node are compared by their first cuts, and by what they come to without one. -/
def comparison (runtime : String) (scopes : Arena) (handle : String) (scope : ScopeId) (node : NodeHeader) :
    Comparison ⟨.strict runtime, scopes, handle, scope⟩ ⟨.lenient runtime, scopes, handle, scope⟩ node where
  holds := GatedBy node
  done results := clean (.done results) rfl
  refused _ _ := clean .refused rfl
  bind first next := first.bind next
  request r fixed := by
    refine clean (.refl _) ?_
    cases fixed <;> rfl
  normalize := normalize runtime scopes handle scope
  requireVariable expression name := by
    unfold Draft.requireVariable
    cases found : scopes.reference? scope name with
    | none => exact clean .refused rfl
    | some r => exact clean (.done rfl) rfl
  builder _ := clean (.refl _) rfl
  helper := clean (.refl _) rfl

end GatedBy

/-- **The drafts of every built-in type pass the gate.** -/
theorem BuiltinType.gated_draft (type : BuiltinType) (runtime : String) (scopes : Arena) (handle : String)
    (scope : ScopeId) (node : Node) :
    Gated node.header (type.generator.draft ⟨.strict runtime, scopes, handle, scope⟩ node)
      (type.generator.draft ⟨.lenient runtime, scopes, handle, scope⟩ node) := by
  have gated := (GatedBy.comparison runtime scopes handle scope node.header).generator type fun _ _ _ _ _ _ => rfl
  rcases gated with ⟨alike, clean⟩ | cut
  · exact .inl ⟨(alike.mono fun _ _ same => same rfl rfl).eq, clean⟩
  · exact .inr cut

/-! ## Strict and lenient walks -/

section Walks

variable {registry : Registry} {runtime handle : String} {scopes : Arena} {scope : ScopeId} {node : Node}
  {nodes : List Node} {generator : Generator} {requests : List Request} {code : String → Code} {m m' : Metadata}
  {out : List Instruction}

/-- A node that is drafted strictly is drafted leniently, without a cut. -/
theorem lenient_of_strict_draft (uses : registry.UsesBuiltins)
    (known : registry.find? node.header.type = some generator)
    (drafted : generator.draft ⟨.strict runtime, scopes, handle, scope⟩ node = ⟨requests, .ok code⟩) :
    generator.draft ⟨.lenient runtime, scopes, handle, scope⟩ node = ⟨requests, .ok code⟩ ∧ cutsOf requests = [] := by
  obtain ⟨type, rfl⟩ := uses _ _ known
  have gated := type.gated_draft runtime scopes handle scope node
  rcases gated with ⟨same, clean⟩ | ⟨before, raw, after, _, _, refused⟩
  · rw [← same, drafted] at clean
    exact ⟨same.symm.trans drafted, clean⟩
  · rw [refused] at drafted
    cases drafted

/-- A node that is drafted leniently is drafted strictly up to the first cut. -/
theorem strict_of_lenient_draft (uses : registry.UsesBuiltins)
    (known : registry.find? node.header.type = some generator)
    (drafted : generator.draft ⟨.lenient runtime, scopes, handle, scope⟩ node = ⟨requests, .ok code⟩) :
    generator.draft ⟨.strict runtime, scopes, handle, scope⟩ node = ⟨requests, .ok code⟩ ∧ cutsOf requests = [] ∨
      ∃ raw more before, cutsOf requests = node.header.cut raw :: more ∧
        generator.draft ⟨.strict runtime, scopes, handle, scope⟩ node = ⟨before, .error (.unclosedExpression raw)⟩ := by
  obtain ⟨type, rfl⟩ := uses _ _ known
  have gated := type.gated_draft runtime scopes handle scope node
  rcases gated with ⟨same, clean⟩ | ⟨before, raw, after, cut, clean, refused⟩
  · rw [drafted] at clean
    exact .inl ⟨same.trans drafted, clean⟩
  · rw [drafted] at cut
    refine .inr ⟨raw, cutsOf after, before, ?_, refused⟩
    rw [show requests = _ from cut, cutsOf_append, clean]
    rfl

/-- **A strict walk is a lenient one without a cut.** -/
theorem Walk.lenient_of_strict (uses : registry.UsesBuiltins)
    (walk : Walk ⟨registry, .strict runtime, scopes⟩ handle scope nodes m out m') :
    Walk ⟨registry, .lenient runtime, scopes⟩ handle scope nodes m out m' ∧ m'.cuts = m.cuts := by
  induction walk with
  | done => exact ⟨.done, rfl⟩
  | skip unknown rest ih =>
    refine ⟨.skip unknown ih.1, ?_⟩
    rw [ih.2, Metadata.cuts_grantAll, Plan.cutsOf_skipRequests, List.append_nil]
  | leaf known closed drafted rest ih =>
    obtain ⟨same, clean⟩ := lenient_of_strict_draft uses known drafted
    refine ⟨.leaf known closed same ih.1, ?_⟩
    rw [ih.2, Metadata.cuts_grantAll, clean, List.append_nil]
  | composite known opens nested drafted named within rest ihWithin ihRest =>
    obtain ⟨same, clean⟩ := lenient_of_strict_draft uses (by exact known) drafted
    refine ⟨.composite known opens nested same named ihWithin.1 ihRest.1, ?_⟩
    rw [ihRest.2, ihWithin.2, Metadata.cuts_grantAll, clean, List.append_nil]

end Walks

/-- The steps that generate nodes end with the refusal of an expression that is reported as cut. -/
def StopsAt (plan : Plan) (handle : String) (scope : ScopeId) (nodes : List Node) (m : Metadata) (d : Diagnostic) :
    Prop :=
  ∃ raw, d.kind = .unclosedExpression raw ∧ ∀ s : Session, s.metadata = m →
    ∃ t, (emitNodes plan handle scope nodes).run s =
      .error (.rejected ⟨d.nodeId, d.nodeType, .unclosedExpression raw⟩) t

namespace StopsAt

variable {plan : Plan} {handle : String} {scope : ScopeId} {node : Node} {nodes : List Node} {generator : Generator}
  {requests : List Request} {code : String → Code} {m : Metadata} {d : Diagnostic}

theorem here {raw : String} (known : plan.registry.find? node.header.type = some generator)
    (nested : generator.opens = true → ∀ own, node.scope? = some own → plan.scopes.parent? own = some scope)
    (drafted : generator.draft (plan.site handle scope) node = ⟨requests, .error (.unclosedExpression raw)⟩) :
    StopsAt plan handle scope (node :: nodes) m (node.header.cut raw) := by
  refine ⟨raw, rfl, fun s _ => ?_⟩
  rw [emitNodes, EStateM.run_bind, run_emitNode_refused known nested drafted]
  exact ⟨_, rfl⟩

theorem skip (unknown : plan.registry.find? node.header.type = none)
    (h : StopsAt plan handle scope nodes (m.grantAll (plan.skipRequests node.header)) d) :
    StopsAt plan handle scope (node :: nodes) m d := by
  obtain ⟨raw, cut, stops⟩ := h
  refine ⟨raw, cut, ?_⟩
  rintro s rfl
  rw [emitNodes, EStateM.run_bind, run_emitNode_unknown unknown]
  exact stops _ rfl

theorem leaf (known : plan.registry.find? node.header.type = some generator) (closed : generator.opens = false)
    (drafted : generator.draft (plan.site handle scope) node = ⟨requests, .ok code⟩)
    (h : StopsAt plan handle scope nodes (m.grantAll requests) d) : StopsAt plan handle scope (node :: nodes) m d := by
  obtain ⟨raw, cut, stops⟩ := h
  refine ⟨raw, cut, ?_⟩
  rintro s rfl
  rw [emitNodes, EStateM.run_bind, run_emitNode_leaf known closed drafted]
  exact stops _ rfl

section Composite

variable {header : NodeHeader} {own : ScopeId} {children : List Node} {connections : List Connection}

theorem inside (known : plan.registry.find? header.type = some generator) (opens : generator.opens = true)
    (nested : plan.scopes.parent? own = some scope)
    (drafted : generator.draft (plan.site handle scope) (.composite header own children connections) =
      ⟨requests, .ok code⟩)
    (h : StopsAt plan (m.freshHandle header.handleBase) own children (m.grantAll requests) d) :
    StopsAt plan handle scope (.composite header own children connections :: nodes) m d := by
  obtain ⟨raw, cut, stops⟩ := h
  refine ⟨raw, cut, ?_⟩
  rintro s rfl
  obtain ⟨t, stopped⟩ := stops (s.after
    (.creation handle header (code (s.metadata.freshHandle header.handleBase)) ::
      declareVariables plan.options (s.metadata.freshHandle header.handleBase) (plan.declarations own))
    (s.metadata.grantAll requests)) rfl
  rw [emitNodes, EStateM.run_bind, run_emitNode_composite known opens nested drafted rfl, stopped]
  exact ⟨t, rfl⟩

theorem beside {middle : Metadata} {out : List Instruction}
    (known : plan.registry.find? header.type = some generator) (opens : generator.opens = true)
    (nested : plan.scopes.parent? own = some scope)
    (drafted : generator.draft (plan.site handle scope) (.composite header own children connections) =
      ⟨requests, .ok code⟩)
    (within : Walk plan (m.freshHandle header.handleBase) own children (m.grantAll requests) out middle)
    (h : StopsAt plan handle scope nodes middle d) :
    StopsAt plan handle scope (.composite header own children connections :: nodes) m d := by
  obtain ⟨raw, cut, stops⟩ := h
  refine ⟨raw, cut, ?_⟩
  rintro s rfl
  rw [emitNodes, EStateM.run_bind, run_emitNode_composite known opens nested drafted rfl, within.run _ rfl]
  exact stops _ rfl

end Composite

end StopsAt

/-- **A lenient walk is a strict one, or has a first cut at which the strict steps stop.** -/
theorem Walk.strict_of_lenient {registry : Registry} {runtime handle : String} {scopes : Arena} {scope : ScopeId}
    {nodes : List Node} {m m' : Metadata} {out : List Instruction} (uses : registry.UsesBuiltins)
    (walk : Walk ⟨registry, .lenient runtime, scopes⟩ handle scope nodes m out m') :
    Walk ⟨registry, .strict runtime, scopes⟩ handle scope nodes m out m' ∧ m'.cuts = m.cuts ∨
      ∃ d more, m'.cuts = m.cuts ++ d :: more ∧
        StopsAt ⟨registry, .strict runtime, scopes⟩ handle scope nodes m d := by
  induction walk with
  | done => exact .inl ⟨.done, rfl⟩
  | skip unknown rest ih =>
    rw [Metadata.cuts_grantAll, Plan.cutsOf_skipRequests, List.append_nil] at ih
    rcases ih with ⟨strict, clean⟩ | ⟨d, more, added, stops⟩
    · exact .inl ⟨.skip unknown strict, clean⟩
    · exact .inr ⟨d, more, added, .skip unknown stops⟩
  | leaf known closed drafted rest ih =>
    rw [Metadata.cuts_grantAll] at ih
    rcases strict_of_lenient_draft uses known drafted with ⟨same, clean⟩ | ⟨raw, more, before, cut, refused⟩
    · rw [clean, List.append_nil] at ih
      rcases ih with ⟨strict, clean⟩ | ⟨d, more, added, stops⟩
      · exact .inl ⟨.leaf known closed same strict, clean⟩
      · exact .inr ⟨d, more, added, .leaf known closed same stops⟩
    · obtain ⟨later, added⟩ := rest.cuts uses
      refine .inr ⟨_, more ++ later, ?_, .here known (fun opens => ?_) refused⟩
      · rw [added, Metadata.cuts_grantAll, cut, List.append_assoc, List.cons_append]
      · rw [closed] at opens
        cases opens
  | composite known opens nested drafted named within rest ihWithin ihRest =>
    subst named
    rw [Metadata.cuts_grantAll] at ihWithin
    rcases strict_of_lenient_draft uses (by exact known) drafted with ⟨same, clean⟩ | ⟨raw, more, before, cut, refused⟩
    · rw [clean, List.append_nil] at ihWithin
      rcases ihWithin with ⟨strictWithin, cleanWithin⟩ | ⟨d, more, added, stops⟩
      · rw [cleanWithin] at ihRest
        rcases ihRest with ⟨strict, clean⟩ | ⟨d, more, added, stops⟩
        · exact .inl ⟨.composite known opens nested same rfl strictWithin strict, clean⟩
        · exact .inr ⟨d, more, added, .beside known opens nested same strictWithin stops⟩
      · obtain ⟨later, addedLater⟩ := rest.cuts uses
        refine .inr ⟨d, more ++ later, ?_, .inside known opens nested same stops⟩
        rw [addedLater, added, List.append_assoc, List.cons_append]
    · obtain ⟨inside, addedWithin⟩ := within.cuts uses
      obtain ⟨later, added⟩ := rest.cuts uses
      refine .inr ⟨_, more ++ (inside ++ later), ?_, .here (by exact known) (fun _ => ?_) refused⟩
      · rw [added, addedWithin, Metadata.cuts_grantAll, cut]
        simp only [List.append_assoc, List.cons_append]
      · rintro _ ⟨⟩
        exact nested

/-! ## Whole graphs -/

/-- **Strictly, what is generated leniently without a cut is generated, and else the first cut is refused.** What is
refused is the text of an attribute of the node that the refusal names, as it is before delimiters are stripped. -/
theorem generate_strict (graph : ProcessGraph) (runtime : String) :
    (∀ session, generate graph .builtin (.strict runtime) = .ok session ↔
      generate graph .builtin (.lenient runtime) = .ok session ∧
        session.metadata.diagnostics.find? Diagnostic.isCut = none) ∧
    ∀ session d, generate graph .builtin (.lenient runtime) = .ok session →
      session.metadata.diagnostics.find? Diagnostic.isCut = some d →
        ∃ raw, d.kind = .unclosedExpression raw ∧
          generate graph .builtin (.strict runtime) =
            .error (.rejected ⟨d.nodeId, d.nodeType, .unclosedExpression raw⟩) ∧
          ∃ node ∈ Node.flattenAll graph.nodes, d.nodeId = node.header.uniqueId ∧ d.nodeType = node.header.type ∧
            ∃ (type : BuiltinType) (a : type.Attributes),
              Registry.builtin.find? node.header.type = some type.generator ∧
                type.readAttributes node.header.attributes = .ok a ∧ raw ∈ type.delimited a := by
  have uses := Registry.usesBuiltins_builtin
  have first : ∀ m : Metadata, m.diagnostics.find? Diagnostic.isCut = m.cuts.head? := fun m => List.head?_filter.symm
  refine ⟨fun session => ⟨fun generated => ?_, ?_⟩, fun session d generated found => ?_⟩
  · obtain ⟨out, walk, body⟩ := generate_eq_ok_iff.1 generated
    obtain ⟨lenient, clean⟩ := walk.lenient_of_strict uses
    refine ⟨generate_eq_ok_iff.2 ⟨out, lenient, body⟩, ?_⟩
    rw [first, clean]
    rfl
  · rintro ⟨generated, clean⟩
    obtain ⟨out, walk, body⟩ := generate_eq_ok_iff.1 generated
    rcases walk.strict_of_lenient uses with ⟨strict, _⟩ | ⟨d, more, added, _⟩
    · exact generate_eq_ok_iff.2 ⟨out, strict, body⟩
    · rw [first, added] at clean
      cases clean
  · obtain ⟨out, walk, body⟩ := generate_eq_ok_iff.1 generated
    rcases walk.strict_of_lenient uses with ⟨_, clean⟩ | ⟨d', more, added, raw, cut, stops⟩
    · rw [first, clean] at found
      cases found
    obtain rfl : d' = d := by
      rw [first, added] at found
      exact Option.some.inj found
    refine ⟨raw, cut, generate_eq_error stops, ?_⟩
    obtain ⟨reports, same, about⟩ := walk.diagnostics uses
    have member : d' ∈ reports := by
      rw [same] at found
      exact List.mem_of_find?_eq_some found
    obtain ⟨node, inside, named, typed, unclosed⟩ := about d' member
    rw [cut] at unclosed
    obtain ⟨_, type, a, known, told, delimited⟩ := unclosed
    exact ⟨node, inside, named, typed, type, a, known, told, delimited⟩

/-- A process with a task whose receiver does not close, and a timer whose delay does not. -/
def unclosedDefinition : ProcessDefinition where
  id := "orders"
  name := none
  version := none
  declarations := .ofList [("total", ⟨.number, none, none⟩)]
  nodes := [
    ⟨"sum", "task", none, .ofList [("expr", .string "#\x7btotal\x7d"), ("output", .string "#\x7btotal ")], none, none,
      []⟩,
    ⟨"wait", "timer", none, .ofList [("delay", .string " #\x7btotal) ")], none, none, []⟩]
  connections := []

theorem generate_strict_unclosed : ∃ graph session d,
    ProcessGraph.ofDefinition unclosedDefinition = .ok graph ∧
      generate graph .builtin (.lenient "rt") = .ok session ∧
      session.metadata.diagnostics.find? Diagnostic.isCut = some d ∧
      d = ⟨"sum", "task", .unclosedExpression "#\x7btotal "⟩ ∧
      ∃ raw, d.kind = .unclosedExpression raw ∧
        generate graph .builtin (.strict "rt") =
          .error (.rejected ⟨d.nodeId, d.nodeType, .unclosedExpression raw⟩) := by
  have reported : (unclosedDefinition.session? .builtin (.lenient "rt")).map (·.metadata.diagnostics) =
      some [⟨"sum", "task", .unclosedExpression "#\x7btotal "⟩,
        ⟨"wait", "timer", .unclosedExpression "#\x7btotal)"⟩] := by
    decide +kernel
  obtain ⟨session, found, diagnostics⟩ := Option.map_eq_some_iff.1 reported
  obtain ⟨graph, accepted, generated⟩ := ProcessDefinition.session?_eq_some_iff.1 found
  have first : session.metadata.diagnostics.find? Diagnostic.isCut =
      some ⟨"sum", "task", .unclosedExpression "#\x7btotal "⟩ := by
    rw [diagnostics]
    rfl
  obtain ⟨raw, cut, refused, _⟩ := (generate_strict graph "rt").2 session _ generated first
  exact ⟨graph, session, _, accepted, generated, first, rfl, raw, cut, refused⟩

end ProcessCompiler
