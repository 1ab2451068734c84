import ProcessCompiler.Proofs.Generator

/-!
# Drafts at two sites

A generator is compared with itself, at two sites of one node. A comparison is a relation between drafts that is kept
when drafts are put in sequence and by the few steps that look at their site; then it holds between what a built-in type
drafts at the one site and at the other.

* `Comparison`: what a relation between drafts must keep.
* `Comparison.generator`: it holds between the drafts of every built-in type.
* `Draft.Alike`: drafts that request the same, and come to results or to one problem together.
* `Site.SeesLike.generator`: sites that see the same draft alike.
-/

namespace ProcessCompiler

/-! ## Comparisons -/

/-- A request for a node that is the same wherever the node is compiled. -/
inductive Request.Fixed (node : NodeHeader) : Request → Prop
  | workItem (name : String) : Fixed node (.workItem name)
  | signal (name : String) : Fixed node (.signal name)
  | expression (key : String) (e : ResolvedExpression) : Fixed node (.expression node.uniqueId key e)

theorem Request.Fixed.ne_diagnostic {node : NodeHeader} {r : Request} (fixed : r.Fixed node) (d : Diagnostic) :
    r ≠ .diagnostic d := by
  rintro rfl
  cases fixed

/-- **A relation between drafts of a node at two sites.** `holds same d d'` says that the drafts go together, and that
their results, if they have any, are the `same`. Where a node's scope lies is not for its draft to judge. -/
structure Comparison (site site' : Site) (node : NodeHeader) where
  holds : {α β : Type} → (α → β → Prop) → Draft α → Draft β → Prop
  done : ∀ {α β : Type} {same : α → β → Prop} {a : α} {b : β}, same a b → holds same (pure a) (pure b)
  refused : ∀ {α β : Type} {same : α → β → Prop} (problem : Problem), problem ≠ .scopeNotNested →
    holds same (Draft.fail problem) (Draft.fail problem)
  bind : ∀ {α β γ δ : Type} {same : α → β → Prop} {same' : γ → δ → Prop} {d : Draft α} {d' : Draft β}
    {next : α → Draft γ} {next' : β → Draft δ}, holds same d d' →
      (∀ a b, same a b → holds same' (next a) (next' b)) → holds same' (d >>= next) (d' >>= next')
  request : ∀ r : Request, r.Fixed node → holds Eq (Draft.request r) (Draft.request r)
  normalize : ∀ raw, holds (fun text text' => text = Expression.strip raw ∧ text' = Expression.strip raw)
    (Draft.normalize site node raw) (Draft.normalize site' node raw)
  requireVariable : ∀ expression name,
    holds Eq (Draft.requireVariable site expression name) (Draft.requireVariable site' expression name)
  builder : ∀ type : BuiltinType,
    holds Eq (Draft.request (type.builderRequest site node)) (Draft.request (type.builderRequest site' node))
  helper : holds Eq (Draft.needConditionHelper site) (Draft.needConditionHelper site')

/-- Code that is the same as soon as both sites are about one handle and one library. -/
def SameCode (site site' : Site) (code code' : String → Code) : Prop :=
  site.handle = site'.handle → site.options.runtimeName = site'.options.runtimeName → code = code'

theorem Options.runtimeMember_congr {options options' : Options} (runtime : options.runtimeName = options'.runtimeName)
    (names : List String) : options.runtimeMember names = options'.runtimeMember names := by
  rw [runtimeMember, runtimeMember, runtime]

theorem ResolvedExpression.code_congr {options options' : Options} (e : ResolvedExpression)
    (runtime : options.runtimeName = options'.runtimeName) : e.code options = e.code options' := by
  rw [code, code, Options.runtimeMember_congr runtime]

namespace Comparison

variable {site site' : Site} {node : NodeHeader} (c : Comparison site site' node)

/-! ## Steps -/

theorem attributes (type : BuiltinType) :
    c.holds (fun a b => type.readAttributes node.attributes = .ok a ∧ a = b) (Draft.attributes type node)
      (Draft.attributes type node) := by
  unfold Draft.attributes
  cases type.readAttributes node.attributes with
  | error e => exact c.refused _ nofun
  | ok a => exact c.done ⟨rfl, rfl⟩

theorem requireText (key value : String) :
    c.holds Eq (Draft.requireText key value) (Draft.requireText key value) := by
  unfold Draft.requireText
  cases Text.isBlankText value with
  | true => exact c.refused _ nofun
  | false => exact c.done rfl

theorem requireVariables (expression : String) (names : List String) :
    c.holds Eq (Draft.requireVariables site expression names) (Draft.requireVariables site' expression names) := by
  induction names with
  | nil => exact c.done rfl
  | cons name names ih =>
    refine c.bind (c.requireVariable expression name) ?_
    rintro r _ rfl
    refine c.bind ih ?_
    rintro rs _ rfl
    exact c.done rfl

theorem resolve (key raw : String) :
    c.holds Eq (Draft.resolve site node key raw) (Draft.resolve site' node key raw) := by
  refine c.bind (c.normalize raw) ?_
  rintro text _ ⟨rfl, rfl⟩
  refine c.bind (c.requireVariables _ _) ?_
  rintro references _ rfl
  refine c.bind (c.request _ (.expression key _)) ?_
  intro _ _ _
  exact c.done rfl

theorem receiver (key raw : String) :
    c.holds Eq (Draft.receiver site node key raw) (Draft.receiver site' node key raw) := by
  refine c.bind (c.normalize raw) ?_
  rintro text _ ⟨rfl, rfl⟩
  refine c.bind (c.requireText _ _) ?_
  intro _ _ _
  refine c.bind (c.requireVariable _ _) ?_
  rintro r _ rfl
  exact c.done rfl

theorem receiver? (key : String) (output : Option String) :
    c.holds Eq (Draft.receiver? site node key output) (Draft.receiver? site' node key output) := by
  cases output with
  | none => exact c.done rfl
  | some raw =>
    show c.holds Eq (some <$> Draft.receiver site node key raw) (some <$> Draft.receiver site' node key raw)
    rw [map_eq_pure_bind, map_eq_pure_bind]
    refine c.bind (c.receiver key raw) ?_
    rintro name _ rfl
    exact c.done rfl

/-- The code that creates a builder is for the handle around the node. -/
theorem create (type : BuiltinType) :
    c.holds (fun code code' => site.handle = site'.handle → code = code')
      (Draft.builder site node type.factoryMethod type.factoryType)
      (Draft.builder site' node type.factoryMethod type.factoryType) := by
  refine c.bind (c.builder type) ?_
  intro _ _ _
  refine c.done ?_
  intro handle
  rw [handle]

/-! ## Types -/

theorem start : c.holds (SameCode site site') (BuiltinType.draftStart site node)
    (BuiltinType.draftStart site' node) := by
  refine c.bind (c.attributes .start) ?_
  rintro ⟨signal⟩ _ ⟨_, rfl⟩
  cases signal with
  | none =>
    refine c.bind (c.create .start) ?_
    intro code code' same
    refine c.done ?_
    intro handle runtime
    rw [same handle]
  | some signal =>
    refine c.bind (c.requireText _ _) ?_
    intro _ _ _
    refine c.bind (c.create .start) ?_
    intro code code' same
    refine c.bind (c.request _ (.signal signal)) ?_
    intro _ _ _
    refine c.done ?_
    intro handle runtime
    rw [same handle]

theorem finish : c.holds (SameCode site site') (BuiltinType.draftFinish site node)
    (BuiltinType.draftFinish site' node) := by
  refine c.bind (c.attributes .finish) ?_
  rintro a _ ⟨_, rfl⟩
  refine c.bind (c.create .finish) ?_
  intro code code' same
  refine c.done ?_
  intro handle runtime
  rw [same handle]

theorem task : c.holds (SameCode site site') (BuiltinType.draftTask site node) (BuiltinType.draftTask site' node) := by
  refine c.bind (c.attributes .task) ?_
  rintro a _ ⟨_, rfl⟩
  refine c.bind (c.requireText _ _) ?_
  intro _ _ _
  refine c.bind (c.resolve _ _) ?_
  rintro e _ rfl
  refine c.bind (c.receiver? _ _) ?_
  rintro output _ rfl
  refine c.bind (c.create .task) ?_
  intro code code' same
  refine c.done ?_
  intro handle runtime
  rw [same handle, e.code_congr runtime]

theorem parameters (entries : List (String × String)) :
    c.holds (SameCode site site') (BuiltinType.draftParameters site node entries)
      (BuiltinType.draftParameters site' node entries) := by
  induction entries with
  | nil => exact c.done fun _ _ => rfl
  | cons entry entries ih =>
    obtain ⟨key, value⟩ := entry
    have first : c.holds (SameCode site site') (BuiltinType.draftParameter site node key value)
        (BuiltinType.draftParameter site' node key value) := by
      unfold BuiltinType.draftParameter
      cases Expression.isEmbedded value with
      | false => exact c.done fun _ _ => rfl
      | true =>
        refine c.bind (c.resolve _ _) ?_
        rintro e _ rfl
        refine c.done ?_
        intro handle runtime
        rw [e.code_congr runtime]
    refine c.bind first ?_
    intro code code' same
    refine c.bind ih ?_
    intro others others' sameOthers
    refine c.done ?_
    intro handle runtime
    rw [same handle runtime, sameOthers handle runtime]

theorem workItem : c.holds (SameCode site site') (BuiltinType.draftWorkItem site node)
    (BuiltinType.draftWorkItem site' node) := by
  refine c.bind (c.attributes .workItem) ?_
  rintro a _ ⟨_, rfl⟩
  refine c.bind (c.requireText _ _) ?_
  intro _ _ _
  refine c.bind (c.create .workItem) ?_
  intro code code' same
  refine c.bind (c.parameters _) ?_
  intro parameters parameters' sameParameters
  refine c.bind (c.request _ (.workItem _)) ?_
  intro _ _ _
  refine c.done ?_
  intro handle runtime
  rw [same handle, sameParameters handle runtime]

theorem constraints (cs : List Constraint) :
    c.holds (SameCode site site') (BuiltinType.draftConstraints site node cs)
      (BuiltinType.draftConstraints site' node cs) := by
  induction cs with
  | nil => exact c.done fun _ _ => rfl
  | cons constraint cs ih =>
    have first : c.holds (SameCode site site') (BuiltinType.draftConstraint site node constraint)
        (BuiltinType.draftConstraint site' node constraint) := by
      refine c.bind (c.requireText _ _) ?_
      intro _ _ _
      refine c.bind (c.resolve _ _) ?_
      rintro e _ rfl
      refine c.done ?_
      intro handle runtime
      rw [e.code_congr runtime]
    refine c.bind first ?_
    intro code code' same
    refine c.bind ih ?_
    intro others others' sameOthers
    refine c.done ?_
    intro handle runtime
    rw [same handle runtime, sameOthers handle runtime]

theorem split : c.holds (SameCode site site') (BuiltinType.draftSplit site node)
    (BuiltinType.draftSplit site' node) := by
  refine c.bind (c.attributes .split) ?_
  rintro a _ ⟨_, rfl⟩
  split
  · exact c.refused _ nofun
  refine c.bind (c.create .split) ?_
  intro code code' same
  refine c.bind (c.constraints _) ?_
  intro constraints constraints' sameConstraints
  have final : SameCode site site'
      (fun handle => code handle ++ Code.call handle "kind"
        [site.options.runtimeMember ["SplitKind", a.kind.codeName]] ++ constraints handle ++ doneCode handle)
      (fun handle => code' handle ++ Code.call handle "kind"
        [site'.options.runtimeMember ["SplitKind", a.kind.codeName]] ++ constraints' handle ++ doneCode handle) := by
    intro handle runtime
    rw [same handle, sameConstraints handle runtime, Options.runtimeMember_congr runtime]
  split
  · refine c.bind c.helper ?_
    intro _ _ _
    exact c.done final
  · exact c.done final

theorem join : c.holds (SameCode site site') (BuiltinType.draftJoin site node) (BuiltinType.draftJoin site' node) := by
  refine c.bind (c.attributes .join) ?_
  rintro a _ ⟨_, rfl⟩
  refine c.bind (c.create .join) ?_
  intro code code' same
  refine c.done ?_
  intro handle runtime
  rw [same handle, Options.runtimeMember_congr runtime]

theorem timer : c.holds (SameCode site site') (BuiltinType.draftTimer site node)
    (BuiltinType.draftTimer site' node) := by
  refine c.bind (c.attributes .timer) ?_
  rintro a _ ⟨_, rfl⟩
  refine c.bind (c.requireText _ _) ?_
  intro _ _ _
  refine c.bind (c.create .timer) ?_
  intro code code' same
  split
  · refine c.bind (c.resolve _ _) ?_
    rintro e _ rfl
    refine c.done ?_
    intro handle runtime
    rw [same handle, e.code_congr runtime]
  split
  · refine c.done ?_
    intro handle runtime
    rw [same handle]
  · exact c.refused _ nofun

theorem milestone : c.holds (SameCode site site') (BuiltinType.draftMilestone site node)
    (BuiltinType.draftMilestone site' node) := by
  refine c.bind (c.attributes .milestone) ?_
  rintro a _ ⟨_, rfl⟩
  refine c.bind (c.requireText _ _) ?_
  intro _ _ _
  refine c.bind (c.resolve _ _) ?_
  rintro e _ rfl
  refine c.bind c.helper ?_
  intro _ _ _
  refine c.bind (c.create .milestone) ?_
  intro code code' same
  refine c.done ?_
  intro handle runtime
  rw [same handle, e.code_congr runtime]

theorem subProcess : c.holds (SameCode site site') (BuiltinType.draftSubProcess site node)
    (BuiltinType.draftSubProcess site' node) := by
  refine c.bind (c.attributes .subProcess) ?_
  rintro a _ ⟨_, rfl⟩
  refine c.bind (c.create .subProcess) ?_
  intro code code' same
  refine c.done ?_
  intro handle runtime
  rw [same handle]

/-- The drafts of a loop go together if its item is declared in both arenas or in neither. -/
theorem forEach {own : ScopeId}
    (declared : ∀ a : ForEachAttributes, BuiltinType.readAttributes .forEach node.attributes = .ok a →
      (site.scopes.declared? own (receiverName a.item)).isSome =
        (site'.scopes.declared? own (receiverName a.item)).isSome) :
    c.holds (SameCode site site') (BuiltinType.draftForEach site node own)
      (BuiltinType.draftForEach site' node own) := by
  refine c.bind (c.attributes .forEach) ?_
  rintro a _ ⟨told, rfl⟩
  refine c.bind (c.requireText _ _) ?_
  intro _ _ _
  refine c.bind (c.normalize _) ?_
  rintro item _ ⟨rfl, rfl⟩
  refine c.bind (c.requireText _ _) ?_
  intro _ _ _
  have both : (site.scopes.declared? own (Text.trim (Expression.strip a.item))).isNone =
      (site'.scopes.declared? own (Text.trim (Expression.strip a.item))).isNone := by
    rw [← Option.not_isSome, ← Option.not_isSome]
    exact congrArg not (declared a told)
  simp only [both]
  split
  · exact c.refused _ nofun
  refine c.bind (c.resolve _ _) ?_
  rintro collection _ rfl
  refine c.bind (c.receiver? _ _) ?_
  rintro output _ rfl
  refine c.bind (c.create .forEach) ?_
  intro code code' same
  refine c.done ?_
  intro handle runtime
  rw [same handle, collection.code_congr runtime]

theorem eventSubProcess : c.holds (SameCode site site') (BuiltinType.draftEventSubProcess site node)
    (BuiltinType.draftEventSubProcess site' node) := by
  refine c.bind (c.attributes .eventSubProcess) ?_
  rintro a _ ⟨_, rfl⟩
  refine c.bind (c.requireText _ _) ?_
  intro _ _ _
  refine c.bind (c.request _ (.signal _)) ?_
  intro _ _ _
  refine c.bind (c.create .eventSubProcess) ?_
  intro code code' same
  refine c.done ?_
  intro handle runtime
  rw [same handle]

/-- **What a built-in type drafts at two sites goes together**, if what it looks up in the node's own scope does. -/
theorem generator {node : Node} (c : Comparison site site' node.header) (type : BuiltinType)
    (declared : ∀ a, type.readAttributes node.header.attributes = .ok a → ∀ raw ∈ type.items a,
      ∀ own ∈ node.scope?, (site.scopes.declared? own (receiverName raw)).isSome =
        (site'.scopes.declared? own (receiverName raw)).isSome) :
    c.holds (SameCode site site') (type.generator.draft site node) (type.generator.draft site' node) := by
  cases type with
  | start => exact c.start
  | finish => exact c.finish
  | task => exact c.task
  | workItem => exact c.workItem
  | split => exact c.split
  | join => exact c.join
  | timer => exact c.timer
  | milestone => exact c.milestone
  | subProcess =>
    cases node with
    | plain header => exact c.refused _ nofun
    | composite header own children connections => exact c.subProcess
  | forEach =>
    cases node with
    | plain header => exact c.refused _ nofun
    | composite header own children connections =>
      exact c.forEach fun a told => declared a told a.item List.mem_cons_self own rfl
  | eventSubProcess =>
    cases node with
    | plain header => exact c.refused _ nofun
    | composite header own children connections => exact c.eventSubProcess

end Comparison

/-! ## Drafts alike -/

namespace Draft

variable {α β γ δ : Type} {same : α → β → Prop} {same' : γ → δ → Prop}

/-- **Drafts that request the same**, and come to results that are the `same`, or to one problem. -/
inductive Alike (same : α → β → Prop) : Draft α → Draft β → Prop
  | done {requests : List Request} {a : α} {b : β} (results : same a b) :
      Alike same ⟨requests, .ok a⟩ ⟨requests, .ok b⟩
  | refused {requests : List Request} {problem : Problem} :
      Alike same ⟨requests, .error problem⟩ ⟨requests, .error problem⟩

/-- The problem that a draft ends with, if it does. -/
def problem? (d : Draft α) : Option Problem :=
  match d.result with
  | .ok _ => none
  | .error problem => some problem

namespace Alike

theorem refl (d : Draft α) : Alike Eq d d := by
  obtain ⟨requests, problem | a⟩ := d
  · exact .refused
  · exact .done rfl

theorem bind {d : Draft α} {d' : Draft β} {next : α → Draft γ} {next' : β → Draft δ} (h : Alike same d d')
    (h' : ∀ a b, same a b → Alike same' (next a) (next' b)) : Alike same' (d >>= next) (d' >>= next') := by
  cases h with
  | refused => exact .refused
  | @done requests a b results =>
    have after := h' a b results
    generalize first : next a = d₁ at after
    generalize second : next' b = d₂ at after
    cases after with
    | done results =>
      simp only [Bind.bind, Draft.bind, first, second]
      exact .done results
    | refused =>
      simp only [Bind.bind, Draft.bind, first, second]
      exact .refused

theorem mono {same' : α → β → Prop} {d : Draft α} {d' : Draft β} (h : Alike same d d')
    (weaker : ∀ a b, same a b → same' a b) : Alike same' d d' := by
  cases h with
  | done results => exact .done (weaker _ _ results)
  | refused => exact .refused

protected theorem eq {d d' : Draft α} (h : Alike Eq d d') : d = d' := by
  cases h with
  | done results => rw [results]
  | refused => rfl

/-- Drafts alike have the same problem, or none. -/
theorem problem?_eq {d : Draft α} {d' : Draft β} (h : Alike same d d') : d.problem? = d'.problem? := by
  cases h with
  | done results => rfl
  | refused => rfl

end Alike

end Draft

namespace Site

/-- Two sites that see the same: they have one set of options, and the same variables around the node. -/
structure SeesLike (site site' : Site) : Prop where
  options : site.options = site'.options
  references : ∀ name, site.reference? name = site'.reference? name

namespace SeesLike

variable {site site' : Site}

protected theorem refl (site : Site) : site.SeesLike site := ⟨rfl, fun _ => rfl⟩

/-- Drafts at sites that see the same are compared by what they request and come to. -/
def comparison (h : site.SeesLike site') (node : NodeHeader) : Comparison site site' node where
  holds := Draft.Alike
  done results := .done results
  refused _ _ := .refused
  bind first next := first.bind next
  request _ _ := .refl _
  normalize raw := by
    unfold Draft.normalize
    rw [h.options]
    cases Expression.isUnclosed raw with
    | false => exact .done ⟨rfl, rfl⟩
    | true =>
      cases site'.options.strictExpressions with
      | true => exact .refused
      | false => cases site'.options.diagnostics <;> exact .done ⟨rfl, rfl⟩
  requireVariable expression name := by
    have same : site.scopes.reference? site.scope name = site'.scopes.reference? site'.scope name := h.references name
    unfold Draft.requireVariable
    rw [same]
    exact .refl _
  builder type := by
    unfold BuiltinType.builderRequest
    rw [h.options]
    exact .refl _
  helper := by
    unfold Draft.needConditionHelper
    rw [h.options]
    exact .refl _

/-- **Sites that see the same draft alike**, if the node's own variables are the same as far as they are looked up. -/
theorem alike (h : site.SeesLike site') {node : Node} (type : BuiltinType)
    (declared : ∀ a, type.readAttributes node.header.attributes = .ok a → ∀ raw ∈ type.items a,
      ∀ own ∈ node.scope?, (site.scopes.declared? own (receiverName raw)).isSome =
        (site'.scopes.declared? own (receiverName raw)).isSome) :
    Draft.Alike (SameCode site site') (type.generator.draft site node) (type.generator.draft site' node) :=
  (h.comparison node.header).generator type declared

/-- Where both succeed, sites that see the same and address one handle draft the same. -/
theorem draft_eq (h : site.SeesLike site') (handle : site.handle = site'.handle) {node : Node} {type : BuiltinType}
    {requests requests' : List Request} {code code' : String → Code}
    (drafted : type.generator.draft site node = ⟨requests, .ok code⟩)
    (drafted' : type.generator.draft site' node = ⟨requests', .ok code'⟩) : requests = requests' ∧ code = code' := by
  obtain ⟨a, said⟩ := BuiltinType.drafted_of_eq_ok drafted
  obtain ⟨a', said'⟩ := BuiltinType.drafted_of_eq_ok drafted'
  -- Both drafts succeed, so what they look up in the node's own scope is declared in both arenas.
  have declared : ∀ b, type.readAttributes node.header.attributes = .ok b → ∀ raw ∈ type.items b,
      ∀ own ∈ node.scope?, (site.scopes.declared? own (receiverName raw)).isSome =
        (site'.scopes.declared? own (receiverName raw)).isSome := by
    intro b told raw item own owned
    obtain rfl : a = b := Except.ok.inj (said.told.symm.trans told)
    obtain rfl : a = a' := Except.ok.inj (told.symm.trans said'.told)
    obtain ⟨own₁, owned₁, found⟩ := said.declared raw item
    obtain ⟨own₂, owned₂, found'⟩ := said'.declared raw item
    obtain rfl : own = own₁ := Option.some.inj (owned.symm.trans owned₁)
    obtain rfl : own = own₂ := Option.some.inj (owned.symm.trans owned₂)
    rw [found, found']
  have same := ((h.alike type declared).mono fun _ _ same => same handle (by rw [h.options])).eq
  rw [drafted, drafted'] at same
  cases same
  exact ⟨rfl, rfl⟩

end SeesLike

end Site

end ProcessCompiler
