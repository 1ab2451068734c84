import ProcessCompiler.Draft

/-!
# Drafts that succeed

Each step of a draft is described once by what it requests and yields when it succeeds; generators are then read
backwards, step by step.

* `Draft.bind_eq_ok_iff`: a sequence of steps succeeds if each step does, and requests what they request.
* `Site.resolved`: an expression with the variables that its names stand for.
-/

namespace ProcessCompiler

/-! ## What the steps are about -/

namespace Site

/-- The variable of a name. -/
def reference? (site : Site) (name : String) : Option Reference := site.scopes.reference? site.scope name

/-- An expression stripped of its delimiters, with the variables it reads. -/
def resolved (site : Site) (raw : String) : ResolvedExpression :=
  ⟨Expression.strip raw, (Expression.references (Expression.strip raw)).filterMap site.reference?⟩

/-- Whether every name that an expression reads is declared. -/
def Resolves (site : Site) (raw : String) : Prop :=
  ∀ name ∈ Expression.references (Expression.strip raw), (site.reference? name).isSome

/-- Whether the delimiters of an expression pass. -/
def Passes (site : Site) (raw : String) : Prop :=
  Expression.isUnclosed raw = true → site.options.strictExpressions = false

/-- What is reported when the delimiters of an expression are cut. -/
def cuts (site : Site) (node : NodeHeader) (raw : String) : List Request :=
  if Expression.isUnclosed raw && site.options.diagnostics then
    [.diagnostic ⟨node.uniqueId, node.type, .unclosedExpression raw⟩]
  else []

/-- What is requested for an expression of an attribute. -/
def resolution (site : Site) (node : NodeHeader) (key raw : String) : List Request :=
  site.cuts node raw ++ [.expression node.uniqueId key (site.resolved raw)]

end Site

/-- The name in a text that names a variable. -/
def receiverName (raw : String) : String := Text.trim (Expression.strip raw)

namespace Arena

/-- The variable of a name has this name. -/
theorem name_of_reference? {arena : Arena} {scope : ScopeId} {name : String} {r : Reference}
    (h : arena.reference? scope name = some r) : r.name = name := by
  obtain ⟨_, _, rfl⟩ := Option.map_eq_some_iff.1 h
  rfl

end Arena

namespace Site

variable {site : Site} {raw : String}

/-- An expression whose names are declared reads just these names. -/
theorem names_resolved (h : site.Resolves raw) :
    (site.resolved raw).references.map Reference.name = Expression.references (Expression.strip raw) := by
  have named : ∀ names : List String, (∀ name ∈ names, (site.reference? name).isSome) →
      (names.filterMap site.reference?).map Reference.name = names := by
    intro names declared
    induction names with
    | nil => rfl
    | cons name names ih =>
      obtain ⟨r, found⟩ := Option.isSome_iff_exists.1 (declared name (by simp))
      rw [List.filterMap_cons_some found, List.map_cons, Arena.name_of_reference? found,
        ih fun other member => declared other (by simp [member])]
  exact named _ h

/-- A variable that an expression reads is what its name stands for. -/
theorem reference?_of_mem_resolved {r : Reference} (h : r ∈ (site.resolved raw).references) :
    site.reference? r.name = some r := by
  obtain ⟨name, _, found⟩ := List.mem_filterMap.1 h
  rw [Arena.name_of_reference? found]
  exact found

end Site

/-! ## Steps -/

namespace Draft

variable {α β : Type} {requests : List Request}

theorem pure_eq_ok_iff {a b : α} : (pure a : Draft α) = ⟨requests, .ok b⟩ ↔ requests = [] ∧ b = a := by
  simp [pure, Draft.pure, eq_comm]

theorem fail_eq_ok_iff {problem : Problem} {a : α} : fail problem = ⟨requests, .ok a⟩ ↔ False := by
  simp [fail]

theorem request_eq_ok_iff {r : Request} {u : Unit} : request r = ⟨requests, .ok u⟩ ↔ requests = [r] := by
  simp [request, eq_comm]

/-- **A sequence of steps succeeds if each step does, and requests what they request.** -/
theorem bind_eq_ok_iff {d : Draft α} {next : α → Draft β} {b : β} :
    d >>= next = ⟨requests, .ok b⟩ ↔
      ∃ first a second, d = ⟨first, .ok a⟩ ∧ next a = ⟨second, .ok b⟩ ∧ requests = first ++ second := by
  obtain ⟨before, result⟩ := d
  cases result with
  | error problem => simp [bind, Draft.bind]
  | ok a =>
    rcases after : next a with ⟨more, outcome⟩
    constructor
    · intro h
      simp only [bind, Draft.bind, after, Draft.mk.injEq] at h
      obtain ⟨rfl, rfl⟩ := h
      exact ⟨before, a, more, rfl, after, rfl⟩
    · rintro ⟨first, a', second, h, h', rfl⟩
      cases h
      rw [after] at h'
      cases h'
      simp [bind, Draft.bind, after]

theorem map_eq_ok_iff {d : Draft α} {f : α → β} {b : β} :
    f <$> d = ⟨requests, .ok b⟩ ↔ ∃ a, d = ⟨requests, .ok a⟩ ∧ b = f a := by
  rw [map_eq_pure_bind, bind_eq_ok_iff]
  constructor
  · rintro ⟨first, a, second, h, h', rfl⟩
    obtain ⟨rfl, rfl⟩ := pure_eq_ok_iff.1 h'
    exact ⟨a, by rw [List.append_nil]; exact h, rfl⟩
  · rintro ⟨a, h, rfl⟩
    exact ⟨requests, a, [], h, rfl, (List.append_nil _).symm⟩

section

variable {site : Site} {node : NodeHeader} {key value raw text name expression : String}

theorem attributes_eq_ok_iff {type : BuiltinType} {a : type.Attributes} :
    attributes type node = ⟨requests, .ok a⟩ ↔ requests = [] ∧ type.readAttributes node.attributes = .ok a := by
  unfold attributes
  cases type.readAttributes node.attributes with
  | error e => simp [fail]
  | ok b => simp [pure_eq_ok_iff, eq_comm]

/-- A draft that starts from the attributes of a node succeeds if these can be read. -/
theorem of_attributes_bind (type : BuiltinType) {next : type.Attributes → Draft β} {b : β}
    (h : attributes type node >>= next = ⟨requests, .ok b⟩) :
    ∃ a, type.readAttributes node.attributes = .ok a ∧ next a = ⟨requests, .ok b⟩ := by
  obtain ⟨_, a, _, read, rest, rfl⟩ := bind_eq_ok_iff.1 h
  obtain ⟨rfl, told⟩ := attributes_eq_ok_iff.1 read
  exact ⟨a, told, rest⟩

theorem requireText_eq_ok_iff {u : Unit} :
    requireText key value = ⟨requests, .ok u⟩ ↔ requests = [] ∧ Text.isBlankText value = false := by
  unfold requireText
  cases Text.isBlankText value <;> simp [fail, pure_eq_ok_iff]

theorem normalize_eq_ok_iff :
    normalize site node raw = ⟨requests, .ok text⟩ ↔
      site.Passes raw ∧ requests = site.cuts node raw ∧ text = Expression.strip raw := by
  unfold normalize Site.Passes Site.cuts
  cases Expression.isUnclosed raw <;> cases site.options.strictExpressions <;> cases site.options.diagnostics <;>
    simp [bind, Draft.bind, pure, Draft.pure, fail, request, eq_comm]

theorem requireVariable_eq_ok_iff {r : Reference} :
    requireVariable site expression name = ⟨requests, .ok r⟩ ↔ requests = [] ∧ site.reference? name = some r := by
  unfold requireVariable Site.reference?
  cases site.scopes.reference? site.scope name <;> simp [fail, pure_eq_ok_iff, eq_comm]

theorem requireVariables_eq_ok_iff {names : List String} {rs : List Reference} :
    requireVariables site expression names = ⟨requests, .ok rs⟩ ↔
      requests = [] ∧ (∀ name ∈ names, (site.reference? name).isSome) ∧ rs = names.filterMap site.reference? := by
  induction names generalizing requests rs with
  | nil => simp [requireVariables, pure_eq_ok_iff]
  | cons name names ih =>
    simp only [requireVariables, bind_eq_ok_iff, requireVariable_eq_ok_iff, ih, pure_eq_ok_iff]
    constructor
    · rintro ⟨_, r, _, ⟨rfl, found⟩, ⟨_, others, _, ⟨rfl, declared, rfl⟩, ⟨rfl, rfl⟩, rfl⟩, rfl⟩
      exact ⟨rfl, by simpa [found] using declared, by rw [List.filterMap_cons_some found]⟩
    · rintro ⟨rfl, declared, rfl⟩
      obtain ⟨r, found⟩ := Option.isSome_iff_exists.1 (declared name (by simp))
      exact ⟨[], r, [], ⟨rfl, found⟩, ⟨[], _, [], ⟨rfl, fun other member => declared other (by simp [member]), rfl⟩,
        ⟨rfl, List.filterMap_cons_some found⟩, rfl⟩, rfl⟩

/-- An expression is resolved if its delimiters pass and its names are declared. -/
theorem resolve_eq_ok_iff {e : ResolvedExpression} :
    resolve site node key raw = ⟨requests, .ok e⟩ ↔
      site.Passes raw ∧ site.Resolves raw ∧ requests = site.resolution node key raw ∧ e = site.resolved raw := by
  simp only [resolve, bind_eq_ok_iff, normalize_eq_ok_iff, requireVariables_eq_ok_iff, request_eq_ok_iff,
    pure_eq_ok_iff]
  constructor
  · rintro ⟨_, text, _, ⟨passes, rfl, rfl⟩, ⟨_, rs, _, ⟨rfl, declared, rfl⟩, ⟨_, _, _, rfl, ⟨rfl, rfl⟩, rfl⟩, rfl⟩, rfl⟩
    exact ⟨passes, declared, rfl, rfl⟩
  · rintro ⟨passes, declared, rfl, rfl⟩
    exact ⟨_, _, _, ⟨passes, rfl, rfl⟩, ⟨_, _, _, ⟨rfl, declared, rfl⟩, ⟨_, (), _, rfl, ⟨rfl, rfl⟩, rfl⟩, rfl⟩, rfl⟩

/-- A result is received by a variable that is declared. -/
theorem receiver_eq_ok_iff :
    receiver site node key raw = ⟨requests, .ok name⟩ ↔
      site.Passes raw ∧ Text.isBlankText (receiverName raw) = false ∧ (site.reference? (receiverName raw)).isSome ∧
        requests = site.cuts node raw ∧ name = receiverName raw := by
  simp only [receiver, bind_eq_ok_iff, normalize_eq_ok_iff, requireText_eq_ok_iff, requireVariable_eq_ok_iff,
    pure_eq_ok_iff]
  constructor
  · rintro ⟨_, text, _, ⟨passes, rfl, rfl⟩,
      ⟨_, _, _, ⟨rfl, filled⟩, ⟨_, r, _, ⟨rfl, found⟩, ⟨rfl, rfl⟩, rfl⟩, rfl⟩, rfl⟩
    exact ⟨passes, filled, Option.isSome_iff_exists.2 ⟨r, found⟩, by simp, Arena.name_of_reference? found⟩
  · rintro ⟨passes, filled, declared, rfl, rfl⟩
    obtain ⟨r, found⟩ := Option.isSome_iff_exists.1 declared
    exact ⟨_, _, _, ⟨passes, rfl, rfl⟩, ⟨_, (), _, ⟨rfl, filled⟩, ⟨_, r, _, ⟨rfl, found⟩,
      ⟨rfl, (Arena.name_of_reference? found).symm⟩, rfl⟩, rfl⟩, by simp⟩

/-- A result that may be received is received by a variable that is declared. -/
theorem receiver?_eq_ok_iff {output : Option String} {received : Option String} :
    receiver? site node key output = ⟨requests, .ok received⟩ ↔
      (∀ raw ∈ output, site.Passes raw ∧ Text.isBlankText (receiverName raw) = false ∧
          (site.reference? (receiverName raw)).isSome) ∧
        requests = output.toList.flatMap (site.cuts node) ∧ received = output.map receiverName := by
  cases output with
  | none => simp [receiver?, pure_eq_ok_iff]
  | some raw =>
    simp only [receiver?, map_eq_ok_iff, receiver_eq_ok_iff, Option.mem_def, Option.some.injEq, forall_eq',
      Option.toList_some, List.flatMap_cons, List.flatMap_nil, List.append_nil, Option.map_some]
    constructor
    · rintro ⟨_, ⟨passes, filled, declared, rfl, rfl⟩, rfl⟩
      exact ⟨⟨passes, filled, declared⟩, rfl, rfl⟩
    · rintro ⟨⟨passes, filled, declared⟩, rfl, rfl⟩
      exact ⟨_, ⟨passes, filled, declared, rfl, rfl⟩, rfl⟩

theorem builder_eq_ok_iff {method factoryType : String} {code : String → Code} :
    builder site node method factoryType = ⟨requests, .ok code⟩ ↔
      requests = [.builder (site.options.runtimePath ("nodes::" ++ factoryType)) node.handleBase] ∧
        code = node.builderCode site.handle method factoryType := by
  simp only [builder, bind_eq_ok_iff, request_eq_ok_iff, pure_eq_ok_iff]
  constructor
  · rintro ⟨_, _, _, rfl, ⟨rfl, rfl⟩, rfl⟩
    exact ⟨rfl, rfl⟩
  · rintro ⟨rfl, rfl⟩
    exact ⟨_, (), _, rfl, ⟨rfl, rfl⟩, rfl⟩

end

end Draft

end ProcessCompiler
