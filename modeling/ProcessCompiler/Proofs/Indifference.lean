import Mathlib.Data.List.Forall2
import ProcessCompiler.Compilation
import ProcessCompiler.Proofs.Ancestors

/-!
# Options that do not steer a compilation

Whether reports are kept, and which library generated code builds on, does not change what is compiled. Two compilations
of a graph under options that are equally strict go the same way: they gather the same but for reports and for what
names the library, and they fail with the same error.

* `Metadata.AlikeUnder`: what is gathered under two sets of options.
* `Walk.alikeUnder`: a walk under one set of options is one under the other.
* `generate_alikeUnder`: the same for whole graphs, failures included.
* `generate_indifferent`: the reports and the library, each for itself.
-/

namespace ProcessCompiler

/-! ## Metadata under two sets of options -/

namespace SortedMap

variable {α : Type} {a b : SortedMap α}

/-- Which names are bound after one is put in depends on those that were bound before. -/
theorem keys_insert_congr (same : a.keys = b.keys) (name : String) (x y : α) :
    (a.insert name x).keys = (b.insert name y).keys := by
  have entries : ∀ xs ys : List (String × α), xs.map (·.1) = ys.map (·.1) →
      (insertEntry name x xs).map (·.1) = (insertEntry name y ys).map (·.1) := by
    intro xs
    induction xs with
    | nil =>
      intro ys h
      obtain rfl : ys = [] := List.map_eq_nil_iff.1 h.symm
      rfl
    | cons head xs ih =>
      intro ys h
      obtain ⟨head', ys, rfl⟩ : ∃ head' rest, ys = head' :: rest := by
        cases ys with
        | nil => cases h
        | cons head' rest => exact ⟨head', rest, rfl⟩
      obtain ⟨first, others⟩ := List.cons.inj h
      have first : head.1 = head'.1 := first
      simp only [insertEntry, first]
      split
      · simpa [first] using others
      · split
        · simpa using others
        · simpa [first] using ih ys others
  exact entries a.entries b.entries same

theorem contains_congr (same : a.keys = b.keys) (name : String) : a.contains name = b.contains name := by
  have found : name ∈ a.keys ↔ name ∈ b.keys := by rw [same]
  rw [mem_keys_iff, mem_keys_iff] at found
  exact Bool.eq_iff_iff.2 found

end SortedMap

/-- **What two compilations have gathered whose options differ.** Reports are the same if they are kept by both or by
none, imports and helpers if the library has one name. -/
structure Metadata.AlikeUnder (options options' : Options) (m m' : Metadata) : Prop where
  processId : m.processId = m'.processId
  workItems : m.workItems = m'.workItems
  signals : m.signals = m'.signals
  expressions : m.expressions = m'.expressions
  handles : m.handles = m'.handles
  helpers : m.helpers.keys = m'.helpers.keys
  reports : options.diagnostics = options'.diagnostics → m.diagnostics = m'.diagnostics
  silent : options'.diagnostics = false → m'.diagnostics = []
  library : options.runtimeName = options'.runtimeName → m.imports = m'.imports ∧ m.helpers = m'.helpers

section Requests

variable {options options' : Options} {m m' : Metadata}

namespace Metadata.AlikeUnder

protected theorem empty (processId : String) : AlikeUnder options options' (.empty processId) (.empty processId) :=
  ⟨rfl, rfl, rfl, rfl, rfl, rfl, fun _ => rfl, fun _ => rfl, fun _ => ⟨rfl, rfl⟩⟩

/-- The same names are free. -/
theorem freshHandle_congr (h : m.AlikeUnder options options' m') (base : String) :
    m.freshHandle base = m'.freshHandle base := by
  rw [freshHandle, freshHandle, h.handles]

/-- Builders may come from a library of another name. -/
theorem grant_builder {path path' : String} (base : String)
    (same : options.runtimeName = options'.runtimeName → path = path') (h : m.AlikeUnder options options' m') :
    (m.grant (.builder path base)).AlikeUnder options options' (m'.grant (.builder path' base)) where
  processId := h.processId
  workItems := h.workItems
  signals := h.signals
  expressions := h.expressions
  handles := by
    show m.handles.add (m.freshHandle base) = m'.handles.add (m'.freshHandle base)
    rw [h.freshHandle_congr, h.handles]
  helpers := h.helpers
  reports := h.reports
  silent := h.silent
  library named := by
    obtain ⟨imports, helpers⟩ := h.library named
    refine ⟨?_, helpers⟩
    show m.imports.add path = m'.imports.add path'
    rw [imports, same named]

/-- The code of a helper may name another library. -/
theorem grant_helper {code code' : Code} (name : String)
    (same : options.runtimeName = options'.runtimeName → code = code') (h : m.AlikeUnder options options' m') :
    (m.grant (.helper name code)).AlikeUnder options options' (m'.grant (.helper name code')) := by
  have declared : m.helpers.contains name = m'.helpers.contains name := SortedMap.contains_congr h.helpers name
  show (m.addHelper name code).AlikeUnder options options' (m'.addHelper name code')
  rw [addHelper, addHelper, declared]
  split
  · exact h
  · refine { h with helpers := SortedMap.keys_insert_congr h.helpers name code code', library := fun named => ?_ }
    obtain ⟨imports, helpers⟩ := h.library named
    refine ⟨imports, ?_⟩
    show m.helpers.insert name code = m'.helpers.insert name code'
    rw [helpers, same named]

/-- Neither reports nor the library matter to any other request. -/
theorem grant {r : Request} (other : ∀ d, r ≠ .diagnostic d) (h : m.AlikeUnder options options' m') :
    (m.grant r).AlikeUnder options options' (m'.grant r) := by
  cases r with
  | builder path base => exact h.grant_builder base fun _ => rfl
  | helper name code => exact h.grant_helper name fun _ => rfl
  | workItem name =>
    exact { h with workItems := congrArg (NameSet.add · name) h.workItems }
  | signal name =>
    exact { h with signals := congrArg (NameSet.add · name) h.signals }
  | diagnostic d => exact absurd rfl (other d)
  | expression node key e =>
    refine { h with expressions := ?_ }
    show (m.record node key e).expressions = (m'.record node key e).expressions
    rw [record, record, h.expressions]

/-- What may be reported is reported as the options say. -/
theorem grant_report (d : Diagnostic) (h : m.AlikeUnder options options' m') :
    (m.grantAll (if options.diagnostics then [.diagnostic d] else [])).AlikeUnder options options'
      (m'.grantAll (if options'.diagnostics then [.diagnostic d] else [])) := by
  have reported : ∀ {m : Metadata} {on : Bool}, (m.grantAll (if on then [.diagnostic d] else [])) =
      { m with diagnostics := m.diagnostics ++ if on then [d] else [] } := by
    intro m on
    cases on with
    | false => simp
    | true => rfl
  rw [reported, reported]
  refine { h with reports := fun same => ?_, silent := fun off => ?_ }
  · rw [h.reports same, same]
  · rw [h.silent off, off]
    rfl

end Metadata.AlikeUnder

/-! ## Drafts under two sets of options -/

/-- **Drafts under two sets of options**: what they request is granted alike, and they come to results that are the
`same`, or to one problem. -/
inductive Draft.AlikeUnder {α β : Type} (options options' : Options) (same : α → β → Prop) : Draft α → Draft β → Prop
  | done {requests requests' : List Request} {a : α} {b : β}
      (granted : ∀ m m' : Metadata, m.AlikeUnder options options' m' →
        (m.grantAll requests).AlikeUnder options options' (m'.grantAll requests'))
      (results : same a b) : AlikeUnder options options' same ⟨requests, .ok a⟩ ⟨requests', .ok b⟩
  | refused {requests requests' : List Request} {problem : Problem} :
      AlikeUnder options options' same ⟨requests, .error problem⟩ ⟨requests', .error problem⟩

namespace Draft.AlikeUnder

variable {α β γ δ : Type} {same : α → β → Prop} {same' : γ → δ → Prop}

theorem pure {a : α} {b : β} (results : same a b) :
    AlikeUnder options options' same (Pure.pure a) (Pure.pure b) := .done (fun _ _ h => h) results

theorem request {r r' : Request} (granted : ∀ m m' : Metadata, m.AlikeUnder options options' m' →
    (m.grant r).AlikeUnder options options' (m'.grant r')) :
    AlikeUnder options options' Eq (Draft.request r) (Draft.request r') := .done granted rfl

theorem bind {d : Draft α} {d' : Draft β} {next : α → Draft γ} {next' : β → Draft δ}
    (h : AlikeUnder options options' same d d') (h' : ∀ a b, same a b →
      AlikeUnder options options' same' (next a) (next' b)) :
    AlikeUnder options options' same' (d >>= next) (d' >>= next') := by
  cases h with
  | refused => exact .refused
  | @done requests requests' a b granted results =>
    have after := h' a b results
    generalize first : next a = d₁ at after
    generalize second : next' b = d₂ at after
    cases after with
    | done grantedNext resultsNext =>
      simp only [Bind.bind, Draft.bind, first, second]
      refine .done ?_ resultsNext
      intro m m' alike
      rw [Metadata.grantAll_append, Metadata.grantAll_append]
      exact grantedNext _ _ (granted m m' alike)
    | refused =>
      simp only [Bind.bind, Draft.bind, first, second]
      exact .refused

theorem mono {same' : α → β → Prop} {d : Draft α} {d' : Draft β} (h : AlikeUnder options options' same d d')
    (weaker : ∀ a b, same a b → same' a b) : AlikeUnder options options' same' d d' := by
  cases h with
  | done granted results => exact .done granted (weaker _ _ results)
  | refused => exact .refused

theorem problem?_eq {d : Draft α} {d' : Draft β} (h : AlikeUnder options options' same d d') :
    d.problem? = d'.problem? := by
  cases h with
  | done granted results => rfl
  | refused => rfl

/-- What is cut is reported as the options say. -/
theorem normalize (strictness : options.strictExpressions = options'.strictExpressions) {scopes : Arena}
    {handle : String} {scope : ScopeId} (node : NodeHeader) (raw : String) :
    AlikeUnder options options' (fun text text' => text = Expression.strip raw ∧ text' = Expression.strip raw)
      (Draft.normalize ⟨options, scopes, handle, scope⟩ node raw)
      (Draft.normalize ⟨options', scopes, handle, scope⟩ node raw) := by
  have plainly : ∀ options : Options, Draft.normalize ⟨options, scopes, handle, scope⟩ node raw =
      if Expression.isUnclosed raw then
        if options.strictExpressions then .fail (.unclosedExpression raw)
        else ⟨if options.diagnostics then [.diagnostic ⟨node.uniqueId, node.type, .unclosedExpression raw⟩] else [],
          .ok (Expression.strip raw)⟩
      else ⟨[], .ok (Expression.strip raw)⟩ := by
    intro options
    unfold Draft.normalize
    cases Expression.isUnclosed raw with
    | false => rfl
    | true =>
      cases options.strictExpressions with
      | true => rfl
      | false => cases options.diagnostics <;> rfl
  rw [plainly, plainly, strictness]
  split
  · split
    · exact .refused
    · exact .done (fun m m' h => h.grant_report _) ⟨rfl, rfl⟩
  · exact .done (fun _ _ h => h) ⟨rfl, rfl⟩

/-- Drafts at one place under options that are equally strict are compared by what is granted. -/
def comparison (strictness : options.strictExpressions = options'.strictExpressions) (scopes : Arena)
    (handle : String) (scope : ScopeId) (node : NodeHeader) :
    Comparison ⟨options, scopes, handle, scope⟩ ⟨options', scopes, handle, scope⟩ node where
  holds := AlikeUnder options options'
  done := pure
  refused _ _ := .refused
  bind first next := first.bind next
  request r fixed := request fun _ _ h => h.grant fixed.ne_diagnostic
  normalize raw := normalize strictness node raw
  requireVariable expression name := by
    unfold Draft.requireVariable
    cases scopes.reference? scope name with
    | none => exact .refused
    | some r => exact pure rfl
  builder type := by
    refine request fun m m' h => h.grant_builder _ fun named => ?_
    rw [Options.runtimePath, Options.runtimePath, named]
  helper := by
    refine request fun m m' h => h.grant_helper _ fun named => ?_
    rw [conditionHelperCode, conditionHelperCode, Options.runtimeMember_congr named, Options.runtimeMember_congr named]

end Draft.AlikeUnder

/-- **What a built-in type drafts does not depend on reports**, and on the library only in what names it. -/
theorem BuiltinType.draft_alikeUnder (strictness : options.strictExpressions = options'.strictExpressions)
    (type : BuiltinType) (scopes : Arena) (handle : String) (scope : ScopeId) (node : Node) :
    Draft.AlikeUnder options options' (fun code code' => options.runtimeName = options'.runtimeName → code = code')
      (type.generator.draft ⟨options, scopes, handle, scope⟩ node)
      (type.generator.draft ⟨options', scopes, handle, scope⟩ node) := by
  have compared : Draft.AlikeUnder options options' _ (type.generator.draft ⟨options, scopes, handle, scope⟩ node)
      (type.generator.draft ⟨options', scopes, handle, scope⟩ node) :=
    (Draft.AlikeUnder.comparison strictness scopes handle scope node.header).generator type fun _ _ _ _ _ _ => rfl
  exact compared.mono fun code code' same named => same rfl named

end Requests

/-! ## Walks under two sets of options -/

/-- **Instructions under two sets of options**: of one kind, for one handle, and with the same code if the library has
one name. -/
structure Instruction.AlikeUnder (options options' : Options) (i i' : Instruction) : Prop where
  kind : i.kind = i'.kind
  handle : i.handle = i'.handle
  code : options.runtimeName = options'.runtimeName → i.code = i'.code

section Walks

variable {options options' : Options} {registry : Registry} {scopes : Arena} {handle : String} {scope : ScopeId}
  {nodes : List Node} {m n : Metadata} {out : List Instruction}

theorem Instruction.AlikeUnder.refl (i : Instruction) : i.AlikeUnder options options' i := ⟨rfl, rfl, fun _ => rfl⟩

/-- Only the type of a variable is a name of the library. -/
theorem declareVariables_alikeUnder (declarations : SortedMap Variable) :
    List.Forall₂ (Instruction.AlikeUnder options options') (declareVariables options handle declarations)
      (declareVariables options' handle declarations) := by
  rw [declareVariables, declareVariables, List.forall₂_map_left_iff, List.forall₂_map_right_iff, List.forall₂_same]
  intro entry _
  refine ⟨rfl, rfl, fun named => ?_⟩
  simp only [declareVariable, Options.runtimeMember_congr named]

/-- What does not depend on options is the same under all. -/
theorem forall₂_alikeUnder_refl (out : List Instruction) :
    List.Forall₂ (Instruction.AlikeUnder options options') out out :=
  List.forall₂_same.2 fun i _ => .refl i

/-- A node that is drafted under one set of options is drafted under the other. -/
theorem draft_under_of_draft (uses : registry.UsesBuiltins)
    (strictness : options.strictExpressions = options'.strictExpressions) {tag : String} {generator : Generator}
    {node : Node} {requests : List Request} {code : String → Code} (known : registry.find? tag = some generator)
    (drafted : generator.draft ⟨options, scopes, handle, scope⟩ node = ⟨requests, .ok code⟩) :
    ∃ requests' code', generator.draft ⟨options', scopes, handle, scope⟩ node = ⟨requests', .ok code'⟩ ∧
      (∀ m m' : Metadata, m.AlikeUnder options options' m' →
        (m.grantAll requests).AlikeUnder options options' (m'.grantAll requests')) ∧
      (options.runtimeName = options'.runtimeName → code = code') := by
  obtain ⟨type, rfl⟩ := uses _ _ known
  have alike := type.draft_alikeUnder strictness scopes handle scope node
  rw [drafted] at alike
  generalize other : type.generator.draft ⟨options', scopes, handle, scope⟩ node = draft' at alike
  cases alike with
  | done granted results => exact ⟨_, _, rfl, granted, results⟩

/-- **A walk under one set of options is one under another** that is equally strict. -/
theorem Walk.alikeUnder (uses : registry.UsesBuiltins)
    (strictness : options.strictExpressions = options'.strictExpressions)
    (walk : Walk ⟨registry, options, scopes⟩ handle scope nodes m out n) :
    ∀ m' : Metadata, m.AlikeUnder options options' m' → ∃ out' n',
      Walk ⟨registry, options', scopes⟩ handle scope nodes m' out' n' ∧ n.AlikeUnder options options' n' ∧
        List.Forall₂ (Instruction.AlikeUnder options options') out out' := by
  induction walk with
  | done =>
    intro m' h
    exact ⟨[], m', .done, h, .nil⟩
  | @skip _ _ node _ _ _ _ unknown rest ih =>
    intro m' h
    obtain ⟨out', n', rest', gathered, alike⟩ := ih _ (h.grant_report ⟨node.header.uniqueId, node.header.type, _⟩)
    exact ⟨out', n', .skip unknown rest', gathered, alike⟩
  | @leaf _ _ node _ m _ _ _ _ code known closed drafted rest ih =>
    intro m' h
    obtain ⟨requests', code', drafted', granted, same⟩ := draft_under_of_draft uses strictness known drafted
    obtain ⟨out', n', rest', gathered, alike⟩ := ih _ (granted _ _ h)
    have free := h.freshHandle_congr node.header.handleBase
    refine ⟨_, n', .leaf known closed drafted' rest', gathered, .cons ⟨rfl, rfl, fun named => ?_⟩ alike⟩
    show code (m.freshHandle _) = code' (m'.freshHandle _)
    rw [same named, free]
  | @composite _ inner _ own header _ _ connections m _ _ _ _ _ _ code known opens nested drafted named within rest
      ihWithin ihRest =>
    intro m' h
    obtain ⟨requests', code', drafted', granted, same⟩ :=
      draft_under_of_draft uses strictness (by exact known) drafted
    obtain ⟨inside', middle', within', gatheredWithin, alikeWithin⟩ := ihWithin _ (granted _ _ h)
    obtain ⟨out', n', rest', gathered, alike⟩ := ihRest _ gatheredWithin
    have free : inner = m'.freshHandle header.handleBase := by
      rw [named, h.freshHandle_congr]
    refine ⟨_, n', .composite known opens nested drafted' free within' rest', gathered, .cons ⟨rfl, rfl, ?_⟩ ?_⟩
    · intro libraries
      show code inner = code' inner
      rw [same libraries]
    · have declares : List.Forall₂ (Instruction.AlikeUnder options options')
          (declareVariables options inner (Plan.declarations ⟨registry, options, scopes⟩ own))
          (declareVariables options' inner (Plan.declarations ⟨registry, options', scopes⟩ own)) :=
        declareVariables_alikeUnder _
      exact List.rel_append (List.rel_append (List.rel_append (List.rel_append declares alikeWithin)
        (forall₂_alikeUnder_refl (connections.map (connect inner)))) (forall₂_alikeUnder_refl [.closing inner header]))
        alike

/-! ## Whole graphs -/

/-- A node is refused alike under options that are equally strict. -/
theorem Visit.refusal?_congr_options {v : Visit} {type : BuiltinType} (builtin : v.generator = type.generator)
    (strictness : options.strictExpressions = options'.strictExpressions) :
    v.refusal? ⟨registry, options, scopes⟩ handle = v.refusal? ⟨registry, options', scopes⟩ handle := by
  have alike := (type.draft_alikeUnder strictness scopes handle v.scope v.node).problem?_eq
  have rejected : v.rejection? ⟨registry, options, scopes⟩ handle =
      v.rejection? ⟨registry, options', scopes⟩ handle := by
    show Option.map _ (v.generator.draft ⟨options, scopes, handle, v.scope⟩ v.node).problem? =
      Option.map _ (v.generator.draft ⟨options', scopes, handle, v.scope⟩ v.node).problem?
    rw [builtin, alike]
  rw [refusal?, refusal?, rejected]

end Walks

/-- **What is generated under two sets of options.** -/
structure Session.AlikeUnder (options options' : Options) (s s' : Session) : Prop where
  instructions : List.Forall₂ (Instruction.AlikeUnder options options') s.body.instructions s'.body.instructions
  metadata : s.metadata.AlikeUnder options options' s'.metadata

/-- Outcomes that go together: one error, or values that do. -/
inductive SameOutcome {ε α β : Type} (same : α → β → Prop) : Except ε α → Except ε β → Prop
  | failed (e : ε) : SameOutcome same (.error e) (.error e)
  | done {a : α} {b : β} (results : same a b) : SameOutcome same (.ok a) (.ok b)

/-- What is computed from outcomes that go together is equal, if it is equal for values that do. -/
theorem SameOutcome.map_eq {ε α β γ : Type} {same : α → β → Prop} {f : α → γ} {g : β → γ} {x : Except ε α}
    {y : Except ε β} (h : SameOutcome same x y) (equal : ∀ a b, same a b → f a = g b) : x.map f = y.map g := by
  cases h with
  | failed e => rfl
  | done results => exact congrArg Except.ok (equal _ _ results)

/-- **A graph is compiled alike under options that are equally strict**: it is refused with the same error, or the same
is generated but for reports and names of the library. -/
theorem generate_alikeUnder {registry : Registry} (uses : registry.UsesBuiltins) (options options' : Options)
    (strictness : options.strictExpressions = options'.strictExpressions) (graph : ProcessGraph) :
    SameOutcome (Session.AlikeUnder options options') (generate graph registry options)
      (generate graph registry options') := by
  cases outcome : generate graph registry options with
  | error e =>
    have refused := (generate_eq_error_iff uses rootHandle).1 outcome
    have refused' : generate graph registry options' = .error e := by
      rw [generate_eq_error_iff uses rootHandle, ← refused, ← List.head?_filterMap, ← List.head?_filterMap]
      refine congrArg List.head? (List.filterMap_congr fun v member => ?_)
      obtain ⟨type, builtin⟩ := uses.exists_type member
      exact (Visit.refusal?_congr_options builtin strictness).symm
    rw [refused']
    exact .failed e
  | ok session =>
    obtain ⟨out, walk, body⟩ := generate_eq_ok_iff.1 outcome
    obtain ⟨out', n', walk', gathered, alike⟩ := walk.alikeUnder uses strictness _ (.empty graph.id)
    have generated' : generate graph registry options' = .ok ⟨⟨_⟩, n'⟩ :=
      generate_eq_ok_iff.2 ⟨out', walk', rfl⟩
    rw [generated']
    refine .done ⟨?_, gathered⟩
    rw [body]
    exact List.rel_append (List.rel_append (declareVariables_alikeUnder _) alike) (forall₂_alikeUnder_refl _)

/-! ## Reports and the library, each for itself -/

/-- What is generated, without reports. -/
def Session.silenced (s : Session) : Session := { s with metadata := { s.metadata with diagnostics := [] } }

/-- What is compiled, without reports. -/
def Compiled.silenced (c : Compiled) : Compiled := { c with diagnostics := [] }

/-- What is generated whatever the library is called: what each instruction does and for which handle, and what is
gathered besides imports and the code of helpers. -/
structure Session.Contents where
  instructions : List (InstructionKind × String)
  expressions : SortedMap (SortedMap ResolvedExpression)
  diagnostics : List Diagnostic
  workItems : NameSet
  signals : NameSet
  handles : NameSet
  helpers : List String

/-- The contents of what is generated. -/
def Session.contents (s : Session) : Session.Contents where
  instructions := s.body.instructions.map fun i => (i.kind, i.handle)
  expressions := s.metadata.expressions
  diagnostics := s.metadata.diagnostics
  workItems := s.metadata.workItems
  signals := s.metadata.signals
  handles := s.metadata.handles
  helpers := s.metadata.helpers.keys

namespace Session.AlikeUnder

variable {options options' : Options} {s s' : Session}

/-- Without reports, and with one library, the same is generated but for the reports. -/
theorem eq_silenced (h : s.AlikeUnder options options' s') (off : options'.diagnostics = false)
    (named : options.runtimeName = options'.runtimeName) : s.silenced = s' := by
  obtain ⟨⟨instructions⟩, m⟩ := s
  obtain ⟨⟨instructions'⟩, m'⟩ := s'
  obtain ⟨body, metadata⟩ := h
  have sameBody : instructions = instructions' := by
    have equal : List.Forall₂ Eq instructions instructions' := by
      refine body.imp fun i i' alike => ?_
      obtain ⟨kind, handle, code⟩ := i
      obtain ⟨kind', handle', code'⟩ := i'
      rw [Instruction.mk.injEq]
      exact ⟨alike.kind, alike.handle, alike.code named⟩
    rwa [List.forall₂_eq_eq_eq] at equal
  have sameMetadata : { m with diagnostics := [] } = m' := by
    obtain ⟨imports, helpers⟩ := metadata.library named
    have silent := metadata.silent off
    rw [metadata.processId, imports, helpers, metadata.workItems, metadata.signals, metadata.expressions,
      metadata.handles, ← silent]
  rw [sameBody, ← sameMetadata]
  rfl

/-- If reports are kept by both or by none, the contents are the same. -/
theorem contents_eq (h : s.AlikeUnder options options' s') (reports : options.diagnostics = options'.diagnostics) :
    s.contents = s'.contents := by
  obtain ⟨body, metadata⟩ := h
  have instructions : s.body.instructions.map (fun i => (i.kind, i.handle)) =
      s'.body.instructions.map fun i => (i.kind, i.handle) := by
    rw [← List.forall₂_eq_eq_eq, List.forall₂_map_left_iff, List.forall₂_map_right_iff]
    exact body.imp fun i i' alike => Prod.ext alike.kind alike.handle
  rw [contents, contents, instructions, metadata.expressions, metadata.reports reports, metadata.workItems,
    metadata.signals, metadata.handles, metadata.helpers]

end Session.AlikeUnder

/-- **Of the options only strictness changes what is compiled**, whatever tags the built-in types are bound to. Without
reports a graph is refused with the same error or the same is generated, the source text included, but for the reports.
And whatever the library is called, a graph is refused with the same error or the contents of what is generated are the
same. -/
theorem generate_indifferent (bindings : List (String × BuiltinType)) (strict : Bool) :
    (∀ graph runtime, generate graph (.ofTypes bindings) ⟨false, strict, runtime⟩ =
      (generate graph (.ofTypes bindings) ⟨true, strict, runtime⟩).map Session.silenced) ∧
    (∀ d runtime, compile d (.ofTypes bindings) ⟨false, strict, runtime⟩ =
      (compile d (.ofTypes bindings) ⟨true, strict, runtime⟩).map Compiled.silenced) ∧
    ∀ graph diagnostics runtime runtime',
      (generate graph (.ofTypes bindings) ⟨diagnostics, strict, runtime⟩).map Session.contents =
        (generate graph (.ofTypes bindings) ⟨diagnostics, strict, runtime'⟩).map Session.contents := by
  have uses := Registry.usesBuiltins_ofTypes bindings
  have quiet : ∀ graph runtime, generate graph (.ofTypes bindings) ⟨false, strict, runtime⟩ =
      (generate graph (.ofTypes bindings) ⟨true, strict, runtime⟩).map Session.silenced := by
    intro graph runtime
    have alike := generate_alikeUnder uses ⟨true, strict, runtime⟩ ⟨false, strict, runtime⟩ rfl graph
    rw [alike.map_eq (g := id) fun s s' same => same.eq_silenced rfl rfl, Except.map_id]
    rfl
  refine ⟨quiet, ?_, ?_⟩
  · intro d runtime
    unfold compile
    cases ProcessGraph.ofDefinition d with
    | error e => rfl
    | ok graph =>
      simp only [quiet]
      cases generate graph (.ofTypes bindings) ⟨true, strict, runtime⟩ with
      | error e => rfl
      | ok session => rfl
  · intro graph diagnostics runtime runtime'
    have alike := generate_alikeUnder uses ⟨diagnostics, strict, runtime⟩ ⟨diagnostics, strict, runtime'⟩ rfl graph
    exact alike.map_eq fun s s' same => same.contents_eq rfl

end ProcessCompiler
