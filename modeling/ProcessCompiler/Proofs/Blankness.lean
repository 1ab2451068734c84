import Mathlib.Data.List.TakeWhile
import ProcessCompiler.Proofs.Delimiters
import ProcessCompiler.Proofs.Retention

/-!
# Expressions that must not be blank

The expression of a task, the condition of a milestone, the collection of a for-each and a delay may not be blank. That
is checked before delimiters are cut off, so a text that has nothing but blanks between its delimiters passes.

* `Text.isBlankText_iff`: a text is blank if all its characters are.
* `Expression.Hollow`: nothing but blanks between the delimiters.
* `BuiltinType.filled_of_draft`: what is checked.
* `texts_of_generate`: which expressions are blank in what is generated.
-/

namespace ProcessCompiler

/-! ## Blank texts -/

/-- A text is blank if all its characters are. -/
theorem Text.isBlankText_iff (text : String) : isBlankText text = true ↔ ∀ c ∈ text.toList, isBlank c = true := by
  have whole : isBlankText text = true ↔ trimChars text.toList = [] := by
    rw [isBlankText, String.isEmpty_iff, trim, ← String.toList_inj, String.toList_ofList]
    rfl
  rw [whole, trimChars, trimEnd, List.reverse_eq_nil_iff, List.dropWhile_eq_nil_iff]
  constructor
  · intro all c member
    have split := List.takeWhile_append_dropWhile (p := isBlank) (l := text.toList)
    rw [← split] at member
    rcases List.mem_append.1 member with before | behind
    · exact List.mem_takeWhile_imp before
    · exact all c (List.mem_reverse.2 behind)
  · intro all c member
    exact all c ((List.dropWhile_sublist isBlank).subset (List.mem_reverse.1 member))

namespace Expression

/-- **A text with nothing but blanks between the opening of an expression and the last character.** -/
def Hollow (text : String) : Prop :=
  ∃ blanks last, text.toList = opening ++ blanks ++ last ∧ (∀ c ∈ blanks, Text.isBlank c = true) ∧ last.length ≤ 1

/-- What opens as an expression is hollow if nothing but blanks is left of it. -/
theorem hollow_iff_of_inner? {text : String} {rest : List Char} (inner : inner? text = some rest) :
    Hollow text ↔ ∀ c ∈ rest.dropLast, Text.isBlank c = true := by
  have chars := inner?_eq_some_iff.1 inner
  constructor
  · rintro ⟨blanks, last, same, all, short⟩
    rw [chars, List.append_assoc] at same
    rw [List.append_cancel_left same]
    intro c member
    match last with
    | [] =>
      rw [List.append_nil] at member
      exact all c ((List.dropLast_sublist _).subset member)
    | [d] =>
      rw [List.dropLast_concat] at member
      exact all c member
  · intro all
    refine ⟨rest.dropLast, rest.getLast?.toList, ?_, all, by cases rest.getLast? <;> simp⟩
    rw [chars, List.append_assoc]
    rcases List.eq_nil_or_concat rest with rfl | ⟨before, d, rfl⟩
    · rfl
    · simp

/-- **A text that is not blank becomes blank without delimiters if it is hollow.** -/
theorem exists_solid_strip_iff {text : String} (filled : Text.isBlankText text = false) :
    (∃ c ∈ (strip text).toList, Text.isBlank c = false) ↔ ¬ Hollow text := by
  cases inner : inner? text with
  | some rest =>
    rw [hollow_iff_of_inner? inner, strip, inner]
    simp
  | none =>
    have shut : ¬ Hollow text := by
      rintro ⟨blanks, last, same, _⟩
      rw [List.append_assoc] at same
      exact inner?_eq_none_iff.1 inner ⟨_, same.symm⟩
    have solid : ∃ c ∈ text.toList, Text.isBlank c = false := by
      by_contra none
      refine absurd ((Text.isBlankText_iff text).2 fun c member => ?_) (Bool.eq_false_iff.1 filled)
      exact eq_true_of_ne_false fun solid => none ⟨c, member, solid⟩
    rw [strip, inner]
    exact iff_of_true solid shut

end Expression

/-! ## Checks -/

/-- A draft that first reads the attributes and then checks a text among them finds the text filled. -/
theorem Draft.filled_of_attributes_bind (type : BuiltinType) (text : type.Attributes → String) {β : Type}
    {node : NodeHeader} {key : String} {next : type.Attributes → Unit → Draft β} {requests : List Request} {b : β}
    (drafted : (attributes type node >>= fun a => requireText key (text a) >>= next a) = ⟨requests, .ok b⟩)
    {a : type.Attributes} (told : type.readAttributes node.attributes = .ok a) :
    Text.isBlankText (text a) = false := by
  obtain ⟨a', told', rest⟩ := of_attributes_bind type drafted
  obtain rfl : a = a' := Except.ok.inj (told.symm.trans told')
  obtain ⟨_, _, _, checked, _⟩ := bind_eq_ok_iff.1 rest
  exact (requireText_eq_ok_iff.1 checked).2

namespace BuiltinType

/-- Whether the expression of a node of a type must not be blank. -/
def requiresText : BuiltinType → Bool
  | .task | .timer | .milestone | .forEach => true
  | _ => false

/-- **An expression that must not be blank is checked** as it is written, a delay without the blanks around it. -/
theorem filled_of_draft {type : BuiltinType} {site : Site} {node : Node} {requests : List Request}
    {code : String → Code} (requires : type.requiresText = true)
    (drafted : type.generator.draft site node = ⟨requests, .ok code⟩) {a : type.Attributes}
    (told : type.readAttributes node.header.attributes = .ok a) :
    ∀ x ∈ type.expressions a, Text.isBlankText x.2 = false := by
  cases type with
  | task => exact List.forall_mem_singleton.2 (Draft.filled_of_attributes_bind .task TaskAttributes.expr drafted told)
  | milestone =>
    have filled := Draft.filled_of_attributes_bind .milestone MilestoneAttributes.condition drafted told
    exact List.forall_mem_singleton.2 filled
  | timer =>
    have filled := Draft.filled_of_attributes_bind .timer (fun a => Text.trim (TimerAttributes.delay a)) drafted told
    intro x listed
    obtain ⟨delay, embedded, rfl⟩ := List.mem_map.1 listed
    have embedded := Option.mem_toList.1 embedded
    unfold TimerAttributes.embedded? at embedded
    split at embedded
    · exact Option.some.inj embedded ▸ filled
    · cases embedded
  | forEach =>
    obtain ⟨header, own, children, connections, rfl⟩ := Generator.composite_of_draft_eq_ok rfl drafted
    have filled := Draft.filled_of_attributes_bind .forEach ForEachAttributes.collection drafted told
    exact List.forall_mem_singleton.2 filled
  | _ => cases requires

end BuiltinType

/-! ## Whole graphs -/

/-- Nodes whose expression must not be blank. -/
def NodeHeader.RequiresText (node : NodeHeader) : Prop := node.type ∈ ["task", "milestone", "for-each", "timer"]

theorem NodeHeader.RequiresText.requiresText {node : NodeHeader} {type : BuiltinType} (requires : node.RequiresText)
    (tagged : BuiltinType.ofTag? node.type = some type) : type.requiresText = true := by
  rw [RequiresText, ← BuiltinType.ofTag?_eq_some_iff.1 tagged] at requires
  revert requires
  cases type <;> decide

section Graphs

variable {d : ProcessDefinition} {graph : ProcessGraph} {options : Options} {session : Session}

/-- **Which expressions are blank in what is generated.** A node whose expression must not be blank constructs the
expression without its delimiters, and nothing else, and the expression is kept as it is constructed. Something that is
not blank is left of it, exactly if there is something between the delimiters. -/
theorem texts_of_generate (accepted : ProcessGraph.ofDefinition d = .ok graph)
    (generated : generate graph .builtin options = .ok session) :
    ∀ v ∈ graph.visits .builtin, v.node.header.RequiresText →
      ∃ (type : BuiltinType) (a : type.Attributes) (resolved : String → ResolvedExpression),
        BuiltinType.ofTag? v.node.header.type = some type ∧ type.readAttributes v.node.header.attributes = .ok a ∧
        (v.node.header.uniqueId, (type.expressions a).map fun x => (resolved x.2).written) ∈
          session.body.constructions ∧
        ∀ x ∈ type.expressions a,
          session.metadata.expression? v.node.header.uniqueId x.1 = some (resolved x.2) ∧
          (resolved x.2).text = Expression.strip x.2 ∧
          ((∃ c ∈ (resolved x.2).text.toList, Text.isBlank c = false) ↔ ¬ Expression.Hollow x.2) := by
  intro v member requires
  obtain ⟨_, _, _, _, known⟩ := ProcessGraph.mem_visits_iff.1 member
  obtain ⟨type, tagged, builtin⟩ := Registry.exists_ofTag?_of_find?_builtin known
  obtain ⟨requests, code, drafted⟩ := exists_draft_of_mem_visits Registry.usesBuiltins_builtin generated member
  rw [← builtin] at drafted
  obtain ⟨a, said⟩ := BuiltinType.drafted_of_eq_ok drafted
  have filled := BuiltinType.filled_of_draft (requires.requiresText tagged) drafted said.told
  obtain ⟨site, compiled⟩ : ∃ site, site = Plan.site (graph.plan options) rootHandle v.scope := ⟨_, rfl⟩
  have resolved : v.resolved (graph.plan options) = (type.expressions a).map fun x => (x.1, site.resolved x.2) := by
    rw [compiled]
    exact NodeHeader.resolved_eq tagged said.told
  have distinct : v.node.header.DistinctTargets := by
    intro split
    cases tagged.symm.trans split
    cases requires.requiresText tagged
  have constructed : (v.node.header.uniqueId, (type.expressions a).map fun x => (site.resolved x.2).written) ∈
      session.body.constructions := by
    rw [constructions_of_generate generated]
    refine List.mem_map.2 ⟨v, member, ?_⟩
    rw [resolved, List.map_map]
    rfl
  refine ⟨type, a, site.resolved, tagged, said.told, constructed, fun x listed => ⟨?_, rfl, ?_⟩⟩
  · have own : (x.1, site.resolved x.2) ∈ v.resolved (graph.plan options) := by
      rw [resolved]
      exact List.mem_map.2 ⟨x, listed, rfl⟩
    exact expression?_of_distinctTargets accepted generated member distinct own
  · exact Expression.exists_solid_strip_iff (filled x listed)

end Graphs

/-- A process with a task whose expression has only a blank between its delimiters. -/
def hollowDefinition : ProcessDefinition where
  id := "orders"
  name := none
  version := none
  declarations := .empty
  nodes := [⟨"sum", "task", none, .ofList [("expr", .string "#\x7b \x7d")], none, none, []⟩]
  connections := []

/-- The hollow process is generated, with a blank expression. -/
theorem exists_session_of_hollowDefinition : ∃ graph session v x,
    ProcessGraph.ofDefinition hollowDefinition = .ok graph ∧ generate graph .builtin .default = .ok session ∧
      v ∈ graph.visits .builtin ∧ v.node.header.RequiresText ∧ x ∈ v.resolved (graph.plan .default) ∧
      x.2.text = " " := by
  have outcome : (ProcessGraph.ofDefinition hollowDefinition).toOption.map (fun graph =>
      ((generate graph .builtin .default).toOption.isSome, (graph.visits .builtin).map fun v =>
        (v.node.header.type, (v.resolved (graph.plan .default)).map fun x => x.2.text))) =
          some (true, [("task", [" "])]) := by decide +kernel
  obtain ⟨graph, accepted, same⟩ := Option.map_eq_some_iff.1 outcome
  obtain ⟨session, generated⟩ := Option.isSome_iff_exists.1 (congrArg Prod.fst same)
  obtain ⟨v, visits, found⟩ := List.map_eq_singleton_iff.1 (congrArg Prod.snd same)
  obtain ⟨x, resolved, text⟩ := List.map_eq_singleton_iff.1 (congrArg Prod.snd found)
  have requires : v.node.header.RequiresText := by
    rw [NodeHeader.RequiresText, show v.node.header.type = "task" from congrArg Prod.fst found]
    exact List.mem_cons_self
  exact ⟨graph, session, v, x, Except.toOption_eq_some_iff.1 accepted, Except.toOption_eq_some_iff.1 generated,
    by simp [visits], requires, by simp [resolved], text⟩

/-- The blank expression is kept as it is constructed: it has only a blank between its delimiters. -/
theorem texts_of_generate_hollow : ∃ graph session v,
    ProcessGraph.ofDefinition hollowDefinition = .ok graph ∧ generate graph .builtin .default = .ok session ∧
      v ∈ graph.visits .builtin ∧ v.node.header.RequiresText ∧
      ∃ (type : BuiltinType) (a : type.Attributes) (resolved : String → ResolvedExpression),
        type.readAttributes v.node.header.attributes = .ok a ∧ ∀ x ∈ type.expressions a,
          session.metadata.expression? v.node.header.uniqueId x.1 = some (resolved x.2) ∧
          ((∃ c ∈ (resolved x.2).text.toList, Text.isBlank c = false) ↔ ¬ Expression.Hollow x.2) := by
  obtain ⟨graph, session, v, _, accepted, generated, member, requires, _⟩ := exists_session_of_hollowDefinition
  obtain ⟨type, a, resolved, _, told, _, texts⟩ := texts_of_generate accepted generated v member requires
  refine ⟨graph, session, v, accepted, generated, member, requires, type, a, resolved, told, fun x listed => ?_⟩
  obtain ⟨kept, _, filled⟩ := texts x listed
  exact ⟨kept, filled⟩

/-- The expression of a task may be blank in what is generated. -/
theorem blank_in_task : ¬ ∀ (d : ProcessDefinition) (graph : ProcessGraph) (options : Options) (session : Session),
    ProcessGraph.ofDefinition d = .ok graph → generate graph .builtin options = .ok session →
      ∀ v ∈ graph.visits .builtin, v.node.header.RequiresText →
        (∀ key e, session.metadata.expression? v.node.header.uniqueId key = some e →
          ∃ c ∈ e.text.toList, Text.isBlank c = false) ∧
        ∀ found, (v.node.header.uniqueId, found) ∈ session.body.constructions →
          ∀ x ∈ found, ∃ c ∈ x.1.toList, Text.isBlank c = false := by
  intro filled
  obtain ⟨graph, session, v, x, accepted, generated, member, requires, listed, text⟩ :=
    exists_session_of_hollowDefinition
  have constructed : (v.node.header.uniqueId, (v.resolved (graph.plan .default)).map fun x => x.2.written) ∈
      session.body.constructions := by
    rw [constructions_of_generate generated]
    exact List.mem_map.2 ⟨v, member, rfl⟩
  obtain ⟨c, within, solid⟩ := (filled _ _ _ _ accepted generated v member requires).2 _ constructed _
    (List.mem_map_of_mem listed)
  have written : x.2.written.1.toList = [' '] := congrArg String.toList text
  rw [written] at within
  obtain rfl : c = ' ' := List.mem_singleton.1 within
  exact absurd solid (by decide)

end ProcessCompiler
