import ProcessCompiler.Proofs.Coverage
import ProcessCompiler.Proofs.Delimiters

/-!
# The reports of a definition

Which diagnostics a compilation makes, and in which order, can be read off the definition by recursion on its nodes: a
node that is left out is reported with nothing in it, and of any other node each text that is left open is reported,
before what is reported of the nodes in it.

* `BuiltinType.texts`: the texts of a node that may be left open, in the order in which they are reported.
* `ProcessDefinition.reports`: the reports of a definition.
* `diagnostics_eq_reports`: a compilation makes just these.
-/

namespace ProcessCompiler

/-! ## Texts that are left open -/

/-- Whether a text starts with the opening of an embedded expression and does not end in its closing behind that. -/
def Expression.isLeftOpen (text : String) : Bool :=
  opening.isPrefixOf text.toList && !([closing].isSuffixOf (text.toList.drop opening.length))

theorem Expression.isUnclosed_eq_isLeftOpen (text : String) : isUnclosed text = isLeftOpen text := by
  have ends : ∀ rest : List Char, [closing].isSuffixOf rest = (rest.getLast? == some closing) := by
    intro rest
    rw [Bool.eq_iff_iff, List.isSuffixOf_iff_suffix, beq_iff_eq, List.getLast?_eq_some_iff]
    exact ⟨fun ⟨before, same⟩ => ⟨before, same.symm⟩, fun ⟨before, same⟩ => ⟨before, same.symm⟩⟩
  unfold isUnclosed isLeftOpen
  rw [ends]
  cases found : inner? text with
  | some rest => simp [inner?_eq_some_iff.1 found, opening, bne]
  | none =>
    have shut : opening.isPrefixOf text.toList = false := by
      rw [Bool.eq_false_iff, ne_eq, List.isPrefixOf_iff_prefix]
      exact inner?_eq_none_iff.1 found
    rw [shut]
    rfl

namespace BuiltinType

/-- **The texts of a node that may be left open**, in the order in which they are reported: a task's expression and what
receives its result, the constraints of a split, the parameters of a work item by their names, the delay of a timer
without the blanks around it, the condition of a milestone, and of a for-each its item, its collection and what receives
its results. -/
def texts : (type : BuiltinType) → type.Attributes → List String
  | .task => fun (a : TaskAttributes) => a.expr :: a.output.toList
  | .split => fun (a : SplitAttributes) => a.constraints.map Constraint.expr
  | .workItem => fun (a : WorkItemAttributes) => a.parameters.entries.map (·.2)
  | .timer => fun (a : TimerAttributes) => [Text.trim a.delay]
  | .milestone => fun (a : MilestoneAttributes) => [a.condition]
  | .forEach => fun (a : ForEachAttributes) => a.item :: a.collection :: a.output.toList
  | .start | .finish | .join | .subProcess | .eventSubProcess => fun _ => []

/-- A text that is not stripped of delimiters is not left open. -/
theorem filter_isLeftOpen_texts (type : BuiltinType) (a : type.Attributes) :
    (type.texts a).filter Expression.isLeftOpen = (type.delimited a).filter Expression.isUnclosed := by
  have same : Expression.isLeftOpen = Expression.isUnclosed :=
    funext fun text => (Expression.isUnclosed_eq_isLeftOpen text).symm
  have embedded : ∀ raw, Expression.isUnclosed raw = true → Expression.isEmbedded raw = true := fun raw unclosed =>
    Expression.isEmbedded_iff.2 (Expression.isUnclosed_iff.1 unclosed).1
  rw [same]
  cases type with
  | workItem =>
    simp only [texts, delimited, WorkItemAttributes.embedded, List.filter_map, List.filter_filter]
    congr 1
    refine List.filter_congr fun p _ => ?_
    cases unclosed : Expression.isUnclosed p.2 with
    | true => simp [unclosed, embedded p.2 unclosed]
    | false => simp [unclosed]
  | timer =>
    simp only [texts, delimited, TimerAttributes.embedded?]
    split
    · rfl
    · next literal => simp [mt (embedded _) literal]
  | _ => rfl

end BuiltinType

/-! ## Reports -/

/-- **The reports of a node itself**: that it has no built-in type, or the texts that it leaves open. -/
def NodeHeader.reports (node : NodeHeader) : List Diagnostic :=
  match BuiltinType.ofTag? node.type with
  | none => [node.skip]
  | some type =>
    match type.readAttributes node.attributes with
    | .error _ => []
    | .ok a => ((type.texts a).filter Expression.isLeftOpen).map node.cut

mutual

/-- The reports of a node, and then those of the nodes in it if it is of a composite type. -/
def NodeDefinition.reports (parent : Option String) : NodeDefinition → List Diagnostic
  | ⟨id, type, name, attributes, _, none, _⟩ => NodeHeader.reports ⟨id, uniqueId parent id, type, name, attributes⟩
  | ⟨id, type, name, attributes, _, some nodes, _⟩ =>
    NodeHeader.reports ⟨id, uniqueId parent id, type, name, attributes⟩ ++
      if (BuiltinType.ofTag? type).any BuiltinType.isComposite then
        NodeDefinition.reportsAll (some (uniqueId parent id)) nodes
      else []

/-- The reports of nodes, in their order. -/
def NodeDefinition.reportsAll (parent : Option String) : List NodeDefinition → List Diagnostic
  | [] => []
  | definition :: rest => definition.reports parent ++ reportsAll parent rest

end

/-- **The reports of a definition.** -/
def ProcessDefinition.reports (d : ProcessDefinition) : List Diagnostic := NodeDefinition.reportsAll none d.nodes

/-! ## Walks and reports -/

/-- Reports, if the options ask for them. -/
def Options.reported (options : Options) (reports : List Diagnostic) : List Diagnostic :=
  if options.diagnostics then reports else []

theorem Options.reported_nil (options : Options) : options.reported [] = [] := ite_self []

theorem Options.reported_append (options : Options) (reports more : List Diagnostic) :
    options.reported (reports ++ more) = options.reported reports ++ options.reported more := by
  unfold reported
  split <;> rfl

/-- A node that is left out is reported. -/
theorem Plan.filterMap_diagnostic?_skipRequests (plan : Plan) (node : NodeHeader) :
    (plan.skipRequests node).filterMap Request.diagnostic? = plan.options.reported [node.skip] := by
  unfold skipRequests Options.reported
  split <;> rfl

/-- The texts that a node leaves open are reported. -/
theorem BuiltinType.Drafted.filterMap_diagnostic? {type : BuiltinType} {a : type.Attributes} {site : Site}
    {node : NodeHeader} {own? : Option ScopeId} {requests : List Request} {code : String → Code}
    (said : type.Drafted a site node own? requests code) (tagged : ofTag? node.type = some type) :
    requests.filterMap Request.diagnostic? = site.options.reported node.reports := by
  have told : node.reports = ((type.delimited a).filter Expression.isUnclosed).map node.cut := by
    rw [NodeHeader.reports, tagged]
    simp only [said.told, filter_isLeftOpen_texts]
  rw [said.asked, filterMap_diagnostic?_requests, told, Options.reported]
  unfold Site.reports
  cases site.options.diagnostics with
  | false => simp
  | true =>
    simp only [Bool.and_true, if_true]
    induction type.delimited a with
    | nil => rfl
    | cons raw raws ih =>
      rw [List.flatMap_cons, List.filter_cons, ih]
      split <;> rfl

/-- **A walk over nodes that are built makes the reports of their definitions**, behind those made before. -/
theorem Built.diagnostics_eq_reportsAll {plan : Plan} (default : plan.registry = .builtin) {parent : Option String}
    {scope : ScopeId} {definitions : List NodeDefinition} {nodes : List Node}
    (built : Built plan.scopes parent scope definitions nodes) :
    ∀ {handle : String} {m m' : Metadata} {out : List Instruction}, Walk plan handle scope nodes m out m' →
      m'.diagnostics = m.diagnostics ++ plan.options.reported (NodeDefinition.reportsAll parent definitions) := by
  induction built with
  | done =>
    intro handle m m' out walk
    cases walk
    rw [NodeDefinition.reportsAll, Options.reported_nil, List.append_nil]
  | @plain parent _ definitions _ id type _ _ _ _ _ _ _ _ ih =>
    intro handle m m' out walk
    rw [NodeDefinition.reportsAll, NodeDefinition.reports, Options.reported_append, ← List.append_assoc]
    cases walk with
    | skip unknown others =>
      have untagged : BuiltinType.ofTag? type = none :=
        Registry.ofTag?_of_find?_builtin_eq_none (default ▸ unknown)
      rw [ih others, Metadata.diagnostics_grantAll, Plan.filterMap_diagnostic?_skipRequests, NodeHeader.reports,
        untagged]
      rfl
    | leaf known closed drafted others =>
      obtain ⟨builtin, tagged, rfl⟩ : ∃ builtin, BuiltinType.ofTag? type = some builtin ∧ builtin.generator = _ :=
        Registry.exists_ofTag?_of_find?_builtin (default ▸ known)
      obtain ⟨a, said⟩ := BuiltinType.drafted_of_eq_ok drafted
      rw [ih others, Metadata.diagnostics_grantAll, said.filterMap_diagnostic? tagged]
      rfl
  | @composite parent _ own definitions inner _ _ id type _ _ declarations connections _ _ _ _ _ _ _ ihWithin ihRest =>
    intro handle m m' out walk
    rw [NodeDefinition.reportsAll, NodeDefinition.reports, Options.reported_append, Options.reported_append,
      ← List.append_assoc, ← List.append_assoc]
    cases walk with
    | skip unknown others =>
      have untagged : BuiltinType.ofTag? type = none :=
        Registry.ofTag?_of_find?_builtin_eq_none (default ▸ unknown)
      rw [ihRest others, Metadata.diagnostics_grantAll, Plan.filterMap_diagnostic?_skipRequests, NodeHeader.reports,
        untagged, Option.any_none, if_neg Bool.false_ne_true, Options.reported_nil, List.append_nil]
      rfl
    | leaf known closed drafted others =>
      obtain ⟨builtin, tagged, rfl⟩ : ∃ builtin, BuiltinType.ofTag? type = some builtin ∧ builtin.generator = _ :=
        Registry.exists_ofTag?_of_find?_builtin (default ▸ known)
      obtain ⟨a, said⟩ := BuiltinType.drafted_of_eq_ok drafted
      rw [BuiltinType.opens_generator] at closed
      rw [ihRest others, Metadata.diagnostics_grantAll, said.filterMap_diagnostic? tagged, tagged, Option.any_some,
        closed, if_neg Bool.false_ne_true, Options.reported_nil, List.append_nil]
      rfl
    | composite known opens nested drafted named within others =>
      obtain ⟨builtin, tagged, rfl⟩ : ∃ builtin, BuiltinType.ofTag? type = some builtin ∧ builtin.generator = _ :=
        Registry.exists_ofTag?_of_find?_builtin (default ▸ known)
      obtain ⟨a, said⟩ := BuiltinType.drafted_of_eq_ok drafted
      rw [BuiltinType.opens_generator] at opens
      rw [ihRest others, ihWithin within, Metadata.diagnostics_grantAll, said.filterMap_diagnostic? tagged, tagged,
        Option.any_some, opens, if_pos rfl]
      rfl

/-- **A compilation makes the reports of its definition**, each once and in their order, or none if the options do not
ask for them. -/
theorem diagnostics_eq_reports {d : ProcessDefinition} {graph : ProcessGraph} {options : Options} {session : Session}
    (accepted : ProcessGraph.ofDefinition d = .ok graph) (generated : generate graph .builtin options = .ok session) :
    session.metadata.diagnostics = if options.diagnostics then d.reports else [] := by
  obtain ⟨_, _, _, built⟩ := built_of_ofDefinition accepted
  obtain ⟨out, walk, body⟩ := generate_eq_ok_iff.1 generated
  rw [built.diagnostics_eq_reportsAll rfl walk]
  rfl

/-- A process with texts that are left open in nodes of all types that have some, and with nodes that are left out. -/
def carelessDefinition : ProcessDefinition where
  id := "orders"
  name := none
  version := none
  declarations := .ofList [("total", ⟨.number, none, none⟩), ("rows", ⟨.array, none, none⟩)]
  nodes := [
    ⟨"old", "legacy", none, .empty, none, some [⟨"in", "script", none, .empty, none, none, []⟩], []⟩,
    ⟨"sum", "task", none, .ofList [("expr", .string "#\x7btotal;"), ("output", .string "#\x7btotal ")], none,
      some [⟨"note", "script", none, .empty, none, none, []⟩], []⟩,
    ⟨"ask", "work-item", none, .ofList [("workName", .string "mail"), ("parameters", .object
      [("body", .string "#\x7btotal "), ("by", .string "total"), ("to", .string "#\x7brows\x7d")])], none, none, []⟩,
    ⟨"each", "for-each", none, .ofList [("collection", .string "#\x7brows "), ("item", .string "#\x7brow ")],
      some (.ofList [("row", ⟨.object, none, none⟩)]), some [
        ⟨"wait", "timer", none, .ofList [("delay", .string " #\x7btotal) ")], none, none, []⟩,
        ⟨"run", "script", none, .empty, none, none, []⟩], []⟩,
    ⟨"done", "milestone", none, .ofList [("condition", .string "total\x7d")], none, none, []⟩]
  connections := []

/-- The reports of the careless process. -/
def carelessReports : List Diagnostic :=
  [⟨"old", "legacy", .unsupportedType⟩, ⟨"sum", "task", .unclosedExpression "#\x7btotal;"⟩,
    ⟨"sum", "task", .unclosedExpression "#\x7btotal "⟩, ⟨"ask", "work-item", .unclosedExpression "#\x7btotal "⟩,
    ⟨"each", "for-each", .unclosedExpression "#\x7brow "⟩, ⟨"each", "for-each", .unclosedExpression "#\x7brows "⟩,
    ⟨"each:wait", "timer", .unclosedExpression "#\x7btotal)"⟩, ⟨"each:run", "script", .unsupportedType⟩]

theorem diagnostics_eq_reports_careless : ∃ graph session,
    ProcessGraph.ofDefinition carelessDefinition = .ok graph ∧
      generate graph .builtin { Options.default with diagnostics := true } = .ok session ∧
      session.metadata.diagnostics = carelessDefinition.reports ∧ session.metadata.diagnostics = carelessReports := by
  have reported : (carelessDefinition.session? .builtin { Options.default with diagnostics := true }).map
      (fun session => session.metadata.diagnostics) = some carelessReports := by decide +kernel
  obtain ⟨session, found, reports⟩ := Option.map_eq_some_iff.1 reported
  obtain ⟨graph, accepted, generated⟩ := ProcessDefinition.session?_eq_some_iff.1 found
  exact ⟨graph, session, accepted, generated, diagnostics_eq_reports accepted generated, reports⟩

end ProcessCompiler
