import ProcessCompiler.Proofs.Visitors

/-!
# Registries that bind the tags in use alike

A walk asks the registry for the visitor of each node that it comes to, at whatever depth, and for nothing else. So two
registries that find the same for the types of all nodes of a graph generate the same from it, or end in the same error.
What they find is the last binding of a tag: bindings of other tags, those that a later one takes the place of, and the
order of bindings of different tags make no difference. This is so as long as the visitors that are bound do not look at
the registry themselves, which they could.

* `Registry.lastBound?`: what a tag is bound to in the end.
* `Registry.visitors`: the visitors of bindings, which may look at all that is bound.
* `Registry.DispatchOnly`: whether a visitor leaves the registry to the walk.
* `generate_of_bindings`: which bindings count.
* `ne_of_listing`: that all may count for a visitor that looks at the registry.
-/

namespace ProcessCompiler

namespace Registry

section Bindings

variable {ν : Type} {tag : String}

/-- What a tag is bound to, one after the other. -/
def boundTo (tag : String) (bindings : List (String × ν)) : List ν :=
  (bindings.filter fun b => b.1 = tag).map (·.2)

/-- What a tag is bound to in the end. -/
def lastBound? (tag : String) (bindings : List (String × ν)) : Option ν := (boundTo tag bindings).getLast?

/-- What a tag is bound to in the end is found in the map of the bindings. -/
theorem find?_ofList_eq_lastBound? (bindings : List (String × ν)) (tag : String) :
    (SortedMap.ofList bindings).find? tag = lastBound? tag bindings := by
  rw [SortedMap.find?_ofList, lastBound?, boundTo, List.getLast?_map, ← List.head?_reverse, ← List.filter_reverse,
    List.head?_filter]
  rfl

/-- A binding that is no binding of the tag, or that a later one of it takes the place of, does not count. -/
theorem lastBound?_drop {before after : List (String × ν)} {b : String × ν}
    (passed : b.1 ≠ tag ∨ tag ∈ after.map (·.1)) :
    lastBound? tag (before ++ b :: after) = lastBound? tag (before ++ after) := by
  by_cases other : b.1 = tag
  · have later : boundTo tag after ≠ [] := by
      obtain ⟨b', among, same⟩ := List.mem_map.1 (passed.resolve_left (absurd other))
      exact List.ne_nil_of_mem (List.mem_map_of_mem (List.mem_filter.2 ⟨among, decide_eq_true same⟩))
    simp only [lastBound?, boundTo, List.filter_append, List.filter_cons, List.map_append] at later ⊢
    simp only [other, decide_true, if_true, List.map_cons, List.getLast?_append, List.getLast?_cons]
    rw [List.getLast?_eq_some_getLast later]
    rfl
  · simp [lastBound?, boundTo, other]

/-- Where no tag is bound twice, the order of the bindings does not count. -/
theorem boundTo_of_perm {bindings bindings' : List (String × ν)} (distinct : (bindings.map (·.1)).Nodup)
    (reordered : bindings'.Perm bindings) (tag : String) : boundTo tag bindings' = boundTo tag bindings := by
  have bound : (boundTo tag bindings').Perm (boundTo tag bindings) := (reordered.filter _).map _
  have once : (boundTo tag bindings).length ≤ 1 := by
    have same : (bindings.filter fun b => b.1 = tag).map (·.1) = List.replicate (boundTo tag bindings).length tag := by
      refine List.eq_replicate_iff.2 ⟨by simp [boundTo], fun name among => ?_⟩
      obtain ⟨b, listed, rfl⟩ := List.mem_map.1 among
      exact of_decide_eq_true (List.mem_filter.1 listed).2
    exact List.nodup_replicate.1 (same ▸ distinct.sublist (List.filter_sublist.map _))
  match all : boundTo tag bindings with
  | [] => exact (all ▸ bound).eq_nil
  | [v] => exact (all ▸ bound).eq_singleton
  | _ :: _ :: _ => simp [all] at once

end Bindings

/-! ## Visitors that see the registry -/

section Visitors

variable {ν : Type}

/-- **The visitors of bindings**, made in order. A visitor may look at all that is bound: `behave bound v` is what the
visitor `v` does where the tags are bound so. -/
def visitors (behave : SortedMap ν → ν → Visitor) (bindings : List (String × ν)) (tag : String) : Option Visitor :=
  ((SortedMap.ofList bindings).find? tag).map (behave (.ofList bindings))

/-- **Whether a visitor leaves the registry to the walk**, which looks up the visitors of nodes there: whatever is
bound, the visitor does the same. -/
def DispatchOnly (behave : SortedMap ν → ν → Visitor) (v : ν) : Prop :=
  ∀ bound bound', behave bound v = behave bound' v

/-- Whether all visitors that the types of nodes are bound to in the end leave the registry to the walk. -/
def DispatchOnlyOn (behave : SortedMap ν → ν → Visitor) (nodes : List Node) (bindings : List (String × ν)) : Prop :=
  ∀ node ∈ nodes, ∀ v, lastBound? node.header.type bindings = some v → DispatchOnly behave v

/-- Generators leave the registry to the walk: what is registered one after the other has their visitors. -/
theorem visitor?_ofList (bindings : List (String × Generator)) :
    (ofList bindings).visitor? = visitors (fun _ => Generator.visitor) bindings := by
  funext tag
  rw [visitor?, find?, generators_ofList]
  rfl

/-- **Where the types of nodes are bound to the same visitors in the end**, and these leave the registry to the walk,
the nodes have the same visitors. -/
theorem visitors_eq_of_lastBound?_eq {behave : SortedMap ν → ν → Visitor} {nodes : List Node}
    {bindings bindings' : List (String × ν)} (left : DispatchOnlyOn behave nodes bindings)
    (same : ∀ node ∈ nodes, lastBound? node.header.type bindings = lastBound? node.header.type bindings') :
    ∀ node ∈ nodes, visitors behave bindings node.header.type = visitors behave bindings' node.header.type := by
  intro node among
  rw [visitors, visitors, find?_ofList_eq_lastBound?, find?_ofList_eq_lastBound?, ← same node among]
  cases bound : lastBound? node.header.type bindings with
  | none => rfl
  | some v => exact congrArg some (left node among v bound _ _)

end Visitors

end Registry

/-- **Of the bindings that a registry is made of, only the last one of each tag in use counts**, for visitors that
leave the registry to the walk. Where two sequences of bindings leave the tag of each node of a graph, at any depth,
bound to the same visitor or to none, the graph comes to the same, or to the same error. So a binding can be left out if
no node has its tag, or if a later one has the same tag, and bindings of different tags can change places, those of one
tag staying in their order. What is generated with registered generators is a case of this. In particular the built-in
types can be bound in any order. -/
theorem generate_of_bindings {ν : Type} (behave : SortedMap ν → ν → Visitor) (graph : ProcessGraph)
    (options : Options) :
    (∀ bindings bindings', Registry.DispatchOnlyOn behave (Node.flattenAll graph.nodes) bindings →
      (∀ node ∈ Node.flattenAll graph.nodes,
        Registry.lastBound? node.header.type bindings = Registry.lastBound? node.header.type bindings') →
      generateWith (Registry.visitors behave bindings) graph options =
        generateWith (Registry.visitors behave bindings') graph options) ∧
    (∀ before after tag v, Registry.DispatchOnlyOn behave (Node.flattenAll graph.nodes) (before ++ after) →
      ((∀ node ∈ Node.flattenAll graph.nodes, node.header.type ≠ tag) ∨ tag ∈ after.map (·.1)) →
      generateWith (Registry.visitors behave (before ++ (tag, v) :: after)) graph options =
        generateWith (Registry.visitors behave (before ++ after)) graph options) ∧
    (∀ bindings bindings', Registry.DispatchOnlyOn behave (Node.flattenAll graph.nodes) bindings →
      (∀ tag, Registry.boundTo tag bindings = Registry.boundTo tag bindings') →
      generateWith (Registry.visitors behave bindings) graph options =
        generateWith (Registry.visitors behave bindings') graph options) ∧
    (∀ bindings : List (String × Generator), generate graph (.ofList bindings) options =
      generateWith (Registry.visitors (fun _ => Generator.visitor) bindings) graph options) ∧
    (∀ types : List BuiltinType, types.Perm BuiltinType.all →
      generate graph (.ofTypes (types.map fun type => (type.tag, type))) options =
        generate graph .builtin options) := by
  refine ⟨fun bindings bindings' dispatched same => ?_, fun before after tag v dispatched passed => ?_,
    fun bindings bindings' dispatched same => ?_, fun bindings => ?_, fun types reordered => ?_⟩
  · exact generateWith_congr (Registry.visitors_eq_of_lastBound?_eq dispatched same) options
  · refine (generateWith_congr (Registry.visitors_eq_of_lastBound?_eq dispatched fun node among => ?_) options).symm
    refine (Registry.lastBound?_drop ?_).symm
    by_cases used : node.header.type = tag
    · exact .inr (used ▸ passed.resolve_left fun unused => unused node among used)
    · exact .inl (Ne.symm used)
  · refine generateWith_congr (Registry.visitors_eq_of_lastBound?_eq dispatched fun node _ => ?_) options
    exact congrArg List.getLast? (same node.header.type)
  · rw [generate_eq_generateWith, Registry.visitor?_ofList]
  · rw [Registry.builtin_eq_ofTypes, Registry.ofTypes, Registry.ofTypes, generate_eq_generateWith,
      generate_eq_generateWith, Registry.visitor?_ofList, Registry.visitor?_ofList]
    refine generateWith_congr (Registry.visitors_eq_of_lastBound?_eq (fun _ _ _ _ _ _ => rfl) fun node _ => ?_) options
    refine congrArg List.getLast? (Registry.boundTo_of_perm ?_ ((reordered.map _).map _) _)
    decide

/-- A graph with a task and a memo in a sub-process. -/
def boxedGraph : ProcessGraph where
  id := "orders"
  name := none
  version := none
  nodes := [.composite ⟨"box", "box", "sub", none, .empty⟩ ⟨1⟩
    [.plain ⟨"sum", "box:sum", "task", none, .ofList [("expr", .string "total")]⟩,
      .plain ⟨"note", "box:note", "memo", none, .empty⟩] []]
  connections := []
  scopes := ((Arena.empty.root (.ofList [("total", ⟨.number, none, none⟩)])).2.push ⟨.empty, some ⟨0⟩⟩).2

theorem forall_boxedGraph {P : String → Prop} (sub : P "sub") (task : P "task") (memo : P "memo") :
    ∀ node ∈ Node.flattenAll boxedGraph.nodes, P node.header.type :=
  List.forall_mem_cons.2 ⟨sub, List.forall_mem_cons.2 ⟨task, List.forall_mem_cons.2 ⟨memo, nofun⟩⟩⟩

/-- Visitors of built-in types; one that writes down how much there is before it; one that writes down which tags are
bound. -/
inductive BoxedVisitor where
  | builtin (type : BuiltinType)
  | counting
  | listing

/-- What the visitors do. -/
def BoxedVisitor.behave (bound : SortedMap BoxedVisitor) : BoxedVisitor → Visitor
  | .builtin type => type.generator.visitor
  | .counting => fun site node _ => do
    let before := (← get).body.size
    Emit.push ⟨.node node.header.uniqueId node.header.type, site.handle, Code.words [toString before]⟩
  | .listing => fun site node _ =>
    Emit.push ⟨.node node.header.uniqueId node.header.type, site.handle, Code.words bound.keys⟩

/-- Tasks bound twice, and a tag that is not in use. -/
def bindingsTwice (memo : BoxedVisitor) : List (String × BoxedVisitor) :=
  [("task", .builtin .milestone), ("memo", memo), ("sub", .builtin .subProcess), ("script", .listing),
    ("task", .builtin .task)]

/-- The bindings of these that count, in another order. -/
def bindingsOnce (memo : BoxedVisitor) : List (String × BoxedVisitor) :=
  [("task", .builtin .task), ("sub", .builtin .subProcess), ("memo", memo)]

theorem lastBound?_bindingsTwice (memo : BoxedVisitor) : ∀ node ∈ Node.flattenAll boxedGraph.nodes,
    Registry.lastBound? node.header.type (bindingsTwice memo) =
      Registry.lastBound? node.header.type (bindingsOnce memo) :=
  forall_boxedGraph (P := fun type =>
    Registry.lastBound? type (bindingsTwice memo) = Registry.lastBound? type (bindingsOnce memo)) rfl rfl rfl

theorem generate_of_bindings_boxed :
    (∀ node ∈ Node.flattenAll boxedGraph.nodes, Registry.lastBound? node.header.type (bindingsTwice .counting) =
      Registry.lastBound? node.header.type (bindingsOnce .counting)) ∧
      Registry.DispatchOnlyOn BoxedVisitor.behave (Node.flattenAll boxedGraph.nodes) (bindingsTwice .counting) ∧
      generateWith (Registry.visitors BoxedVisitor.behave (bindingsTwice .counting)) boxedGraph ⟨true, false, "rt"⟩ =
        generateWith (Registry.visitors BoxedVisitor.behave (bindingsOnce .counting)) boxedGraph ⟨true, false, "rt"⟩ ∧
      (generateWith (Registry.visitors BoxedVisitor.behave (bindingsOnce .counting)) boxedGraph
        ⟨true, false, "rt"⟩).toOption.map (·.body.nodeIds) = some ["box", "box:sum", "box:note"] := by
  have dispatched :
      Registry.DispatchOnlyOn BoxedVisitor.behave (Node.flattenAll boxedGraph.nodes) (bindingsTwice .counting) := by
    refine forall_boxedGraph (P := fun type => ∀ v, Registry.lastBound? type (bindingsTwice .counting) = some v →
      Registry.DispatchOnly BoxedVisitor.behave v) (fun v bound => ?_) (fun v bound => ?_) fun v bound => ?_
    · cases bound
      exact fun _ _ => rfl
    · cases bound
      exact fun _ _ => rfl
    · cases bound
      exact fun _ _ => rfl
  have alike := lastBound?_bindingsTwice .counting
  exact ⟨alike, dispatched, (generate_of_bindings _ boxedGraph _).1 _ _ dispatched alike, by decide +kernel⟩

/-- **That visitors leave the registry to the walk is needed**: one that does not, bound to a tag in use, writes down a
tag that is not. -/
theorem ne_of_listing :
    (∀ node ∈ Node.flattenAll boxedGraph.nodes, Registry.lastBound? node.header.type (bindingsTwice .listing) =
      Registry.lastBound? node.header.type (bindingsOnce .listing)) ∧
      generateWith (Registry.visitors BoxedVisitor.behave (bindingsTwice .listing)) boxedGraph .default ≠
        generateWith (Registry.visitors BoxedVisitor.behave (bindingsOnce .listing)) boxedGraph .default := by
  refine ⟨lastBound?_bindingsTwice .listing, fun same => ?_⟩
  have lengths := congrArg (fun outcome => outcome.toOption.map fun s => s.body.instructions.map (·.code.length)) same
  revert lengths
  decide +kernel

end ProcessCompiler
