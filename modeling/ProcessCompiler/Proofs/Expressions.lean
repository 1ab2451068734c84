import ProcessCompiler.Proofs.Instructions

/-!
# Expressions that are kept

An expression is kept under its node and attribute, and of several for one attribute the last counts.

* `Metadata.expression?_grantAll`: what is kept after requests.
* `BuiltinType.expression?_requests`: what is kept after those of a node.
-/

namespace ProcessCompiler

/-- The node, the attribute and the expression of a request to keep one. -/
def Request.record? : Request → Option (String × String × ResolvedExpression)
  | .expression node key e => some (node, key, e)
  | _ => none

namespace Metadata

variable {m : Metadata} {unique key : String}

theorem expression?_grant_of_none {r : Request} (h : r.record? = none) :
    (m.grant r).expression? unique key = m.expression? unique key := by
  cases r with
  | expression node key e => cases h
  | helper name code => rw [grant, addHelper_eq, expression?, expression?]
  | _ => rfl

/-- **The last of the requests for an attribute counts**, and without one what was kept before. -/
theorem expression?_grantAll (m : Metadata) (requests : List Request) (unique key : String) :
    (m.grantAll requests).expression? unique key =
      (((requests.filterMap Request.record?).reverse.find? fun x => x.1 == unique && x.2.1 == key).map (·.2.2)).or
        (m.expression? unique key) := by
  induction requests generalizing m with
  | nil => rfl
  | cons r requests ih =>
    rw [grantAll_cons, ih]
    cases recorded : r.record? with
    | none => rw [expression?_grant_of_none recorded, List.filterMap_cons_none recorded]
    | some x =>
      obtain ⟨node, own, e⟩ := x
      have kept : (m.grant r).expression? unique key =
          if unique = node ∧ key = own then some e else m.expression? unique key := by
        cases r with
        | expression node' key' e' =>
          cases recorded
          exact expression?_record m node own unique key e
        | _ => cases recorded
      rw [List.filterMap_cons_some recorded, List.reverse_cons, List.find?_append, kept]
      cases (requests.filterMap Request.record?).reverse.find? fun x => x.1 == unique && x.2.1 == key with
      | some later => rfl
      | none =>
        by_cases same : unique = node ∧ key = own
        · obtain ⟨rfl, rfl⟩ := same
          simp
        · have other : (node == unique && own == key) = false := by
            rw [Bool.and_eq_false_iff, beq_eq_false_iff_ne, beq_eq_false_iff_ne]
            exact (Classical.not_and_iff_not_or_not.1 same).imp Ne.symm Ne.symm
          simp [same, other]

/-- A node that is skipped keeps no expression. -/
theorem expression?_skipRequests (m : Metadata) (plan : Plan) (node : NodeHeader) :
    (m.grantAll (plan.skipRequests node)).expression? unique key = m.expression? unique key := by
  rw [expression?_grantAll]
  unfold Plan.skipRequests
  split <;> rfl

end Metadata

namespace BuiltinType

/-- A node of a built-in type asks to keep its expressions. -/
theorem filterMap_record?_requests (type : BuiltinType) (a : type.Attributes) (site : Site) (node : NodeHeader) :
    (type.requests a site node).filterMap Request.record? =
      (type.expressions a).map fun x => (node.uniqueId, x.1, site.resolved x.2) := by
  have skips : ∀ d, Request.record? (.diagnostic d) = none := fun _ => rfl
  have resolved : (type.resolutions a site node).filterMap Request.record? =
      (type.expressions a).map fun x => (node.uniqueId, x.1, site.resolved x.2) := by
    rw [filterMap_resolutions skips]
    exact congrFun List.filterMap_eq_map' _
  cases type <;> simp only [requests, List.filterMap_cons, List.filterMap_append, resolved, filterMap_cuts skips,
    filterMap_flatMap_cuts skips, builderRequest, helperRequest, Request.record?, List.filterMap_nil, List.append_nil,
    List.nil_append]
  case start => obtain ⟨_ | signal⟩ := a <;> rfl
  case split => split <;> exact List.append_nil _
  all_goals rfl

/-- The requests of a node leave the expressions of other nodes as they are. -/
theorem expression?_requests_of_ne {type : BuiltinType} {a : type.Attributes} {site : Site} {node : NodeHeader}
    {m : Metadata} {unique key : String} (other : unique ≠ node.uniqueId) :
    (m.grantAll (type.requests a site node)).expression? unique key = m.expression? unique key := by
  rw [Metadata.expression?_grantAll, filterMap_record?_requests, ← List.map_reverse, List.find?_map]
  have differs : ∀ x : String × String, (node.uniqueId == unique && x.1 == key) = false := by
    intro x
    rw [beq_eq_false_iff_ne.2 (Ne.symm other)]
    rfl
  have nowhere : (type.expressions a).reverse.find? (fun _ => false) = none := List.find?_eq_none.2 (by simp)
  simp only [Function.comp_def, differs, nowhere]
  rfl

/-- What is kept after the requests of a node: of its own attributes the last expression, of others what was kept. -/
theorem expression?_requests {type : BuiltinType} {a : type.Attributes} {site : Site} {node : NodeHeader}
    {m : Metadata} {unique key : String} {e : ResolvedExpression}
    (kept : (m.grantAll (type.requests a site node)).expression? unique key = some e) :
    m.expression? unique key = some e ∨ unique = node.uniqueId ∧ ∃ raw, e = site.resolved raw ∧
      (type.expressions a).reverse.find? (fun x => x.1 == key) = some (key, raw) := by
  by_cases own : unique = node.uniqueId
  · subst own
    rw [Metadata.expression?_grantAll, filterMap_record?_requests, ← List.map_reverse, List.find?_map,
      Option.map_map] at kept
    simp only [Function.comp_def, beq_self_eq_true, Bool.true_and] at kept
    cases found : (type.expressions a).reverse.find? fun x => x.1 == key with
    | none =>
      rw [found] at kept
      exact .inl kept
    | some x =>
      rw [found] at kept
      cases kept
      obtain ⟨other, raw⟩ := x
      have same := List.find?_some found
      rw [show other = key from eq_of_beq same]
      exact .inr ⟨rfl, raw, rfl, rfl⟩
  · rw [expression?_requests_of_ne own] at kept
    exact .inl kept

end BuiltinType

end ProcessCompiler
