import ProcessCompiler.Scope

/-!
# Resolution of names

A name is looked for in a scope, then in the scope around it, and so on. As a scope is always newer than the one around
it, the search sees the same arena all the way.

* `Arena.resolve_eq`: one step of the search.
-/

namespace ProcessCompiler

namespace Scope

variable {older scopes : List Scope} {scope : Scope} {name : String} {i : Nat}

/-- A scope that is found stands where its number says. -/
theorem exists_of_at? (h : at? scopes i = some scope) :
    ∃ newer older, scopes = newer ++ scope :: older ∧ i = older.length := by
  induction scopes with
  | nil => cases h
  | cons newest older ih =>
    rw [at?] at h
    split at h
    · next same =>
      cases h
      exact ⟨[], older, rfl, same⟩
    · obtain ⟨newer, rest, split, same⟩ := ih h
      exact ⟨newest :: newer, rest, by rw [split, List.cons_append], same⟩

/-- Scopes that are newer than where the search starts do not matter. -/
theorem resolveAt_append (newer : List Scope) (below : i < older.length) :
    resolveAt name (newer ++ older) i = resolveAt name older i := by
  induction newer with
  | nil => rfl
  | cons newest newer ih =>
    have differ : i ≠ (newer ++ older).length := by
      rw [List.length_append]
      omega
    rw [List.cons_append, resolveAt, if_neg differ, ih]

/-- Scopes that are newer than where the count starts do not matter. -/
theorem depthAt_append (newer : List Scope) (below : i < older.length) :
    depthAt (newer ++ older) i = depthAt older i := by
  induction newer with
  | nil => rfl
  | cons newest newer ih =>
    have differ : i ≠ (newer ++ older).length := by
      rw [List.length_append]
      omega
    rw [List.cons_append, depthAt, if_neg differ, ih]

end Scope

namespace Arena

variable {arena : Arena} {id : ScopeId} {scope : Scope} {name : String}

/-- **A name is declared in the scope itself, or looked for around it.** -/
theorem resolve_eq (found : arena.get? id = some scope) (newer : ∀ p ∈ scope.parent, p.index < id.index) :
    arena.resolve id name = match scope.declarations.find? name with
      | some v => some (id, v)
      | none => scope.parent.bind fun p => arena.resolve p name := by
  obtain ⟨newest, older, split, index⟩ := Scope.exists_of_at? found
  have start : id.index < (scope :: older).length := by
    rw [List.length_cons]
    omega
  rw [resolve, split, Scope.resolveAt_append newest start, Scope.resolveAt, if_pos index]
  cases scope.declarations.find? name with
  | some v => rfl
  | none =>
    cases around : scope.parent with
    | none => rfl
    | some p =>
      have below : p.index < older.length := by
        have := newer p around
        omega
      show Scope.resolveAt name older p.index = arena.resolve p name
      rw [resolve, split, ← Scope.resolveAt_append (newest ++ [scope]) below, List.append_assoc]
      rfl

/-- A scope is one deeper than the scope that encloses it. -/
theorem depth_eq (found : arena.get? id = some scope) (newer : ∀ p ∈ scope.parent, p.index < id.index) :
    arena.depth id = scope.parent.elim 0 fun p => arena.depth p + 1 := by
  obtain ⟨newest, older, split, index⟩ := Scope.exists_of_at? found
  have start : id.index < (scope :: older).length := by
    rw [List.length_cons]
    omega
  rw [depth, split, Scope.depthAt_append newest start, Scope.depthAt, if_pos index]
  cases around : scope.parent with
  | none => rfl
  | some p =>
    have below : p.index < older.length := by
      have := newer p around
      omega
    show Scope.depthAt older p.index + 1 = arena.depth p + 1
    rw [depth, split, ← Scope.depthAt_append (newest ++ [scope]) below, List.append_assoc]
    rfl

end Arena

end ProcessCompiler
