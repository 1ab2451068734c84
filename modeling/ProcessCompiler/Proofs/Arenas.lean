import ProcessCompiler.Proofs.Construction
import ProcessCompiler.Proofs.Resolution

/-!
# Runs of operations on an arena

An arena is filled by operations that add a scope at the outermost level or inside a scope that is already there. So
whatever the operations are, a scope is newer than the one that encloses it, the way out of a scope ends, and nothing
that is added later changes what a scope answers.

* `Arena.after_cases`: what one operation does.
* `Arena.descends_afterAll`: scopes are newer than those that enclose them, after any operations.
* `Arena.Chain`: the way out of a scope.
* `Arena.answers_of_afterAll`: what a scope answers, after any operations and after any more of them.
-/

namespace ProcessCompiler

namespace Arena

/-! ## Operations -/

/-- What fills an arena: a scope that nothing encloses, or a scope inside another one. -/
inductive Operation where
  | root (declarations : SortedMap Variable)
  | child (parent : ScopeId) (declarations : SortedMap Variable)

/-- Performs an operation, which is refused if it is about a scope that the arena does not have. -/
def perform (arena : Arena) : Operation → Except ForeignScope (ScopeId × Arena)
  | .root declarations => .ok (arena.root declarations)
  | .child parent declarations => arena.child parent declarations

/-- The arena after an operation; one that is refused leaves the arena as it was. -/
def after (arena : Arena) (operation : Operation) : Arena :=
  match arena.perform operation with
  | .ok (_, later) => later
  | .error _ => arena

/-- The arena after one operation and then another. -/
def afterAll (arena : Arena) (operations : List Operation) : Arena := operations.foldl after arena

/-- A scope that is newer than the one that encloses it, for every scope of an arena. -/
def Descends (arena : Arena) : Prop :=
  ∀ id scope, arena.get? id = some scope → ∀ enclosing ∈ scope.parent, enclosing.index < id.index

section Steps

variable {arena : Arena} {id parent : ScopeId} {scope found : Scope} {declarations : SortedMap Variable}

/-- A scope inside one that the arena does not have is refused. -/
theorem perform_child_of_foreign (foreign : arena.has parent = false) :
    arena.perform (.child parent declarations) = .error (.parent parent) ∧
      arena.after (.child parent declarations) = arena := by
  have refused : arena.perform (.child parent declarations) = .error (.parent parent) := by
    rw [perform, child, foreign, if_neg Bool.false_ne_true]
  exact ⟨refused, by rw [after, refused]⟩

/-- **An operation changes nothing, or adds one scope inside a scope that is already there.** -/
theorem after_cases (arena : Arena) (operation : Operation) :
    arena.after operation = arena ∨
      ∃ scope, (∀ enclosing ∈ scope.parent, arena.has enclosing) ∧ arena.after operation = (arena.push scope).2 := by
  cases operation with
  | root declarations => exact .inr ⟨⟨declarations, none⟩, by simp, rfl⟩
  | child parent declarations =>
    cases own : arena.has parent with
    | false => exact .inl (perform_child_of_foreign own).2
    | true =>
      refine .inr ⟨⟨declarations, some parent⟩, ?_, ?_⟩
      · rintro enclosing ⟨⟩
        exact own
      · rw [after, perform, child, own, if_pos rfl]

/-- A scope of an arena after an addition is the one that was added or one that was there. -/
theorem get?_push_cases (h : (arena.push scope).2.get? id = some found) :
    id.index = arena.size ∧ found = scope ∨ arena.get? id = some found := by
  rw [get?, push, Scope.at?] at h
  split at h
  · next same => exact .inl ⟨same, (Option.some.inj h).symm⟩
  · exact .inr h

/-- One operation keeps scopes newer than those that enclose them. -/
theorem Descends.after (descends : arena.Descends) (operation : Operation) : (arena.after operation).Descends := by
  rcases after_cases arena operation with same | ⟨scope, own, same⟩
  · rwa [same]
  · rw [same]
    intro id found h enclosing around
    rcases get?_push_cases h with ⟨index, rfl⟩ | old
    · exact index ▸ index_lt_size (own enclosing around)
    · exact descends id found old enclosing around

theorem extends_after (arena : Arena) (operation : Operation) : (arena.after operation).Extends arena := by
  rcases after_cases arena operation with same | ⟨scope, _, same⟩ <;> rw [same]
  · exact .refl arena
  · exact extends_push arena scope

end Steps

/-- Operations only add scopes. -/
theorem extends_afterAll (arena : Arena) (operations : List Operation) :
    (arena.afterAll operations).Extends arena := by
  induction operations generalizing arena with
  | nil => exact .refl arena
  | cons operation operations ih => exact (ih (arena.after operation)).trans (extends_after arena operation)

theorem Descends.afterAll {arena : Arena} (descends : arena.Descends) (operations : List Operation) :
    (arena.afterAll operations).Descends := by
  induction operations generalizing arena with
  | nil => exact descends
  | cons operation operations ih => exact ih (descends.after operation)

/-- **Whatever is done to an arena, its scopes are newer than those that enclose them.** -/
theorem descends_afterAll (operations : List Operation) : (empty.afterAll operations).Descends :=
  Descends.afterAll (fun _ _ found => by cases found) operations

/-! ## The way out of a scope -/

/-- **The way out of a scope**: the scope, the one that encloses it, and so on to one that nothing encloses. -/
inductive Chain (arena : Arena) : ScopeId → List ScopeId → Prop
  | outermost {id : ScopeId} {scope : Scope} (found : arena.get? id = some scope) (free : scope.parent = none) :
      Chain arena id [id]
  | inner {id enclosing : ScopeId} {scope : Scope} {above : List ScopeId} (found : arena.get? id = some scope)
      (nested : scope.parent = some enclosing) (around : Chain arena enclosing above) : Chain arena id (id :: above)

namespace Chain

variable {arena : Arena} {id : ScopeId} {ids others : List ScopeId} {name : String}

/-- There is one way out of a scope. -/
theorem unique (h : arena.Chain id ids) (h' : arena.Chain id others) : others = ids := by
  induction h generalizing others with
  | outermost found free =>
    cases h' with
    | outermost => rfl
    | inner found' nested =>
      cases found.symm.trans found'
      cases free.symm.trans nested
  | inner found nested around ih =>
    cases h' with
    | outermost found' free =>
      cases found.symm.trans found'
      cases nested.symm.trans free
    | inner found' nested' around' =>
      cases found.symm.trans found'
      cases nested.symm.trans nested'
      rw [ih around']

theorem index_le (h : arena.Chain id ids) (descends : arena.Descends) : ∀ outer ∈ ids, outer.index ≤ id.index := by
  induction h with
  | outermost => simp
  | inner found nested around ih =>
    intro outer member
    rcases List.mem_cons.1 member with rfl | member
    · exact Nat.le_refl _
    · exact Nat.le_trans (ih outer member) (Nat.le_of_lt (descends _ _ found _ nested))

/-- The way out leads to older and older scopes. -/
theorem pairwise (h : arena.Chain id ids) (descends : arena.Descends) :
    ids.Pairwise fun inner outer => outer.index < inner.index := by
  induction h with
  | outermost => exact List.pairwise_singleton _ _
  | inner found nested around ih =>
    refine List.pairwise_cons.2 ⟨fun outer member => ?_, ih⟩
    exact Nat.lt_of_le_of_lt (around.index_le descends outer member) (descends _ _ found _ nested)

/-- **A name is resolved to the first scope on the way out that declares it.** -/
theorem resolve_eq (h : arena.Chain id ids) (descends : arena.Descends) (name : String) :
    arena.resolve id name = ids.findSome? fun scope => (arena.declared? scope name).map fun v => (scope, v) := by
  induction h with
  | outermost found free =>
    rw [Arena.resolve_eq found (descends _ _ found), List.findSome?_singleton, declared?, found, Option.bind_some]
    split
    · next declared => rw [declared]; rfl
    · next absent => rw [absent, free]; rfl
  | inner found nested around ih =>
    rw [Arena.resolve_eq found (descends _ _ found), List.findSome?_cons, ← ih, declared?, found, Option.bind_some]
    split
    · next declared => rw [declared]; rfl
    · next absent => rw [absent, nested]; rfl

/-- **A scope is as deep as there are scopes around it.** -/
theorem depth_eq (h : arena.Chain id ids) (descends : arena.Descends) : arena.depth id = ids.tail.length := by
  induction h with
  | outermost found free => rw [Arena.depth_eq found (descends _ _ found), free]; rfl
  | inner found nested around ih =>
    rw [Arena.depth_eq found (descends _ _ found), nested, Option.elim_some, ih, List.tail_cons]
    cases around <;> rfl

end Chain

/-- **The way out of a scope ends**, in every arena whose scopes are newer than those that enclose them. -/
theorem exists_chain {arena : Arena} (descends : arena.Descends) {id : ScopeId} (has : arena.has id) :
    ∃ ids, arena.Chain id ids := by
  obtain ⟨scope, found⟩ := exists_get?_of_has has
  cases around : scope.parent with
  | none => exact ⟨[id], .outermost found around⟩
  | some enclosing =>
    have newer : enclosing.index < id.index := descends id scope found enclosing around
    have own : arena.has enclosing := decide_eq_true (Nat.lt_trans newer (index_lt_size has))
    obtain ⟨ids, above⟩ := exists_chain descends own
    exact ⟨id :: ids, .inner found around above⟩
termination_by id.index

/-! ## Answers -/

/-- **What a scope answers**, given the scopes that enclose it from the inside out. -/
structure Answers (arena : Arena) (id : ScopeId) (around : List ScopeId) : Prop where
  chain_iff : ∀ ids, arena.Chain id ids ↔ ids = id :: around
  older : (id :: around).Pairwise fun inner outer => outer.index < inner.index
  resolve_iff : ∀ name declaredIn v, arena.resolve id name = some (declaredIn, v) ↔
    ∃ before after, id :: around = before ++ declaredIn :: after ∧ arena.declared? declaredIn name = some v ∧
      ∀ scope ∈ before, arena.declared? scope name = none
  unresolved_iff : ∀ name, arena.resolve id name = none ↔ ∀ scope ∈ id :: around, arena.declared? scope name = none
  lookup_eq : ∀ name, arena.lookup id name = (arena.resolve id name).map Prod.snd
  depth_eq : arena.depth id = around.length

/-- A scope answers in a later arena as in an earlier one. -/
structure Keeps (later arena : Arena) (id : ScopeId) : Prop where
  get : later.get id = arena.get id
  parent : later.parent? id = arena.parent? id
  declared : ∀ name, later.declared? id name = arena.declared? id name
  lookup : ∀ name, later.lookup id name = arena.lookup id name
  resolve : ∀ name, later.resolve id name = arena.resolve id name
  depth : later.depth id = arena.depth id

theorem Chain.answers {arena : Arena} {id : ScopeId} {ids : List ScopeId} (h : arena.Chain id ids)
    (descends : arena.Descends) : arena.Answers id ids.tail := by
  have split : id :: ids.tail = ids := by cases h <;> rfl
  refine ⟨fun others => ?_, ?_, fun name declaredIn v => ?_, fun name => ?_, fun _ => rfl, h.depth_eq descends⟩
    <;> rw [split]
  · exact ⟨h.unique, fun same => same ▸ h⟩
  · exact h.pairwise descends
  · rw [h.resolve_eq descends, List.findSome?_eq_some_iff]
    constructor
    · rintro ⟨before, scope, after, same, declared, undeclared⟩
      obtain ⟨v', declared, ⟨⟩⟩ := Option.map_eq_some_iff.1 declared
      exact ⟨before, after, same, declared, fun s member => Option.map_eq_none_iff.1 (undeclared s member)⟩
    · rintro ⟨before, after, same, declared, undeclared⟩
      exact ⟨before, declaredIn, after, same, Option.map_eq_some_iff.2 ⟨v, declared, rfl⟩,
        fun s member => Option.map_eq_none_iff.2 (undeclared s member)⟩
  · simp only [h.resolve_eq descends, List.findSome?_eq_none_iff, Option.map_eq_none_iff]

theorem Extends.keeps {later arena : Arena} {id : ScopeId} (extended : later.Extends arena) (has : arena.has id) :
    later.Keeps arena id := by
  obtain ⟨scope, found⟩ := exists_get?_of_has has
  have found' := get?_of_extends extended found
  obtain ⟨newer, same⟩ := extended
  have below : id.index < arena.newestFirst.length := index_lt_size has
  have resolve (name : String) : later.resolve id name = arena.resolve id name := by
    rw [Arena.resolve, same, Scope.resolveAt_append newer below, ← Arena.resolve]
  refine ⟨?_, ?_, fun name => ?_, fun name => ?_, resolve, ?_⟩
  · rw [get, get, found, found']
  · rw [parent?, parent?, found, found']
  · rw [declared?, declared?, found, found']
  · rw [lookup, lookup, resolve]
  · rw [depth, same, Scope.depthAt_append newer below, ← depth]

/-- **Scopes after any run of operations.** A scope inside one that is not there is refused and changes nothing. For
every scope that is there, the one that encloses it is older, the way out of it ends, it answers by the scopes on the
way, and it answers the same after any more operations. -/
theorem answers_of_afterAll (operations : List Operation) :
    (∀ parent declarations, (empty.afterAll operations).has parent = false →
      (empty.afterAll operations).perform (.child parent declarations) = .error (.parent parent) ∧
        (empty.afterAll operations).after (.child parent declarations) = empty.afterAll operations) ∧
    ∀ id, (empty.afterAll operations).has id →
      (∀ enclosing ∈ (empty.afterAll operations).parent? id, enclosing.index < id.index) ∧
      (∃ around, (empty.afterAll operations).Answers id around) ∧
      ∀ more, ((empty.afterAll operations).afterAll more).Keeps (empty.afterAll operations) id := by
  have descends := descends_afterAll operations
  refine ⟨fun _ _ => perform_child_of_foreign, fun id has => ⟨fun enclosing around => ?_, ?_, fun more => ?_⟩⟩
  · obtain ⟨scope, found⟩ := exists_get?_of_has has
    rw [parent?, found] at around
    exact descends id scope found enclosing around
  · obtain ⟨ids, chain⟩ := exists_chain descends has
    exact ⟨ids.tail, chain.answers descends⟩
  · exact (extends_afterAll _ more).keeps has

/-- Three scopes inside each other, the middle one of which declares a name again, and one that is refused. -/
def Operation.nested : List Operation :=
  [.root (SortedMap.empty.insert "total" ⟨.number, none, none⟩),
    .child ⟨0⟩ (SortedMap.empty.insert "total" ⟨.string, none, none⟩), .child ⟨7⟩ .empty, .child ⟨1⟩ .empty]

theorem answers_of_nested :
    (empty.afterAll Operation.nested).has ⟨2⟩ = true ∧ (empty.afterAll Operation.nested).has ⟨7⟩ = false ∧
      (empty.afterAll Operation.nested).perform (.child ⟨7⟩ .empty) = .error (.parent ⟨7⟩) ∧
      (∃ around, (empty.afterAll Operation.nested).Answers ⟨2⟩ around) ∧
      ((empty.afterAll Operation.nested).afterAll [.root .empty, .child ⟨2⟩ .empty]).Keeps
        (empty.afterAll Operation.nested) ⟨2⟩ ∧
      (empty.afterAll Operation.nested).depth ⟨2⟩ = 2 ∧
      ((empty.afterAll Operation.nested).resolve ⟨2⟩ "total").map (·.1) = some ⟨1⟩ := by
  have has : (empty.afterAll Operation.nested).has ⟨2⟩ = true := by decide
  have foreign : (empty.afterAll Operation.nested).has ⟨7⟩ = false := by decide
  obtain ⟨refused, scopes⟩ := answers_of_afterAll Operation.nested
  obtain ⟨_, answers, keeps⟩ := scopes ⟨2⟩ has
  exact ⟨has, foreign, (refused ⟨7⟩ .empty foreign).1, answers, keeps _, by decide, by decide⟩

end Arena

end ProcessCompiler
