import ProcessCompiler.Definition

/-!
# Scopes of variables

The scopes of a process live in an arena and are known by their number. A scope is created after the one that encloses
it, so the search for a name climbs from a scope to older ones and ends.

* `Arena.resolve`: the innermost declaration of a name, seen from a scope.
-/

namespace ProcessCompiler

/-- The number of a scope in its arena. -/
structure ScopeId where
  index : Nat
  deriving DecidableEq

/-- A scope's number as it is shown. -/
def ScopeId.display (id : ScopeId) : String := "scope#" ++ toString id.index

/-- A table of declarations, and the scope that encloses it. -/
structure Scope where
  declarations : SortedMap Variable
  parent : Option ScopeId

/-- The scopes of one process, the newest first; a scope's number is how many are older. -/
structure Arena where
  newestFirst : List Scope

/-- The use of a scope that its arena does not have. -/
inductive ForeignScope where
  | scope (id : ScopeId)
  | parent (id : ScopeId)
  deriving DecidableEq

/-- The wording of the use of a foreign scope. -/
def ForeignScope.message : ForeignScope → String
  | .scope id => id.display ++ " is not part of this arena"
  | .parent id => "parent " ++ id.display ++ " is not part of this arena"

namespace Scope

/-- The scope with a number, among scopes with the newest first. -/
def at? : List Scope → Nat → Option Scope
  | [], _ => none
  | scope :: older, i => if i = older.length then some scope else at? older i

/-- The innermost declaration of a name that is seen from the scope with a number, and the number of its scope. -/
def resolveAt (name : String) : List Scope → Nat → Option (ScopeId × Variable)
  | [], _ => none
  | scope :: older, i =>
    if i = older.length then
      match scope.declarations.find? name, scope.parent with
      | some v, _ => some (⟨i⟩, v)
      | none, some parent => resolveAt name older parent.index
      | none, none => none
    else resolveAt name older i

/-- How many scopes enclose the scope with a number. -/
def depthAt : List Scope → Nat → Nat
  | [], _ => 0
  | scope :: older, i =>
    if i = older.length then
      match scope.parent with
      | some parent => depthAt older parent.index + 1
      | none => 0
    else depthAt older i

end Scope

namespace Arena

/-- The arena without scopes. -/
def empty : Arena := ⟨[]⟩

/-- How many scopes an arena has. -/
def size (arena : Arena) : Nat := arena.newestFirst.length

/-- Whether the arena has a scope. -/
def has (arena : Arena) (id : ScopeId) : Bool := id.index < arena.size

/-- The scopes in the order of their numbers. -/
def toList (arena : Arena) : List Scope := arena.newestFirst.reverse

/-- Adds a scope and returns its number. -/
def push (arena : Arena) (scope : Scope) : ScopeId × Arena := (⟨arena.size⟩, ⟨scope :: arena.newestFirst⟩)

/-- Adds a scope that nothing encloses. -/
def root (arena : Arena) (declarations : SortedMap Variable) : ScopeId × Arena := arena.push ⟨declarations, none⟩

/-- Adds a scope inside another one, which the arena must have. -/
def child (arena : Arena) (parent : ScopeId) (declarations : SortedMap Variable) :
    Except ForeignScope (ScopeId × Arena) :=
  if arena.has parent then .ok (arena.push ⟨declarations, some parent⟩) else .error (.parent parent)

/-- The scope with a number, if the arena has it. -/
def get? (arena : Arena) (id : ScopeId) : Option Scope := Scope.at? arena.newestFirst id.index

/-- The scope with a number, which the arena must have. -/
def get (arena : Arena) (id : ScopeId) : Except ForeignScope Scope :=
  match arena.get? id with
  | some scope => .ok scope
  | none => .error (.scope id)

/-- The scope that encloses a scope. -/
def parent? (arena : Arena) (id : ScopeId) : Option ScopeId := (arena.get? id).bind Scope.parent

/-- The declaration of a name in a scope itself. -/
def declared? (arena : Arena) (id : ScopeId) (name : String) : Option Variable :=
  (arena.get? id).bind fun scope => scope.declarations.find? name

/-- The innermost declaration of a name seen from a scope, and the scope it is in. -/
def resolve (arena : Arena) (id : ScopeId) (name : String) : Option (ScopeId × Variable) :=
  Scope.resolveAt name arena.newestFirst id.index

/-- The innermost declaration of a name seen from a scope. -/
def lookup (arena : Arena) (id : ScopeId) (name : String) : Option Variable := (arena.resolve id name).map (·.2)

/-- How many scopes enclose a scope. -/
def depth (arena : Arena) (id : ScopeId) : Nat := Scope.depthAt arena.newestFirst id.index

@[simp] theorem size_push (arena : Arena) (scope : Scope) : (arena.push scope).2.size = arena.size + 1 := rfl

@[simp] theorem toList_push (arena : Arena) (scope : Scope) :
    (arena.push scope).2.toList = arena.toList ++ [scope] := by
  simp [push, toList]

/-- A scope that is added stands under the number that it gets. -/
@[simp] theorem get?_push_self (arena : Arena) (scope : Scope) :
    (arena.push scope).2.get? (arena.push scope).1 = some scope := by
  simp [push, get?, Scope.at?, size]

/-- The scopes that were there stay what they are. -/
theorem get?_push {arena : Arena} {id : ScopeId} (h : arena.has id) (scope : Scope) :
    (arena.push scope).2.get? id = arena.get? id := by
  have older : id.index ≠ arena.newestFirst.length := Nat.ne_of_lt (of_decide_eq_true h)
  simp [push, get?, Scope.at?, older]

end Arena

end ProcessCompiler
