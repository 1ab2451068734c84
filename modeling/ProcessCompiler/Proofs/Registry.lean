import ProcessCompiler.Registry

/-!
# Registries of built-in types

Tags may be bound to the generators of the built-in types as one likes. Of what is bound to a tag the last binding
counts, and the registry that is used by default binds the tag of each type to its own generator.

* `Registry.ofTypes`: the registry of bindings of tags to built-in types.
* `Registry.find?_builtin`: what the default registry finds.
-/

namespace ProcessCompiler

namespace Registry

/-- The registry of bindings of tags to built-in types, made in order. -/
def ofTypes (bindings : List (String × BuiltinType)) : Registry := ofList (bindings.map fun b => (b.1, b.2.generator))

/-- Every tag that is bound is bound to the generator of a built-in type. -/
def UsesBuiltins (registry : Registry) : Prop :=
  ∀ tag generator, registry.find? tag = some generator → ∃ type : BuiltinType, generator = type.generator

/-- What is registered one after the other is a map of bindings. -/
theorem generators_ofList (bindings : List (String × Generator)) : (ofList bindings).generators = .ofList bindings := by
  have registered (registry : Registry) :
      (bindings.foldl (fun registry b => registry.register b.1 b.2) registry).generators =
        bindings.foldl (fun map b => map.insert b.1 b.2) registry.generators := by
    induction bindings generalizing registry with
    | nil => rfl
    | cons b bindings ih => exact ih (registry.register b.1 b.2)
  exact registered empty

/-- The last binding of a tag counts. -/
theorem find?_ofList (bindings : List (String × Generator)) (tag : String) :
    (ofList bindings).find? tag = (bindings.reverse.find? fun b => b.1 == tag).map (·.2) := by
  rw [find?, generators_ofList, SortedMap.find?_ofList]

theorem find?_ofTypes (bindings : List (String × BuiltinType)) (tag : String) :
    (ofTypes bindings).find? tag = (bindings.reverse.find? fun b => b.1 == tag).map (·.2.generator) := by
  rw [ofTypes, find?_ofList, ← List.map_reverse, List.find?_map, Option.map_map]
  rfl

theorem usesBuiltins_ofTypes (bindings : List (String × BuiltinType)) : (ofTypes bindings).UsesBuiltins := by
  intro tag generator found
  rw [find?_ofTypes] at found
  obtain ⟨b, _, rfl⟩ := Option.map_eq_some_iff.1 found
  exact ⟨b.2, rfl⟩

end Registry

/-! ## The default registry -/

namespace BuiltinType

/-- A tag is that of one type at most. -/
theorem ofTag?_eq_some_iff {tag : String} {type : BuiltinType} : ofTag? tag = some type ↔ type.tag = tag := by
  constructor
  · intro h
    have found := List.find?_some h
    exact eq_of_beq found
  · rintro rfl
    cases type <;> rfl

end BuiltinType

namespace Registry

theorem builtin_eq_ofTypes : builtin = ofTypes (BuiltinType.all.map fun type => (type.tag, type)) := by
  rw [builtin, ofTypes, List.map_map]
  rfl

/-- **The default registry finds the generator of the type with a tag.** -/
theorem find?_builtin (tag : String) : builtin.find? tag = (BuiltinType.ofTag? tag).map BuiltinType.generator := by
  rw [builtin_eq_ofTypes, find?_ofTypes]
  cases known : BuiltinType.ofTag? tag with
  | some type =>
    obtain rfl := BuiltinType.ofTag?_eq_some_iff.1 known
    cases type <;> rfl
  | none =>
    have absent : (BuiltinType.all.map fun type => (type.tag, type)).reverse.find? (fun b => b.1 == tag) = none := by
      rw [List.find?_eq_none]
      intro b member same
      obtain ⟨type, _, rfl⟩ := List.mem_map.1 (List.mem_reverse.1 member)
      rw [BuiltinType.ofTag?_eq_some_iff.2 (eq_of_beq same)] at known
      cases known
    rw [absent]
    rfl

/-- A tag that the default registry knows is that of a type. -/
theorem exists_ofTag?_of_find?_builtin {tag : String} {generator : Generator} (h : builtin.find? tag = some generator) :
    ∃ type, BuiltinType.ofTag? tag = some type ∧ type.generator = generator := by
  rw [find?_builtin] at h
  exact Option.map_eq_some_iff.1 h

theorem ofTag?_of_find?_builtin_eq_none {tag : String} (h : builtin.find? tag = none) :
    BuiltinType.ofTag? tag = none := by
  rw [find?_builtin] at h
  exact Option.map_eq_none_iff.1 h

theorem usesBuiltins_builtin : builtin.UsesBuiltins := by
  rw [builtin_eq_ofTypes]
  exact usesBuiltins_ofTypes _

end Registry

end ProcessCompiler
