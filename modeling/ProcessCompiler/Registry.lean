import ProcessCompiler.Generator.Builtin

/-!
# Registries of generators

A registry finds the generator of a type tag. Of two registrations of one tag the later counts.
-/

namespace ProcessCompiler

/-- Generators by type tag. -/
structure Registry where
  generators : SortedMap Generator

namespace Registry

/-- The registry without generators. -/
def empty : Registry := ⟨.empty⟩

/-- Binds a tag to a generator. -/
def register (registry : Registry) (tag : String) (generator : Generator) : Registry :=
  ⟨registry.generators.insert tag generator⟩

/-- The generator of a tag. -/
def find? (registry : Registry) (tag : String) : Option Generator := registry.generators.find? tag

/-- The last registration of a tag counts, and concerns no other tag. -/
theorem find?_register (registry : Registry) (tag other : String) (generator : Generator) :
    (registry.register tag generator).find? other = if other = tag then some generator else registry.find? other :=
  SortedMap.find?_insert registry.generators tag other generator

/-- Whether a tag has a generator. -/
def contains (registry : Registry) (tag : String) : Bool := (registry.find? tag).isSome

/-- The tags that have a generator, in ascending order. -/
def tags (registry : Registry) : List String := registry.generators.keys

/-- How many tags have a generator. -/
def size (registry : Registry) : Nat := registry.tags.length

/-- The registry of bindings, made in order. -/
def ofList (bindings : List (String × Generator)) : Registry :=
  bindings.foldl (fun registry b => registry.register b.1 b.2) empty

/-- The registry that binds the tag of each built-in type to its generator. -/
def builtin : Registry := ofList (BuiltinType.all.map fun type => (type.tag, type.generator))

/-- A registry as it is shown to people who look for a mistake. -/
def display (registry : Registry) : String :=
  "VisitorRegistry \x7b node_types: [" ++ ", ".intercalate (registry.tags.map Text.quoted) ++ "] \x7d"

end Registry

end ProcessCompiler
