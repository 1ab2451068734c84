import Mathlib.Data.Set.List
import ProcessCompiler.Proofs.Closure
import ProcessCompiler.Proofs.Locations

/-!
# Names that are made of texts, in code and on disk

The name of the library and the id of a process may be any texts. What is made of them is used where only names will do:
in front of the paths of imports, of which a program leaves out those that are no paths of identifiers, and as the name
of a file. The check for identifiers knows nothing of how they are made, but it finds each of them; so whether an import
is left out does not turn on the library, and none that a builder asks for is.

* `importCode_runtimePath_eq_nil_iff`: which imports are left out.
* `use_infix_programCode`: what a builder asks for is imported.
* `uses_of_generate`: with generators of built-in types nothing is left out.
* `OutputPath.location_joinPath_fileName`: the name of a file is a name in any directory.
* `kept_names`: all that becomes of such names.
-/

namespace ProcessCompiler

open Identifier (Shaped sanitize)

/-! ## Imports -/

/-- The code that imports what a path of names leads to. -/
def useCode (names : List String) : Code := .word "use" :: Code.path names ++ [.word ";"]

theorem useCode_suffix_importCode {path : String} {names : List String} (found : importNames? path = some names) :
    useCode names <:+ importCode path := by
  rw [importCode, found]
  exact ⟨[.word "#", .group .square (.word "allow" :: Code.arguments [Code.words ["unused_imports"]])], rfl⟩

theorem importNames?_eq_none_iff {path : String} :
    importNames? path = none ↔ ∃ part ∈ splitPath path.toList, ¬ Shaped (String.ofList part) := by
  unfold importNames?
  simp [← Identifier.isIdentifier_iff]

/-- What is left out is what is no path of identifiers. -/
theorem importCode_eq_nil_iff {path : String} : importCode path = [] ↔ importNames? path = none := by
  unfold importCode
  cases importNames? path <;> simp

/-- **Which imports from the library are left out**: those with something else than identifiers behind the library,
whatever the library is called. -/
theorem importCode_runtimePath_eq_nil_iff (options : Options) (path : String) :
    importCode (options.runtimePath path) = [] ↔
      ∃ part ∈ splitPath path.toList, ¬ Shaped (String.ofList part) := by
  rw [importCode_eq_nil_iff, importNames?_runtimePath, Option.map_eq_none_iff, importNames?_eq_none_iff]

section Programs

variable {graph : ProcessGraph} {registry : Registry} {options : Options} {session : Session}

/-- An import that is recorded and not left out is in the program. -/
theorem infix_programCode {path : String} {names : List String} (found : importNames? path = some names)
    (recorded : path ∈ session.metadata.imports.toList) : useCode names <:+: programCode graph session options := by
  have own : useCode names <:+: importCode path := (useCode_suffix_importCode found).isInfix
  have among : importCode path <:+: session.metadata.imports.toList.flatMap importCode :=
    List.infix_of_mem_flatten (List.mem_map_of_mem recorded)
  have whole : session.metadata.imports.toList.flatMap importCode <:+: programCode graph session options := by
    refine ⟨.word "use" :: Code.path [options.runtimeName, "prelude", "*"] ++ [.word ";"],
      session.metadata.helpers.entries.flatMap (·.2) ++ createProcessCode graph session.body, ?_⟩
    rw [programCode, Metadata.preludeCode, List.append_assoc, List.append_assoc, List.append_assoc]
    rfl
  exact own.trans (among.trans whole)

/-- **What a builder asks for is imported**, whatever the library is called and whatever else is asked for. -/
theorem use_infix_programCode {site : Site} {node : NodeHeader} {method factoryType path : String}
    (shaped : Shaped factoryType)
    (asked : path ∈ (Draft.builder site node method factoryType).requests.filterMap Request.import?)
    (recorded : path ∈ session.metadata.imports.toList) :
    useCode [site.options.runtimeName, "nodes", factoryType] <:+: programCode graph session site.options := by
  obtain rfl := List.mem_singleton.1 asked
  exact infix_programCode (importNames?_nodes site.options (Identifier.isIdentifier_iff.2 shaped)) recorded

/-- **With generators of built-in types nothing is left out**: each import that is recorded stands in the program, once
and in order, behind the prelude of the library. -/
theorem uses_of_generate (uses : registry.UsesBuiltins) (generated : generate graph registry options = .ok session) :
    ∃ types : List BuiltinType,
      session.metadata.imports.toList = types.map (fun type => options.runtimePath ("nodes::" ++ type.factoryType)) ∧
      (programCode graph session options).uses = [options.runtimeName, "prelude", "*"] ::
        types.map fun type => [options.runtimeName, "nodes", type.factoryType] := by
  obtain ⟨builders, binds, -, -⟩ := reads_body uses generated
  obtain ⟨helpers, helps, -, -⟩ := reads_helpers uses generated
  have builtin : ∀ path ∈ session.metadata.imports.toList,
      ∃ type : BuiltinType, path = options.runtimePath ("nodes::" ++ type.factoryType) := by
    intro path member
    obtain ⟨v, -, type, -, same⟩ := (mem_imports_iff uses generated path).1 member
    exact ⟨type, same⟩
  obtain ⟨types, paths⟩ : ∃ types : List BuiltinType, types.map (fun type =>
      options.runtimePath ("nodes::" ++ type.factoryType)) = session.metadata.imports.toList := by
    rw [← Set.mem_range, Set.range_list_map]
    exact fun path member => (builtin path member).imp fun _ same => same.symm
  have names : (types.map fun type => options.runtimePath ("nodes::" ++ type.factoryType)).filterMap importNames? =
      types.map fun type => [options.runtimeName, "nodes", type.factoryType] := by
    simp only [List.filterMap_map, Function.comp_def, importNames?_builder, List.filterMap_eq_map']
  refine ⟨types, paths.symm, ?_⟩
  rw [(reads_programCode graph builtin helps binds).alone.1, ← paths, names]

end Programs

/-! ## Files -/

namespace OutputPath

theorem exists_shaped_append (process : String) : ∃ stem, Shaped stem ∧ fileName process = stem ++ ".rs" :=
  ⟨sanitize process, Identifier.isIdentifier_iff.1 (Identifier.isIdentifier_sanitize process), rfl⟩

/-- No slash divides the name of a file. -/
theorem splitOn_fileName (process : String) :
    (fileName process).toList.splitOn '/' = [(fileName process).toList] :=
  List.splitOn_eq_singleton (notMem_fileName process)

/-- The name of a file is longer than a point or two. -/
theorem fileName_ne {name : String} (short : name.length ≤ 2) (process : String) : fileName process ≠ name := by
  rintro rfl
  rw [← String.length_toList, toList_fileName, List.length_append] at short
  have ending : ".rs".toList.length = 3 := rfl
  omega

/-- **The name of a file is a name in any directory**: it leads one down from there. -/
theorem location_joinPath_fileName (directory process : String) :
    location (joinPath directory (fileName process)) = (location directory).down [(fileName process).toList] := by
  rw [location_joinPath, location_fileName, Location.join_down, Location.join_here]

end OutputPath

/-! ## All names -/

/-- **What is made of texts is kept as a name.** Whatever a text is, an identifier is made of it; of an identifier it is
the same one, so that nothing changes when it is done again. Hence an import from the library is left out for what stands
behind the library only. What a builder asks for is in the program, under any options and whatever else was recorded,
and with generators of built-in types the program imports all that was recorded, in order. The name of the file of a
process is an identifier with an ending: not divided by slashes, no point and no two, and the name of something in any
directory that it is joined to. -/
theorem kept_names :
    ((∀ text, Shaped (sanitize text)) ∧ (∀ text, sanitize text = text ↔ Shaped text) ∧
      ∀ text, sanitize (sanitize text) = sanitize text) ∧
    ((∀ (options : Options) (path : String), importCode (options.runtimePath path) = [] ↔
        ∃ part ∈ splitPath path.toList, ¬ Shaped (String.ofList part)) ∧
      (∀ (site : Site) (node : NodeHeader) (method factoryType : String), Shaped factoryType →
        ∀ path ∈ (Draft.builder site node method factoryType).requests.filterMap Request.import?,
          ∀ (graph : ProcessGraph) (session : Session), path ∈ session.metadata.imports.toList →
            useCode [site.options.runtimeName, "nodes", factoryType] <:+: programCode graph session site.options) ∧
      ∀ (graph : ProcessGraph) (registry : Registry) (options : Options) (session : Session), registry.UsesBuiltins →
        generate graph registry options = .ok session → ∃ types : List BuiltinType,
          session.metadata.imports.toList =
            types.map (fun type => options.runtimePath ("nodes::" ++ type.factoryType)) ∧
          (programCode graph session options).uses = [options.runtimeName, "prelude", "*"] ::
            types.map fun type => [options.runtimeName, "nodes", type.factoryType]) ∧
    ∀ process, (∃ stem, Shaped stem ∧ OutputPath.fileName process = stem ++ ".rs") ∧
      (OutputPath.fileName process).toList.splitOn '/' = [(OutputPath.fileName process).toList] ∧
      OutputPath.fileName process ≠ "." ∧ OutputPath.fileName process ≠ ".." ∧
      ∀ directory, location (joinPath directory (OutputPath.fileName process)) =
        (location directory).down [(OutputPath.fileName process).toList] := by
  have shaped (text : String) : Shaped (sanitize text) :=
    Identifier.isIdentifier_iff.1 (Identifier.isIdentifier_sanitize text)
  refine ⟨⟨shaped, fun text => Identifier.sanitize_eq_self_iff,
      fun text => Identifier.sanitize_eq_self_iff.2 (shaped text)⟩,
    ⟨importCode_runtimePath_eq_nil_iff,
      fun site node method factoryType named path asked graph session => use_infix_programCode named asked,
      fun graph registry options session => uses_of_generate⟩,
    fun process => ⟨OutputPath.exists_shaped_append process, OutputPath.splitOn_fileName process,
      OutputPath.fileName_ne (by decide) process, OutputPath.fileName_ne (by decide) process,
      fun directory => OutputPath.location_joinPath_fileName directory process⟩⟩

/-- A process whose id leads out of a directory. -/
def climbingDefinition : ProcessDefinition where
  id := "../orders"
  name := none
  version := none
  declarations := .empty
  nodes := [⟨"begin", "start", none, .empty, none, none, []⟩, ⟨"done", "end", none, .empty, none, none, []⟩]
  connections := []

/-- The options of a user whose library has no identifier as its name. -/
def foreignOptions : Options := { Options.default with runtime := "9-größe" }

/-- The library is imported from under another name, and the file stays in its directory. -/
theorem kept_names_foreign : ∃ graph session,
    ProcessGraph.ofDefinition climbingDefinition = .ok graph ∧
      generate graph .builtin foreignOptions = .ok session ∧
      session.metadata.imports.toList = ["_9_gr__e::nodes::EndNodeFactory", "_9_gr__e::nodes::StartNodeFactory"] ∧
      (programCode graph session foreignOptions).uses.length = 3 ∧
      useCode ["_9_gr__e", "nodes", "EndNodeFactory"] <:+: programCode graph session foreignOptions ∧
      location (joinPath "out" (OutputPath.fileName climbingDefinition.id)) =
        (location "out").down ["___orders.rs".toList] := by
  have read : (climbingDefinition.session? .builtin foreignOptions).map (·.metadata.imports.toList) =
      some ["_9_gr__e::nodes::EndNodeFactory", "_9_gr__e::nodes::StartNodeFactory"] := by decide +kernel
  obtain ⟨session, found, imports⟩ := Option.map_eq_some_iff.1 read
  obtain ⟨graph, accepted, generated⟩ := ProcessDefinition.session?_eq_some_iff.1 found
  obtain ⟨-, ⟨-, asked, whole⟩, file⟩ := kept_names
  have library : foreignOptions.runtimeName = "_9_gr__e" := by decide +kernel
  have name : OutputPath.fileName climbingDefinition.id = "___orders.rs" := by decide +kernel
  have path : foreignOptions.runtimePath ("nodes::" ++ "EndNodeFactory") = "_9_gr__e::nodes::EndNodeFactory" := by
    decide +kernel
  refine ⟨graph, session, accepted, generated, imports, ?_, ?_, ?_⟩
  · obtain ⟨types, paths, uses⟩ := whole graph .builtin foreignOptions session Registry.usesBuiltins_builtin generated
    have two : types.length = 2 := by simpa [imports] using (congrArg List.length paths).symm
    rw [uses, List.length_cons, List.length_map, two]
  · have recorded : foreignOptions.runtimePath ("nodes::" ++ "EndNodeFactory") ∈ session.metadata.imports.toList := by
      rw [imports, path]
      exact List.mem_cons_self
    rw [← library]
    exact asked ⟨foreignOptions, graph.scopes, rootHandle, ProcessGraph.rootScope⟩
      ⟨"done", "done", "end", none, .empty⟩ "end_node" "EndNodeFactory" (by decide) _ (List.mem_singleton_self _)
      graph session recorded
  · rw [← name]
    exact (file climbingDefinition.id).2.2.2.2 "out"

end ProcessCompiler
