import Mathlib.Logic.Function.Basic
import ProcessCompiler.Proofs.ArgumentGroups
import ProcessCompiler.Proofs.Blankness
import ProcessCompiler.Proofs.Identifiers
import ProcessCompiler.Proofs.Runs

/-!
# Settings of the environment

What a user chooses is given by an option or by a variable of the environment. A value of a variable that counts does
what the option does, in the whole run and whatever else is given; one that does not count does nothing; and an option
makes its variable irrelevant. For the name of the library the two differ in what counts: a blank name is none in the
environment, and is a name behind the option. As the source tells the library, no run that writes it is the same then.

* `Setting`: what can be given in either way.
* `runtimeName_eq_of_source_eq`: the source tells the library.
* `run_of_variable`: runs with a variable and with an option.
-/

namespace ProcessCompiler

/-! ## The library in the source -/

/-- Blank characters stand in no identifier. -/
theorem Identifier.isPart_of_isBlank {c : Char} (blank : Text.isBlank c = true) : isPart c = false := by
  rw [Bool.eq_false_iff]
  intro part
  have within {first last : Char} (bounds : first.val.toNat ≤ c.val.toNat ∧ c.val.toNat ≤ last.val.toNat)
      (low : 48 ≤ first.val.toNat) (high : last.val.toNat ≤ 122) : 48 ≤ c.toNat ∧ c.toNat ≤ 122 :=
    ⟨Nat.le_trans low bounds.1, Nat.le_trans bounds.2 high⟩
  -- letters, digits and the underscore are between the zero and the last small letter, and no blank is
  have narrow : 48 ≤ c.toNat ∧ c.toNat ≤ 122 := by
    have bounds : (((('A'.val ≤ c.val ∧ c.val ≤ 'Z'.val : Bool) || 'a'.val ≤ c.val && c.val ≤ 'z'.val) ||
        '0'.val ≤ c.val && c.val ≤ '9'.val) || c = '_' : Bool) = true := part
    simp only [Bool.or_eq_true, Bool.and_eq_true, decide_eq_true_eq, UInt32.le_iff_toNat_le] at bounds
    rcases bounds with ((upper | lower) | digit) | rfl
    · exact within upper (by decide) (by decide)
    · exact within lower (by decide) (by decide)
    · exact within digit (by decide) (by decide)
    · decide
  obtain ⟨range, member, above, below⟩ := (Text.Ranges.has_iff Text.blankRanges_ascending).1 blank
  have apart : ∀ range ∈ Text.blankRanges, range.2 < 48 ∨ 122 < range.1 := by decide
  have outside := apart range member
  omega

/-- The name made of a blank text starts with an underscore. -/
theorem Identifier.head?_sanitize_of_blank {text : String} (blank : Text.isBlankText text = true) :
    (sanitize text).toList.head? = some '_' := by
  rw [sanitize, String.toList_ofList]
  have all := (Text.isBlankText_iff text).1 blank
  cases chars : text.toList with
  | nil => decide
  | cons c cs =>
    have other : isPart c = false := isPart_of_isBlank (all c (by rw [chars]; exact List.mem_cons_self))
    have noDigit : c.isDigit ≠ true := by
      intro digit
      simp [isPart, Char.isAlphanum, digit] at other
    rw [sanitizeChars_of_not_isDigit noDigit, sanitizeChar_of_not_isPart (Bool.eq_false_iff.1 other)]
    rfl

/-- A program starts with the name of the library. -/
theorem exists_toList_programCode (graph : ProcessGraph) (session : Session) (options : Options) :
    ∃ rest, (programCode graph session options).text.toList =
      "use ".toList ++ options.runtimeName.toList ++ ' ' :: rest := by
  obtain ⟨code, split⟩ : ∃ code, programCode graph session options =
      .word "use" :: .word options.runtimeName :: .word "::" :: code := ⟨_, rfl⟩
  refine ⟨("::" ++ Token.textMore code).toList, ?_⟩
  rw [split]
  simp [Code.text, Token.textAll, Token.textMore, Token.text]

/-- The source that comes out is that of a program. -/
theorem exists_programCode_of_compile {d : ProcessDefinition} {registry : Registry} {o : Options} {c : Compiled}
    (compiled : compile d registry o = .ok c) : ∃ graph session, c.source = (programCode graph session o).text := by
  unfold compile at compiled
  split at compiled
  · cases compiled
  · next graph _ =>
    split at compiled
    · cases compiled
    · next session _ =>
      cases compiled
      exact ⟨graph, session, rfl⟩

/-- **The source tells the library** that it builds on. -/
theorem runtimeName_eq_of_source_eq {d d' : ProcessDefinition} {registry registry' : Registry} {o o' : Options}
    {c c' : Compiled} (compiled : compile d registry o = .ok c) (compiled' : compile d' registry' o' = .ok c')
    (same : c.source = c'.source) : o.runtimeName = o'.runtimeName := by
  obtain ⟨graph, session, source⟩ := exists_programCode_of_compile compiled
  obtain ⟨graph', session', source'⟩ := exists_programCode_of_compile compiled'
  obtain ⟨rest, chars⟩ := exists_toList_programCode graph session o
  obtain ⟨rest', chars'⟩ := exists_toList_programCode graph' session' o'
  rw [← source, same, source', chars', List.append_assoc, List.append_assoc] at chars
  have behind := List.append_cancel_left chars
  -- the name ends at the first blank, as none is in it
  have front (o : Options) (rest : List Char) :
      (o.runtimeName.toList ++ ' ' :: rest).takeWhile (· ≠ ' ') = o.runtimeName.toList := by
    rw [List.takeWhile_append_of_pos]
    · simp
    · intro c member
      have part := Identifier.isPart_of_mem (Identifier.isIdentifier_sanitize o.runtime) member
      have differ : c ≠ ' ' := by
        rintro rfl
        exact absurd part (by decide)
      simpa using differ
  refine String.toList_injective ?_
  rw [← front o rest, ← behind, front o' rest']

namespace CommandLine

/-! ## Settings -/

/-- What can be given by an option or by a variable of the environment. -/
inductive Setting where
  | runtime
  | flag (option : FlagOption)
  deriving DecidableEq

namespace Setting

/-- The name of the variable. -/
def name : Setting → String
  | .runtime => "CANOPY_RUNTIME_CRATE"
  | .flag .diagnostics => "CANOPY_DIAGNOSTICS"
  | .flag .strictExpressions => "CANOPY_STRICT_EXPRESSIONS"

/-- The group of the option. A flag has no value. -/
def group (value : String) : Setting → Group
  | .runtime => .valued .runtime value
  | .flag option => .flag option

/-- Whether a value of the variable counts. -/
def counts (value : String) : Setting → Bool
  | .runtime => !Text.isBlankText value
  | .flag _ => Options.isOn value

end Setting

section Settings

variable {setting : Setting} {value definition : String} {groups before later : List Group} {environment : Environment}

/-- A value that counts is an option that is given. -/
theorem options_of_counts (counts : setting.counts value = true)
    (ungiven : setting = .runtime → ∀ name, .valued .runtime name ∉ before) (definition : String) (later : List Group)
    (environment : Environment) :
    (told definition (before ++ later)).options (Function.update environment setting.name (some value)) =
      (told definition (before ++ setting.group value :: later)).options environment := by
  cases setting with
  | runtime =>
    have none : lastValue .runtime before = none := lastValue_eq_none_iff.2 (ungiven rfl)
    have filled : Text.isBlankText value = false := by simpa [Setting.counts] using counts
    cases last : lastValue .runtime later <;>
      simp [Arguments.options, told, Options.ofEnvironment, Setting.name, Setting.group, Group.value?, none, filled,
        last, Option.filter]
  | flag option =>
    have on : Options.isOn value = true := counts
    cases option <;>
      simp [Arguments.options, told, Options.ofEnvironment, Setting.name, Setting.group, Group.value?, on]

/-- A value that does not count is none. -/
theorem ofEnvironment_of_not_counts (ignored : setting.counts value = false) (environment : Environment) :
    Options.ofEnvironment (Function.update environment setting.name (some value)) =
      Options.ofEnvironment (Function.update environment setting.name none) := by
  cases setting with
  | runtime =>
    have blank : Text.isBlankText value = true := by simpa [Setting.counts] using ignored
    simp [Options.ofEnvironment, Setting.name, blank, Option.filter]
  | flag option =>
    have off : Options.isOn value = false := ignored
    cases option <;> simp [Options.ofEnvironment, Setting.name, off, Options.default]

/-- An option that is given makes its variable irrelevant. -/
theorem options_of_given (given : setting.group value ∈ groups) (definition : String) (environment : Environment)
    (value? : Option String) :
    (told definition groups).options (Function.update environment setting.name value?) =
      (told definition groups).options environment := by
  cases setting with
  | runtime =>
    cases last : lastValue .runtime groups with
    | none => exact absurd given (lastValue_eq_none_iff.1 last value)
    | some name => simp [Arguments.options, told, Options.ofEnvironment, Setting.name, last]
  | flag option =>
    have given : Group.flag option ∈ groups := given
    cases option <;> simp [Arguments.options, told, Options.ofEnvironment, Setting.name, given]

end Settings

/-! ## Runs -/

section Runs

variable {m : Type → Type} [Monad m] {fs : FileSystem m} {environment environment' : Environment}

/-- What a run takes from the arguments and the environment. -/
theorem runArguments_congr {a a' : Arguments} (definition : a.definition = a'.definition)
    (output : a.output = a'.output) (options : a.options environment = a'.options environment')
    (directory : environment "DATA_DIR" = environment' "DATA_DIR") :
    runArguments fs environment a = runArguments fs environment' a' := by
  have writes (c : Compiled) : c.writeSource fs environment a.output = c.writeSource fs environment' a'.output := by
    simp only [Compiled.writeSource, OutputPath.directory, OutputPath.dataDirectory, output, directory]
  have runs (d : ProcessDefinition) : runDefinition fs environment a d = runDefinition fs environment' a' d := by
    simp only [runDefinition, options, writes]
  simp only [runArguments, definition, runs]

/-- Runs are the same if they are whatever groups come next. -/
theorem run_congr {groups others : List Group} (rest : List String)
    (definition : ∀ later, lastValue .definition (groups ++ later) = lastValue .definition (others ++ later))
    (same : ∀ later definition, runArguments fs environment (told definition (groups ++ later)) =
      runArguments fs environment' (told definition (others ++ later))) :
    run fs environment (groups.flatMap Group.words ++ rest) =
      run fs environment' (others.flatMap Group.words ++ rest) := by
  obtain ⟨later, stop, rfl, ends⟩ := exists_groups rest
  rw [← List.append_assoc, ← List.append_assoc, ← List.flatMap_append, ← List.flatMap_append, run, run]
  rcases ends with rfl | ⟨refusal, stops⟩
  · rw [List.append_nil, List.append_nil, parse_groups, parse_groups, definition]
    cases lastValue .definition (others ++ later) with
    | none => rfl
    | some definition => exact same later definition
  · rw [parse_of_stops _ stops, parse_of_stops _ stops]

variable {setting : Setting} {value : String} {before : List Group}

theorem Setting.name_ne (setting : Setting) : "DATA_DIR" ≠ setting.name := by
  cases setting with
  | runtime => decide
  | flag option => cases option <;> decide

/-- A setting is no definition and no output. -/
theorem Setting.value?_group (setting : Setting) (value : String) {option : ValueOption} (other : option ≠ .runtime) :
    (setting.group value).value? option = none := by
  cases setting with
  | runtime => exact if_neg other.symm
  | flag option => rfl

/-- **A value that counts does what the option does.** -/
theorem run_of_counts (counts : setting.counts value = true)
    (ungiven : setting = .runtime → ∀ name, .valued .runtime name ∉ before) (rest : List String) :
    run fs (Function.update environment setting.name (some value)) (before.flatMap Group.words ++ rest) =
      run fs environment ((before ++ [setting.group value]).flatMap Group.words ++ rest) := by
  have definition : (setting.group value).value? .definition = none := setting.value?_group value (by decide)
  have output : (setting.group value).value? .output = none := setting.value?_group value (by decide)
  refine run_congr rest (fun later => ?_) fun later definition => ?_
  · simp [definition]
  · refine runArguments_congr rfl ?_ ?_ (Function.update_of_ne setting.name_ne _ _)
    · simp [told, output]
    · rw [List.append_assoc, List.singleton_append]
      exact options_of_counts counts ungiven definition later environment

/-- **A value that does not count is as none.** -/
theorem run_of_not_counts (ignored : setting.counts value = false) (arguments : List String) :
    run fs (Function.update environment setting.name (some value)) arguments =
      run fs (Function.update environment setting.name none) arguments := by
  rw [run, run]
  cases parse arguments with
  | error refusal => rfl
  | ok a =>
    refine runArguments_congr rfl rfl ?_ ?_
    · rw [Arguments.options, Arguments.options, ofEnvironment_of_not_counts ignored]
    · rw [Function.update_of_ne setting.name_ne, Function.update_of_ne setting.name_ne]

/-- **An option makes its variable irrelevant.** -/
theorem run_of_given {groups : List Group} (given : setting.group value ∈ groups) (value? : Option String)
    (rest : List String) :
    run fs (Function.update environment setting.name value?) (groups.flatMap Group.words ++ rest) =
      run fs environment (groups.flatMap Group.words ++ rest) := by
  refine run_congr rest (fun later => rfl) fun later definition => ?_
  refine runArguments_congr rfl rfl ?_ (Function.update_of_ne setting.name_ne _ _)
  exact options_of_given (List.mem_append_left later given) definition environment value?

end Runs

/-! ## What is written -/

section Written

variable {environment environment' : Environment} {arguments arguments' : List String} {a a' : Arguments}
  {tree after : FileTree} {report : Report}

/-- A run that succeeds writes the source of a compiled process where it says. -/
theorem exists_source_of_run (parsed : parse arguments = .ok a)
    (ran : run FileTree.fileSystem environment arguments tree = (report, after)) (succeeded : report.code = 0) :
    ∃ d c path, compile d Registry.builtin (a.options environment) = .ok c ∧ report.output = [path] ∧
      after.read path = .ok c.source := by
  simp only [run, parsed] at ran
  have lawful := FileTree.lawful_view none
  obtain ⟨text, d, found, given, same, ran⟩ | ⟨failed, _⟩ := runArguments_spec lawful ran
  · obtain ⟨c, compiled, _, printed, wrote, _⟩ | ⟨failed, _⟩ := runDefinition_spec lawful ran
    · exact ⟨d, c, _, compiled, printed, FileTree.read_of_wrote wrote⟩
    · exact absurd succeeded failed
  · exact absurd succeeded failed

/-- **Runs that write the same source** have the same library. -/
theorem runtimeName_eq_of_run_eq (parsed : parse arguments = .ok a) (parsed' : parse arguments' = .ok a')
    (succeeded : (run FileTree.fileSystem environment arguments tree).1.code = 0)
    (same : run FileTree.fileSystem environment arguments tree =
      run FileTree.fileSystem environment' arguments' tree) :
    (a.options environment).runtimeName = (a'.options environment').runtimeName := by
  rcases ran : run FileTree.fileSystem environment arguments tree with ⟨report, after⟩
  rw [ran] at succeeded same
  obtain ⟨d, c, path, compiled, printed, written⟩ := exists_source_of_run parsed ran succeeded
  obtain ⟨d', c', path', compiled', printed', written'⟩ := exists_source_of_run parsed' same.symm succeeded
  obtain rfl : path = path' := by
    rw [printed] at printed'
    exact (List.cons.inj printed').1
  rw [written] at written'
  exact runtimeName_eq_of_source_eq compiled compiled' (Except.ok.inj written')

/-- Groups that are run with success have a definition among them. -/
theorem exists_definition_of_run {groups : List Group}
    (succeeded : (run FileTree.fileSystem environment (groups.flatMap Group.words) tree).1.code = 0) :
    ∃ definition, lastValue .definition groups = some definition := by
  cases given : lastValue .definition groups with
  | some definition => exact ⟨definition, rfl⟩
  | none =>
    rw [run, parse_groups, given] at succeeded
    cases succeeded

/-- **A blank name of the library** is none in the environment and a name behind the option, so that no run which writes
its source is the same with both. -/
theorem run_ne_of_blank {before later : List Group} {value : String} (blank : Text.isBlankText value = true)
    (ungiven : ∀ name, .valued .runtime name ∉ before ++ later)
    (succeeded : (run FileTree.fileSystem (Function.update environment Setting.runtime.name (some value))
      ((before ++ later).flatMap Group.words) tree).1.code = 0) :
    run FileTree.fileSystem (Function.update environment Setting.runtime.name (some value))
        ((before ++ later).flatMap Group.words) tree ≠
      run FileTree.fileSystem environment
        ((before ++ Group.valued .runtime value :: later).flatMap Group.words) tree := by
  intro same
  have none : lastValue .runtime (before ++ later) = none := lastValue_eq_none_iff.2 ungiven
  have noneLater : lastValue .runtime later = Option.none :=
    lastValue_eq_none_iff.2 fun name member => ungiven name (List.mem_append_right before member)
  obtain ⟨definition, given⟩ := exists_definition_of_run succeeded
  have parsed : parse ((before ++ later).flatMap Group.words) = .ok (told definition (before ++ later)) := by
    rw [parse_groups, given]
  have parsed' : parse ((before ++ Group.valued .runtime value :: later).flatMap Group.words) =
      .ok (told definition (before ++ Group.valued .runtime value :: later)) := by
    have given' : lastValue .definition (before ++ Group.valued .runtime value :: later) = some definition := by
      rw [← given]
      simp [Group.value?]
    rw [parse_groups, given']
  have libraries := congrArg (fun name => name.toList.head?) (runtimeName_eq_of_run_eq parsed parsed' succeeded same)
  have named : ((told definition (before ++ Group.valued .runtime value :: later)).options environment).runtime =
      value := by
    simp [Arguments.options, told, noneLater, Group.value?]
  have unnamed : ((told definition (before ++ later)).options
      (Function.update environment Setting.runtime.name (some value))).runtime = Options.default.runtime := by
    simp only [Arguments.options, told, none]
    simp [Options.ofEnvironment, Setting.name, Option.filter, blank]
  simp only [Options.runtimeName, named, unnamed, Identifier.head?_sanitize_of_blank blank] at libraries
  exact absurd libraries (by decide)

end Written

/-! ## Variables and options -/

/-- **A setting is the same from the environment and from an option, if its value counts.** The whole run is the same
then; a value that does not count is as none; and an option that is given makes its variable irrelevant. Of the library
that is all: in runs that write their source, only a name that is not blank is the same for both. -/
theorem run_of_variable {m : Type → Type} [Monad m] (fs : FileSystem m) (environment : Environment) (setting : Setting)
    (value : String) {before : List Group} (ungiven : setting = .runtime → ∀ name, .valued .runtime name ∉ before)
    (rest : List String) :
    (setting.counts value = true →
      run fs (Function.update environment setting.name (some value)) (before.flatMap Group.words ++ rest) =
        run fs environment (before.flatMap Group.words ++ (setting.group value).words ++ rest)) ∧
    (setting.counts value = false →
      run fs (Function.update environment setting.name (some value)) (before.flatMap Group.words ++ rest) =
        run fs (Function.update environment setting.name none) (before.flatMap Group.words ++ rest)) ∧
    (∀ value? : Option String,
      run fs (Function.update environment setting.name value?)
          (before.flatMap Group.words ++ (setting.group value).words ++ rest) =
        run fs environment (before.flatMap Group.words ++ (setting.group value).words ++ rest)) ∧
    ∀ (later : List Group) (tree : FileTree), setting = .runtime → rest = later.flatMap Group.words →
      (∀ name, .valued .runtime name ∉ later) →
      (run FileTree.fileSystem (Function.update environment setting.name (some value))
        (before.flatMap Group.words ++ rest) tree).1.code = 0 →
      (run FileTree.fileSystem (Function.update environment setting.name (some value))
          (before.flatMap Group.words ++ rest) tree =
        run FileTree.fileSystem environment (before.flatMap Group.words ++ (setting.group value).words ++ rest) tree ↔
          setting.counts value = true) := by
  have put : before.flatMap Group.words ++ (setting.group value).words =
      (before ++ [setting.group value]).flatMap Group.words := by
    rw [List.flatMap_append, List.flatMap_singleton]
  rw [put]
  refine ⟨fun counts => run_of_counts counts ungiven rest, fun ignored => run_of_not_counts ignored _,
    fun value? => run_of_given (List.mem_append_right before List.mem_cons_self) value? rest, ?_⟩
  rintro later tree rfl rfl ungivenLater succeeded
  refine ⟨fun same => ?_, fun counts => congrFun (run_of_counts counts ungiven _) tree⟩
  cases blank : Text.isBlankText value with
  | false => simp [Setting.counts, blank]
  | true =>
    rw [← List.flatMap_append] at succeeded same
    rw [← List.flatMap_append, List.append_assoc] at same
    have anywhere : ∀ name, .valued .runtime name ∉ before ++ later := fun name member =>
      (List.mem_append.1 member).elim (ungiven rfl name) (ungivenLater name)
    exact absurd same (run_ne_of_blank blank anywhere succeeded)

/-- A run that succeeds with a library that is named in the environment. -/
theorem run_of_variable_library :
    (run FileTree.fileSystem (Function.update (fun _ => none) "CANOPY_RUNTIME_CRATE" (some "my-runtime"))
        ["--definition", "orders.json", "--output", "out"] ordersTree).1.code = 0 ∧
      run FileTree.fileSystem (Function.update (fun _ => none) "CANOPY_RUNTIME_CRATE" (some "my-runtime"))
          ["--definition", "orders.json", "--output", "out"] ordersTree =
        run FileTree.fileSystem (fun _ => none)
          ["--definition", "orders.json", "--runtime-crate", "my-runtime", "--output", "out"] ordersTree := by
  have ungiven : Setting.runtime = .runtime →
      ∀ name, Group.valued .runtime name ∉ [Group.valued .definition "orders.json"] := by
    simp
  refine ⟨by decide +kernel, ?_⟩
  exact congrFun ((run_of_variable FileTree.fileSystem (fun _ => none) .runtime "my-runtime" ungiven
    ["--output", "out"]).1 (by decide +kernel)) ordersTree

/-- An empty name is none in the environment, and one behind the option. -/
theorem not_run_of_variable_empty :
    run FileTree.fileSystem (Function.update (fun _ => none) "CANOPY_RUNTIME_CRATE" (some ""))
        ["--definition", "orders.json", "--output", "out"] ordersTree ≠
      run FileTree.fileSystem (fun _ => none)
        ["--definition", "orders.json", "--runtime-crate", "", "--output", "out"] ordersTree := by
  intro same
  have sources := congrArg (fun ran => (ran.2.read "out/orders.rs").toOption) same
  revert sources
  decide +kernel

end CommandLine

end ProcessCompiler
