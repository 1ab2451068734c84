import Mathlib.Data.List.Basic
import ProcessCompiler.CommandLine
import ProcessCompiler.FileSystem.Tree

/-!
# Arguments as groups

Arguments are read as groups, from left to right: a flag is a group of one, an option with a value is one of two, and
its value may look like anything. The first argument that is in no group decides: it is help, or unknown, or an option
whose value lacks. What groups say is what the last group of each option says, so that only the order of groups of one
option matters.

* `Group`: what is given for one option.
* `Means`: what arguments mean, as a grammar.
* `parse_eq_iff`: reading finds that meaning.
* `parse_grouped`: when arguments are complete, which order does not matter, and what is printed for those that are not.
-/

namespace ProcessCompiler.CommandLine

/-! ## Groups -/

/-- The options that have a value. -/
inductive ValueOption where
  | definition
  | output
  | runtime
  deriving DecidableEq

/-- The options that are given or not. -/
inductive FlagOption where
  | diagnostics
  | strictExpressions
  deriving DecidableEq

/-- How an option is written. -/
def ValueOption.word : ValueOption → String
  | .definition => "--definition"
  | .output => "--output"
  | .runtime => "--runtime-crate"

/-- What the value of an option is. -/
def ValueOption.what : ValueOption → String
  | .definition => "path"
  | .output => "directory"
  | .runtime => "name"

/-- How an option is written. -/
def FlagOption.word : FlagOption → String
  | .diagnostics => "--diagnostics"
  | .strictExpressions => "--strict-expressions"

/-- What is given for one option. -/
inductive Group where
  | valued (option : ValueOption) (value : String)
  | flag (option : FlagOption)
  deriving DecidableEq

namespace Group

/-- The arguments of a group. -/
def words : Group → List String
  | .valued option value => [option.word, value]
  | .flag option => [option.word]

/-- How the option of a group is written. -/
def word : Group → String
  | .valued option _ => option.word
  | .flag option => option.word

/-- The value of a group for an option. -/
def value? (option : ValueOption) : Group → Option String
  | .valued other value => if other = option then some value else none
  | .flag _ => none

end Group

/-- An argument that asks for help. -/
def IsHelp (argument : String) : Prop := argument = "--help" ∨ argument = "-h"

/-- An argument that is not help and starts no group. -/
def IsUnknown (argument : String) : Prop :=
  ¬ IsHelp argument ∧ (∀ option : ValueOption, argument ≠ option.word) ∧ ∀ option : FlagOption, argument ≠ option.word

/-- Arguments that start with no group, and why nothing is run with them. -/
inductive Stops : List String → Refusal → Prop
  | help {argument : String} {rest : List String} (asks : IsHelp argument) : Stops (argument :: rest) .help
  | unknown {argument : String} {rest : List String} (unknown : IsUnknown argument) :
      Stops (argument :: rest) (.unknown argument)
  | lacksValue (option : ValueOption) : Stops [option.word] (.lacksValue option.word option.what)

/-- The value of the last group of an option. -/
def lastValue (option : ValueOption) (groups : List Group) : Option String :=
  (groups.filterMap (Group.value? option)).getLast?

/-- **Whether groups say so**: each value is the last one, and the flags are those that are given. -/
structure Arguments.SaidBy (a : Arguments) (groups : List Group) : Prop where
  definition : lastValue .definition groups = some a.definition
  output : lastValue .output groups = a.output
  runtime : lastValue .runtime groups = a.runtime
  diagnostics : a.diagnostics = true ↔ .flag .diagnostics ∈ groups
  strictExpressions : a.strictExpressions = true ↔ .flag .strictExpressions ∈ groups

/-- **What arguments mean.** They are groups, with a definition among them or without one, or groups and something else
behind them. -/
inductive Means : List String → Except Refusal Arguments → Prop
  | complete {groups : List Group} {a : Arguments} (said : a.SaidBy groups) : Means (groups.flatMap Group.words) (.ok a)
  | lacksDefinition {groups : List Group} (lacks : ∀ value, .valued .definition value ∉ groups) :
      Means (groups.flatMap Group.words) (.error .lacksDefinition)
  | stopped (groups : List Group) {rest : List String} {refusal : Refusal} (stops : Stops rest refusal) :
      Means (groups.flatMap Group.words ++ rest) (.error refusal)

/-- **Whether groups are in another order**, those of one option in the same. -/
structure Rearranged (groups others : List Group) : Prop where
  perm : groups.Perm others
  order : ∀ word, groups.filter (fun g => g.word = word) = others.filter fun g => g.word = word

/-! ## Values and flags -/

section Values

variable {option : ValueOption} {groups others : List Group} {value : String}

@[simp] theorem lastValue_nil (option : ValueOption) : lastValue option [] = none := rfl

@[simp] theorem lastValue_singleton (option : ValueOption) (g : Group) : lastValue option [g] = g.value? option := by
  cases own : g.value? option <;> simp [lastValue, own]

/-- Of the groups of an option the later count. -/
@[simp] theorem lastValue_append (option : ValueOption) (groups others : List Group) :
    lastValue option (groups ++ others) = (lastValue option others).or (lastValue option groups) := by
  simp [lastValue, List.filterMap_append, List.getLast?_append]

@[simp] theorem lastValue_cons (option : ValueOption) (g : Group) (groups : List Group) :
    lastValue option (g :: groups) = (lastValue option groups).or (g.value? option) := by
  rw [← List.singleton_append, lastValue_append, lastValue_singleton]

theorem value?_eq_some_iff {g : Group} : g.value? option = some value ↔ g = .valued option value := by
  cases g with
  | valued other own =>
    by_cases same : other = option
    · simp [Group.value?, same]
    · simp [Group.value?, same]
  | flag other => simp [Group.value?]

/-- Without a group there is no value, and only then. -/
theorem lastValue_eq_none_iff : lastValue option groups = none ↔ ∀ value, .valued option value ∉ groups := by
  rw [lastValue, List.getLast?_eq_none_iff, List.filterMap_eq_nil_iff]
  constructor
  · intro none value member
    have own := none _ member
    rw [value?_eq_some_iff.2 rfl] at own
    cases own
  · intro none g member
    cases own : g.value? option with
    | none => rfl
    | some value =>
      rw [value?_eq_some_iff.1 own] at member
      exact absurd member (none value)

/-- Only the groups of an option count for its value. -/
theorem lastValue_filter (option : ValueOption) (groups : List Group) :
    lastValue option (groups.filter fun g => g.word = option.word) = lastValue option groups := by
  have same (g : Group) : (if g.word = option.word then g.value? option else none) = g.value? option := by
    cases g with
    | valued other value =>
      by_cases own : other = option
      · simp [own, Group.word]
      · simp [own, Group.value?]
    | flag other => simp [Group.value?]
  simp [lastValue, List.filterMap_filter, same]

theorem Rearranged.lastValue_eq (h : Rearranged groups others) (option : ValueOption) :
    lastValue option groups = lastValue option others := by
  rw [← lastValue_filter, h.order, lastValue_filter]

end Values

/-! ## Reading -/

/-- What the reading of groups has found. -/
def said (groups : List Group) : Settings where
  definition := lastValue .definition groups
  output := lastValue .output groups
  runtime := lastValue .runtime groups
  diagnostics := .flag .diagnostics ∈ groups
  strictExpressions := .flag .strictExpressions ∈ groups

/-- Complete arguments, as groups say them. -/
def told (definition : String) (groups : List Group) : Arguments where
  definition := definition
  output := lastValue .output groups
  runtime := lastValue .runtime groups
  diagnostics := .flag .diagnostics ∈ groups
  strictExpressions := .flag .strictExpressions ∈ groups

section Reading

variable {groups others : List Group} {argument : String} {arguments rest : List String} {refusal : Refusal}

theorem settings_nil (s : Settings) : settings s [] = .ok s := rfl

/-- What is read as a group. -/
theorem settings_group (groups : List Group) (g : Group) (rest : List String) :
    settings (said groups) (g.words ++ rest) = settings (said (groups ++ [g])) rest := by
  cases g with
  | valued option value => cases option <;> simp [settings, Group.words, ValueOption.word, said, Group.value?]
  | flag option =>
    cases option
    all_goals
      rw [settings.eq_def]
      simp [Group.words, FlagOption.word, said, Group.value?]

/-- What is not read as a group. -/
theorem settings_of_stops (stops : Stops rest refusal) (s : Settings) : settings s rest = .error refusal := by
  cases stops with
  | help asks =>
    rw [settings.eq_def]
    exact if_pos asks
  | unknown unknown =>
    obtain ⟨helpless, values, flags⟩ := unknown
    rw [settings.eq_def]
    refine (if_neg helpless).trans ?_
    refine (if_neg (values .definition)).trans ?_
    refine (if_neg (values .output)).trans ?_
    refine (if_neg (values .runtime)).trans ?_
    refine (if_neg (flags .diagnostics)).trans ?_
    exact if_neg (flags .strictExpressions)
  | lacksValue option => cases option <;> simp [settings, ValueOption.word, ValueOption.what]

/-- **Groups are read one after the other.** -/
theorem settings_groups (groups others : List Group) (rest : List String) :
    settings (said groups) (others.flatMap Group.words ++ rest) = settings (said (groups ++ others)) rest := by
  induction others generalizing groups with
  | nil => simp
  | cons g others ih =>
    rw [List.flatMap_cons, List.append_assoc, settings_group, ih, List.append_assoc, List.singleton_append]

/-- Before the first group nothing is said. -/
theorem settings_front (groups : List Group) (rest : List String) :
    settings ⟨none, none, none, false, false⟩ (groups.flatMap Group.words ++ rest) = settings (said groups) rest :=
  settings_groups [] groups rest

/-- Something else behind groups is why nothing is run. -/
theorem parse_of_stops (groups : List Group) (stops : Stops rest refusal) :
    parse (groups.flatMap Group.words ++ rest) = .error refusal := by
  rw [parse, settings_front, settings_of_stops stops]
  rfl

/-- Groups are arguments, if there is a definition among them. -/
theorem parse_groups (groups : List Group) :
    parse (groups.flatMap Group.words) =
      match lastValue .definition groups with
      | none => .error .lacksDefinition
      | some definition => .ok (told definition groups) := by
  have read := settings_front groups []
  rw [List.append_nil, settings_nil] at read
  rw [parse, read]
  rfl

/-- Whatever the arguments are, they are groups and nothing else, or groups and something else behind them. -/
theorem exists_groups (arguments : List String) :
    ∃ (groups : List Group) (rest : List String),
      arguments = groups.flatMap Group.words ++ rest ∧ (rest = [] ∨ ∃ refusal, Stops rest refusal) := by
  induction length : arguments.length using Nat.strongRecOn generalizing arguments with
  | ind n ih =>
    subst length
    cases arguments with
    | nil => exact ⟨[], [], rfl, .inl rfl⟩
    | cons argument arguments =>
      -- a group is taken off, and the arguments behind it are split
      have behind (g : Group) (more : List String) (taken : argument :: arguments = g.words ++ more)
          (shorter : more.length < (argument :: arguments).length) :
          ∃ (groups : List Group) (rest : List String), argument :: arguments = groups.flatMap Group.words ++ rest ∧
            (rest = [] ∨ ∃ refusal, Stops rest refusal) := by
        obtain ⟨groups, rest, rfl, ends⟩ := ih _ shorter more rfl
        exact ⟨g :: groups, rest, by rw [taken, List.flatMap_cons, List.append_assoc], ends⟩
      by_cases asks : IsHelp argument
      · exact ⟨[], _, rfl, .inr ⟨_, .help asks⟩⟩
      by_cases valued : ∃ option : ValueOption, argument = option.word
      · obtain ⟨option, rfl⟩ := valued
        cases arguments with
        | nil => exact ⟨[], _, rfl, .inr ⟨_, .lacksValue option⟩⟩
        | cons value more => exact behind (.valued option value) more rfl (Nat.lt_succ_of_lt (Nat.lt_succ_self _))
      by_cases flagged : ∃ option : FlagOption, argument = option.word
      · obtain ⟨option, rfl⟩ := flagged
        exact behind (.flag option) arguments rfl (Nat.lt_succ_self _)
      · exact ⟨[], _, rfl, .inr ⟨_, .unknown ⟨asks, not_exists.1 valued, not_exists.1 flagged⟩⟩⟩

end Reading

/-! ## Meaning -/

section Meaning

variable {groups others : List Group} {arguments : List String} {outcome : Except Refusal Arguments}

/-- Arguments are read with their meaning. -/
theorem parse_of_means (means : Means arguments outcome) : parse arguments = outcome := by
  cases means with
  | complete said =>
    obtain ⟨definition, output, runtime, diagnostics, strictExpressions⟩ := said
    rw [parse_groups, definition]
    simp only [told, output, runtime, Except.ok.injEq]
    congr 1
    · exact Bool.eq_iff_iff.2 (decide_eq_true_iff.trans diagnostics.symm)
    · exact Bool.eq_iff_iff.2 (decide_eq_true_iff.trans strictExpressions.symm)
  | lacksDefinition lacks => rw [parse_groups, lastValue_eq_none_iff.2 lacks]
  | stopped groups stops => exact parse_of_stops groups stops

/-- All arguments have a meaning. -/
theorem exists_means (arguments : List String) : ∃ outcome, Means arguments outcome := by
  obtain ⟨groups, rest, rfl, rfl | ⟨refusal, stops⟩⟩ := exists_groups arguments
  · rw [List.append_nil]
    cases given : lastValue .definition groups with
    | none => exact ⟨_, .lacksDefinition (lastValue_eq_none_iff.1 given)⟩
    | some definition =>
      exact ⟨.ok (told definition groups), .complete ⟨given, rfl, rfl, decide_eq_true_iff, decide_eq_true_iff⟩⟩
  · exact ⟨_, .stopped groups stops⟩

/-- **Reading finds the meaning of arguments.** -/
theorem parse_eq_iff : parse arguments = outcome ↔ Means arguments outcome := by
  refine ⟨fun read => ?_, parse_of_means⟩
  obtain ⟨meant, means⟩ := exists_means arguments
  rwa [← read, parse_of_means means]

/-- Arguments are complete when they are groups and there is a definition among them. -/
theorem exists_parse_eq_ok_iff :
    (∃ a, parse arguments = .ok a) ↔
      ∃ groups : List Group, arguments = groups.flatMap Group.words ∧ ∃ value, .valued .definition value ∈ groups := by
  constructor
  · rintro ⟨a, read⟩
    cases parse_eq_iff.1 read with
    | complete said =>
      refine ⟨_, rfl, Classical.byContradiction fun lacks => ?_⟩
      have given := said.definition
      rw [lastValue_eq_none_iff.2 (not_exists.1 lacks)] at given
      cases given
  · rintro ⟨groups, rfl, value, member⟩
    cases given : lastValue .definition groups with
    | none => exact absurd member (lastValue_eq_none_iff.1 given value)
    | some definition => exact ⟨_, by rw [parse_groups, given]⟩

/-- Neighbours of different options may change places. -/
theorem Rearranged.swap (before after : List Group) {g h : Group} (differ : g.word ≠ h.word) :
    Rearranged (before ++ g :: h :: after) (before ++ h :: g :: after) := by
  refine ⟨List.Perm.append_left before (List.Perm.swap h g after), fun word => ?_⟩
  rw [List.filter_append, List.filter_append]
  by_cases first : g.word = word
  · have second : h.word ≠ word := fun same => differ (first.trans same.symm)
    simp [first, second]
  · simp [List.filter_cons, first]

/-- **Groups in another order say the same**, if those of one option stay in order. -/
theorem parse_rearranged (h : Rearranged groups others) :
    parse (others.flatMap Group.words) = parse (groups.flatMap Group.words) := by
  simp only [parse_groups, told, h.lastValue_eq, h.perm.mem_iff]

theorem Refusal.report_eq (refusal : Refusal) :
    refusal.report = ⟨if refusal = .help then 0 else 1, [],
      (refusal.message.toList.flatMap fun message => ["Error: " ++ message, ""]) ++ usage⟩ := by
  cases refusal <;> rfl

/-- **What arguments do.** They are read as the grammar has it. They are complete exactly when they are groups with a
definition among them, and their order matters only among groups of one option. Else the usage is shown, with the exit
code zero for help, and with an error before it and the exit code one for all others. -/
theorem parse_grouped {m : Type → Type} [Monad m] (fs : FileSystem m) (environment : Environment)
    (arguments : List String) :
    (∀ outcome, parse arguments = outcome ↔ Means arguments outcome) ∧
    ((∃ a, parse arguments = .ok a) ↔
      ∃ groups : List Group, arguments = groups.flatMap Group.words ∧ ∃ value, .valued .definition value ∈ groups) ∧
    (∀ groups others, arguments = groups.flatMap Group.words → Rearranged groups others →
      parse (others.flatMap Group.words) = parse arguments) ∧
    ∀ refusal, Means arguments (.error refusal) →
      run fs environment arguments = pure ⟨if refusal = .help then 0 else 1, [],
        (refusal.message.toList.flatMap fun message => ["Error: " ++ message, ""]) ++ usage⟩ := by
  refine ⟨fun outcome => parse_eq_iff, exists_parse_eq_ok_iff, ?_, fun refusal means => ?_⟩
  · rintro groups others rfl rearranged
    exact parse_rearranged rearranged
  · rw [run, parse_of_means means, ← refusal.report_eq]

end Meaning

/-- Values that look like options are values, and the output may be given before or between the definitions. -/
theorem parse_grouped_lookalike :
    parse ["--output", "--help", "--definition", "a.json", "--definition", "--strict-expressions"] =
        .ok ⟨"--strict-expressions", some "--help", none, false, false⟩ ∧
      parse ["--definition", "a.json", "--output", "--help", "--definition", "--strict-expressions"] =
        .ok ⟨"--strict-expressions", some "--help", none, false, false⟩ := by
  have read : parse ["--output", "--help", "--definition", "a.json", "--definition", "--strict-expressions"] =
      .ok ⟨"--strict-expressions", some "--help", none, false, false⟩ := by decide +kernel
  have swapped : Rearranged
      [.valued .output "--help", .valued .definition "a.json", .valued .definition "--strict-expressions"]
      [.valued .definition "a.json", .valued .output "--help", .valued .definition "--strict-expressions"] :=
    .swap [] [.valued .definition "--strict-expressions"] (by decide)
  refine ⟨read, ?_⟩
  rw [← read]
  exact (parse_grouped FileTree.fileSystem (fun _ => none) _).2.2.1 _ _ rfl swapped

end ProcessCompiler.CommandLine
