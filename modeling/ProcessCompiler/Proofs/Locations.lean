import Mathlib.Data.List.Basic
import ProcessCompiler.OutputPath
import ProcessCompiler.Proofs.Identifiers

/-!
# Where paths lead

A path starts at the root, or a number of directories above the place where it is used, and goes down from there. A
joined path leads where its second part leads from the place of the first, so that where the file of a process is can
be told from the data directory and the id. The id comes as the definition has it, and may lead anywhere: the file is
below the directory of all processes only when the id goes down again by the names that it went up over.

* `Location`: where a path leads, with its points resolved.
* `location_joinPath`: joined paths.
* `OutputPath.location_file`: where the file of a process is.
* `OutputPath.file_isBelow_iff`: when it is below the directory of all processes.
* `OutputPath.forall_file_isBelow_iff`: the ids that keep it there wherever the data directory is.
-/

namespace ProcessCompiler

/-! ## Locations -/

/-- Where a path starts: at the root, or a number of directories above the place where it is used. -/
inductive Origin where
  | root
  | above (climbs : Nat)
  deriving DecidableEq

/-- Further up. Nothing is above the root. -/
def Origin.climb (steps : Nat) : Origin → Origin
  | .root => .root
  | .above climbs => .above (climbs + steps)

/-- **Where a path leads**: where it starts, and the names that it goes down by from there. -/
structure Location where
  origin : Origin
  names : List (List Char)
  deriving DecidableEq

namespace Location

/-- The place where a path is used. -/
def here : Location := ⟨.above 0, []⟩

/-- What is so many directories up. -/
def up (l : Location) (steps : Nat) : Location :=
  ⟨l.origin.climb (steps - l.names.length), l.names.take (l.names.length - steps)⟩

/-- What is further down. -/
def down (l : Location) (names : List (List Char)) : Location := { l with names := l.names ++ names }

/-- One part of a path: an empty one and a point stay, two points go up, and a name goes down. -/
def enter (l : Location) (part : List Char) : Location :=
  if part = [] ∨ part = ['.'] then l
  else if part = ['.', '.'] then l.up 1
  else l.down [part]

/-- The parts of a path, one after the other. -/
def follow (l : Location) (parts : List (List Char)) : Location := parts.foldl enter l

/-- Where a path leads that is used in another place. -/
def join (l way : Location) : Location :=
  match way.origin with
  | .root => way
  | .above climbs => (l.up climbs).down way.names

/-- Whether a place is below a directory. -/
def IsBelow (l directory : Location) : Prop :=
  l.origin = directory.origin ∧ directory.names <+: l.names ∧ l.names ≠ directory.names

instance (l directory : Location) : Decidable (l.IsBelow directory) :=
  inferInstanceAs (Decidable (_ ∧ _ ∧ _))

/-- Whether a path that is used in a directory stays in it: from the root it goes down by all names of the directory,
else by those that it went up over. -/
def Stays (directory way : Location) : Prop :=
  match way.origin with
  | .root => directory.origin = .root ∧ directory.names <+: way.names
  | .above climbs => (directory.origin = .root ∨ climbs ≤ directory.names.length) ∧
      directory.names.drop (directory.names.length - climbs) <+: way.names

end Location

/-- Where the characters of a path lead. -/
def locate (cs : List Char) : Location :=
  (if cs.head? = some '/' then ⟨.root, []⟩ else Location.here).follow (cs.splitOn '/')

/-- **Where a path leads**, told from the path alone. -/
def location (path : String) : Location := locate path.toList

/-! ## Joining -/

theorem Origin.climb_climb (o : Origin) (m n : Nat) : (o.climb m).climb n = o.climb (m + n) := by
  cases o with
  | root => rfl
  | above => simp [climb, Nat.add_assoc]

@[simp] theorem Origin.climb_zero (o : Origin) : o.climb 0 = o := by
  cases o <;> rfl

theorem Origin.climb_eq_self_iff (o : Origin) (steps : Nat) : o.climb steps = o ↔ o = .root ∨ steps = 0 := by
  cases o <;> simp [climb]

namespace Location

variable {l way directory : Location} {climbs : Nat} {names : List (List Char)}

@[simp] theorem up_zero (l : Location) : l.up 0 = l := by
  simp [up]

/-- Going up, and then up again. -/
theorem up_up (l : Location) (m n : Nat) : (l.up m).up n = l.up (m + n) := by
  simp only [up, Origin.climb_climb, List.length_take, List.take_take, mk.injEq]
  exact ⟨by congr 1; omega, by congr 1; omega⟩

/-- Going up over the last name. -/
theorem up_one_concat (o : Origin) (names : List (List Char)) (name : List Char) :
    (Location.mk o (names ++ [name])).up 1 = ⟨o, names⟩ := by
  simp [up]

@[simp] theorem down_nil (l : Location) : l.down [] = l := by
  simp [down]

theorem down_down (l : Location) (names more : List (List Char)) :
    (l.down names).down more = l.down (names ++ more) := by
  simp [down]

theorem down_up_one (l : Location) (name : List Char) : (l.down [name]).up 1 = l := up_one_concat _ _ _

@[simp] theorem join_here (l : Location) : l.join here = l := by
  simp [join, here]

/-- Going down by the names of a path. -/
theorem join_down (l way : Location) (names : List (List Char)) :
    l.join (way.down names) = (l.join way).down names := by
  obtain ⟨_ | climbs, before⟩ := way
  · rfl
  · exact (down_down _ _ _).symm

/-- Going up by a path. -/
theorem join_up_one (l way : Location) : l.join (way.up 1) = (l.join way).up 1 := by
  obtain ⟨_ | climbs, before⟩ := way
  · rfl
  rcases List.eq_nil_or_concat before with rfl | ⟨before, name, rfl⟩
  · have higher : (Location.mk (.above climbs) []).up 1 = ⟨.above (climbs + 1), []⟩ := rfl
    rw [higher]
    simp only [join, down_nil, up_up]
  · rw [List.concat_eq_append, up_one_concat]
    simp only [join, ← down_down, down_up_one]

/-- **One part of a path** that is used elsewhere. -/
theorem join_enter (l way : Location) (part : List Char) : l.join (way.enter part) = (l.join way).enter part := by
  unfold enter
  split_ifs
  · rfl
  · exact join_up_one l way
  · exact join_down l way [part]

/-- **All parts of a path** that is used elsewhere. -/
theorem join_follow (l way : Location) (parts : List (List Char)) :
    l.join (way.follow parts) = (l.join way).follow parts := by
  induction parts generalizing way with
  | nil => rfl
  | cons part parts ih => rw [follow, List.foldl_cons, ← follow, ih, join_enter]; rfl

theorem follow_append (l : Location) (parts more : List (List Char)) :
    l.follow (parts ++ more) = (l.follow parts).follow more := List.foldl_append

/-- **When a path that is used in a directory leads below it.** Its last name is not that of the directory. -/
theorem join_isBelow_iff {name : List Char} (last : way.names.getLast? = some name)
    (apart : directory.names.getLast? ≠ some name) : (directory.join way).IsBelow directory ↔ directory.Stays way := by
  obtain ⟨origin, names⟩ := way
  cases origin with
  | root =>
    have differ : names ≠ directory.names := by rintro rfl; exact apart last
    simp [join, IsBelow, Stays, differ, eq_comm]
  | above climbs =>
    have differ (front : List (List Char)) : front ++ names ≠ directory.names := by
      intro same
      rw [← same, List.getLast?_append, last] at apart
      exact apart rfl
    -- the names above where the path turns are the same on both sides
    have turn : directory.names.take (directory.names.length - climbs) ++
        directory.names.drop (directory.names.length - climbs) <+:
          directory.names.take (directory.names.length - climbs) ++ names ↔
        directory.names.drop (directory.names.length - climbs) <+: names := List.prefix_append_right_inj _
    rw [List.take_append_drop] at turn
    simp [join, IsBelow, Stays, differ, up, down, Origin.climb_eq_self_iff, turn, Nat.sub_eq_zero_iff_le]

end Location

/-! ## Joined paths -/

section Joined

open Location

/-- A slash behind a path leads nowhere else. -/
theorem locate_append_slash {cs : List Char} (more : cs ≠ []) : locate (cs ++ ['/']) = locate cs := by
  have start : (cs ++ ['/']).head? = cs.head? := List.head?_append_of_ne_nil _ more
  rw [locate, start, List.splitOn_append_cons_self, follow_append]
  rfl

/-- A path behind a slash is used where what stands before the slash leads. -/
theorem locate_append (cs ds : List Char) :
    locate (cs ++ '/' :: ds) = (locate (cs ++ ['/'])).follow (ds.splitOn '/') := by
  have start : (cs ++ '/' :: ds).head? = (cs ++ ['/']).head? := by cases cs <;> rfl
  rw [locate, locate, start, List.splitOn_append_cons_self, List.splitOn_append_cons_self, follow_append,
    follow_append]
  rfl

/-- A path at the root is the same wherever it is used. -/
theorem joinPath_of_absolute {base part : String} (absolute : part.toList.head? = some '/') :
    joinPath base part = part := by
  unfold joinPath
  split
  · rfl
  · rename_i other
    obtain ⟨cs, chars⟩ := List.head?_eq_some_iff.1 absolute
    exact absurd chars (other cs)

/-- Any other path comes behind a slash, if there is something for it to come behind. -/
theorem toList_joinPath {base part : String} (relative : part.toList.head? ≠ some '/') :
    (joinPath base part).toList =
      if base.toList = [] then part.toList
      else if base.toList.getLast? = some '/' then base.toList ++ part.toList
      else base.toList ++ '/' :: part.toList := by
  unfold joinPath
  split
  · rename_i chars
    rw [chars] at relative
    exact absurd rfl relative
  cases last : base.toList.getLast? with
  | none => simp [List.getLast?_eq_none_iff.1 last]
  | some c =>
    have more : base.toList ≠ [] := by rintro none; rw [none] at last; cases last
    by_cases slash : c = '/'
    · subst slash
      simp [more]
    · simp [more, slash]

/-- A name without slashes, longer than two points, leads one down. -/
theorem locate_of_notMem {cs : List Char} (noSlash : '/' ∉ cs) (long : 2 < cs.length) : locate cs = here.down [cs] := by
  have start : cs.head? ≠ some '/' := fun front => noSlash (List.mem_of_mem_head? front)
  have apart {part : List Char} (short : part.length ≤ 2) : cs ≠ part := by
    rintro rfl
    exact absurd short (Nat.not_le_of_lt long)
  rw [locate, if_neg start, List.splitOn_eq_singleton noSlash, follow, List.foldl_cons, List.foldl_nil, enter,
    if_neg (not_or.2 ⟨apart (by decide), apart (by decide)⟩), if_neg (apart (by decide))]

/-- **A joined path** leads where the second part leads from the place of the first. -/
theorem location_joinPath (base part : String) :
    location (joinPath base part) = (location base).join (location part) := by
  by_cases absolute : part.toList.head? = some '/'
  · rw [joinPath_of_absolute absolute, location, locate, if_pos absolute, join_follow]
    rfl
  have there : (location base).join (location part) = (location base).follow (part.toList.splitOn '/') := by
    rw [location, location, locate, locate, if_neg absolute, join_follow, join_here]
  rw [there, location, toList_joinPath absolute]
  by_cases none : base.toList = []
  · rw [if_pos none, location, none, locate, if_neg absolute]
    rfl
  by_cases slash : base.toList.getLast? = some '/'
  · obtain ⟨cs, chars⟩ := List.getLast?_eq_some_iff.1 slash
    rw [if_neg none, if_pos slash, location, chars, ← locate_append, List.append_assoc, List.singleton_append]
  · rw [if_neg none, if_neg slash, location, ← locate_append_slash none, ← locate_append]

end Joined

/-! ## The file of a process -/

namespace OutputPath

/-- The directory of all processes. -/
def processes (environment : Environment) : String := joinPath (dataDirectory environment) "processes"

/-- The names that the file of a process has below the directory of the process. -/
def generated (process : String) : List (List Char) := ["generated".toList, (fileName process).toList]

theorem toList_fileName (process : String) :
    (fileName process).toList = (Identifier.sanitize process).toList ++ ".rs".toList :=
  String.toList_append

/-- No slash is in the name of a file. -/
theorem notMem_fileName (process : String) : '/' ∉ (fileName process).toList := by
  rw [toList_fileName, List.mem_append, not_or]
  refine ⟨fun member => ?_, by decide⟩
  exact absurd (Identifier.isPart_of_mem (Identifier.isIdentifier_sanitize process) member) (by decide)

/-- The name of a file is a name: it has no slash in it, and is no point or two. -/
theorem location_fileName (process : String) :
    location (fileName process) = Location.here.down [(fileName process).toList] := by
  refine locate_of_notMem (notMem_fileName process) ?_
  rw [toList_fileName, List.length_append]
  exact Nat.lt_add_left _ (by decide)

/-- The directory of all processes has its own name. -/
theorem location_processes (environment : Environment) :
    location (processes environment) = (location (dataDirectory environment)).down ["processes".toList] := by
  have processes_eq : location "processes" = Location.here.down ["processes".toList] := by decide +kernel
  rw [processes, location_joinPath, processes_eq, Location.join_down, Location.join_here]

/-- **Where the file of a process is**: where the id leads from the directory of all processes, and two names down. -/
theorem location_file (environment : Environment) (process : String) :
    location (file environment process) =
      (location (processes environment)).join ((location process).down (generated process)) := by
  have generated_eq : location "generated" = Location.here.down ["generated".toList] := by decide +kernel
  rw [file, directory, location_joinPath, location_joinPath, location_joinPath, location_fileName, generated_eq,
    Location.join_down, Location.join_down, Location.join_here, Location.join_here, Location.down_down,
    ← Location.join_down]
  rfl

/-- The last name of the file is not that of the directory. -/
theorem apart_processes (environment : Environment) (process : String) :
    (location (processes environment)).names.getLast? ≠ some (fileName process).toList := by
  intro same
  rw [location_processes, Location.down, List.getLast?_concat, Option.some.injEq] at same
  have point : '.' ∈ "processes".toList := by
    rw [same]
    simp [fileName]
  exact absurd point (by decide)

theorem last_generated (l : Location) (process : String) :
    (l.down (generated process)).names.getLast? = some (fileName process).toList := by
  simp [Location.down, generated]

/-- **When the file of a process is below the directory of all processes**: exactly when the id, with the two names
behind it, stays in that directory. The id is used as it is, so an absolute one or one that leads up need not. -/
theorem file_isBelow_iff (environment : Environment) (process : String) :
    (location (file environment process)).IsBelow (location (processes environment)) ↔
      (location (processes environment)).Stays ((location process).down (generated process)) := by
  rw [location_file]
  exact Location.join_isBelow_iff (last_generated _ process) (apart_processes environment process)

/-- The file of a process with an absolute id is not below the data directory. -/
theorem not_file_isBelow :
    ¬ (location (file (fun _ => none) "/srv/orders")).IsBelow (location (processes fun _ => none)) := by
  decide +kernel

/-- **The ids that keep the file below the directory of all processes, wherever the data directory is**: those that do
not lead up, and those that only lead out of the directory and in again. -/
theorem forall_file_isBelow_iff (process : String) :
    (∀ environment, (location (file environment process)).IsBelow (location (processes environment))) ↔
      (location process).origin = .above 0 ∨
        (location process).origin = .above 1 ∧ (location process).names.head? = some "processes".toList := by
  have stays_iff (environment : Environment) :
      (location (file environment process)).IsBelow (location (processes environment)) ↔
        ((location (dataDirectory environment)).down ["processes".toList]).Stays
          ((location process).down (generated process)) := by
    rw [location_file, Location.join_isBelow_iff (last_generated _ process) (apart_processes environment process),
      location_processes]
  simp only [stays_iff]
  obtain ⟨origin, names⟩ := location process
  constructor
  · -- the shortest data directory leaves nothing to lead out of but the directory itself
    intro all
    have bare : (location (dataDirectory fun _ => some "")).down ["processes".toList] =
        ⟨.above 0, ["processes".toList]⟩ := by decide +kernel
    have stays := all fun _ => some ""
    rw [bare] at stays
    cases origin with
    | root => cases stays.1
    | above climbs =>
      obtain ⟨near | near, goes⟩ := stays
      · cases near
      · have least : climbs = 0 ∨ climbs = 1 := by
          simp only [List.length_singleton] at near
          omega
        rcases least with rfl | rfl
        · exact .inl rfl
        · refine .inr ⟨rfl, ?_⟩
          cases names with
          | nil => exact absurd (List.cons_prefix_cons.1 goes).1 (by decide)
          | cons name names => rw [(List.cons_prefix_cons.1 goes).1]; rfl
  · rintro (level | ⟨one, front⟩) environment
    · obtain rfl : origin = .above 0 := level
      simp [Location.Stays, Location.down]
    · obtain rfl : origin = .above 1 := one
      obtain ⟨rest, rfl⟩ := List.head?_eq_some_iff.1 front
      simp [Location.Stays, Location.down]

end OutputPath

end ProcessCompiler
