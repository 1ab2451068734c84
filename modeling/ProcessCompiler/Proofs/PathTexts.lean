import ProcessCompiler.Proofs.Locations

/-!
# Path texts of different processes

The file of a process has two parts that come from the id: the directory takes the id as it is, and the name of the file
takes an identifier made of it. Neither tells the id. The directory does not show whether a slash was behind the id, nor
whether an absolute id stands there or one that came behind the directory of all processes; the name does not show which
characters became underscores. But a slash at the end counts in the name, and an absolute id that reaches as far as the
other one has a longer name. So both parts together tell the id, whatever the data directory is.

* `OutputPath.toList_file`: the text of the path of a file.
* `OutputPath.eq_of_file_eq`: only one id gives it.
* `OutputPath.file_injective`: that needs both of its parts.
-/

namespace ProcessCompiler

/-! ## The length of an identifier -/

namespace Identifier

variable {cs : List Char}

theorem length_le_sanitizeChars (cs : List Char) : cs.length ≤ (sanitizeChars cs).length := by
  cases cs with
  | nil => exact Nat.zero_le _
  | cons c cs =>
    by_cases digit : c.isDigit = true
    · simp [sanitizeChars_of_isDigit digit]
    · simp [sanitizeChars_of_not_isDigit digit]

/-- An identifier is as long as the text it is made of, but for an underscore before a digit and for the empty text. -/
theorem sanitizeChars_length_le (cs : List Char) : (sanitizeChars cs).length ≤ max (cs.length + 1) 6 := by
  cases cs with
  | nil => decide
  | cons c cs =>
    refine Nat.le_trans ?_ (Nat.le_max_left _ _)
    by_cases digit : c.isDigit = true
    · simp [sanitizeChars_of_isDigit digit]
    · simp [sanitizeChars_of_not_isDigit digit]

/-- What is put behind a text makes its identifier that much longer. -/
theorem length_sanitizeChars_append (more : cs ≠ []) (ds : List Char) :
    (sanitizeChars (cs ++ ds)).length = (sanitizeChars cs).length + ds.length := by
  obtain ⟨c, cs, rfl⟩ := List.exists_cons_of_ne_nil more
  by_cases digit : c.isDigit = true
  · simp [sanitizeChars_of_isDigit digit, Nat.add_right_comm]
  · simp [sanitizeChars_of_not_isDigit digit, Nat.add_right_comm]

end Identifier

/-! ## Slashes -/

/-- A path with a slash behind it. -/
def slashed (cs : List Char) : List Char := if cs.getLast? = some '/' then cs else cs ++ ['/']

section Slashes

variable {cs ds : List Char}

theorem length_le_slashed (cs : List Char) : cs.length ≤ (slashed cs).length := by
  unfold slashed
  split <;> simp

theorem slashed_length_le (cs : List Char) : (slashed cs).length ≤ cs.length + 1 := by
  unfold slashed
  split <;> simp

/-- Paths that are the same with a slash behind them are the same, or differ by that slash. -/
theorem eq_or_of_slashed_eq (same : slashed cs = slashed ds) : cs = ds ∨ ds = cs ++ ['/'] ∨ cs = ds ++ ['/'] := by
  unfold slashed at same
  split at same <;> split at same
  · exact .inl same
  · exact .inr (.inr same)
  · exact .inr (.inl same.symm)
  · exact .inl (List.append_cancel_right same)

/-- A relative path behind another one comes behind a slash. -/
theorem toList_joinPath_slashed {base part : String} (more : base.toList ≠ [])
    (relative : part.toList.head? ≠ some '/') :
    (joinPath base part).toList = slashed base.toList ++ part.toList := by
  rw [toList_joinPath relative, if_neg more, slashed]
  split
  · rfl
  · rw [List.append_assoc, List.singleton_append]

/-- A name has no slash in it, so that nothing stands between a slash before it and the last one. -/
theorem eq_nil_of_slash_eq {between name other : List Char} (noSlash : '/' ∉ name)
    (same : '/' :: name = between ++ '/' :: other) : between = [] := by
  cases between with
  | nil => rfl
  | cons c between =>
    refine absurd ?_ noSlash
    rw [(List.cons.inj same).2]
    exact List.mem_append_right _ List.mem_cons_self

/-- The last slash is in one place only. -/
theorem eq_of_append_slash_eq {name other : List Char} (noSlash : '/' ∉ name) (noOther : '/' ∉ other)
    (same : cs ++ '/' :: name = ds ++ '/' :: other) : cs = ds ∧ name = other := by
  rcases List.append_eq_append_iff.1 same with ⟨between, rfl, rest⟩ | ⟨between, rfl, rest⟩
  · obtain rfl := eq_nil_of_slash_eq noSlash rest
    exact ⟨(List.append_nil _).symm, (List.cons.inj rest).2⟩
  · obtain rfl := eq_nil_of_slash_eq noOther rest
    exact ⟨List.append_nil _, (List.cons.inj rest).2.symm⟩

end Slashes

namespace OutputPath

variable {environment : Environment} {process other : String}

/-! ## The text of a path -/

/-- The directory of a process, without what is generated in it. -/
def home (environment : Environment) (process : String) : String := joinPath (processes environment) process

theorem fileName_eq_iff :
    fileName process = fileName other ↔
      Identifier.sanitizeChars process.toList = Identifier.sanitizeChars other.toList := by
  simp [fileName, Identifier.sanitize, String.ext_iff]

/-- The path of the directory of all processes is not short. -/
theorem le_length_processes (environment : Environment) : 9 ≤ (processes environment).toList.length := by
  have nine : "processes".toList.length = 9 := rfl
  rw [processes, toList_joinPath (by decide)]
  split
  · exact Nat.le_of_eq nine.symm
  · split
    · rw [List.length_append]
      omega
    · rw [List.length_append, List.length_cons]
      omega

theorem home_of_absolute (absolute : process.toList.head? = some '/') : home environment process = process :=
  joinPath_of_absolute absolute

theorem toList_home (relative : process.toList.head? ≠ some '/') :
    (home environment process).toList = slashed (processes environment).toList ++ process.toList :=
  toList_joinPath_slashed (List.ne_nil_of_length_pos (Nat.lt_of_lt_of_le (by decide) (le_length_processes environment)))
    relative

theorem toList_home_ne_nil (environment : Environment) (process : String) :
    (home environment process).toList ≠ [] := by
  by_cases absolute : process.toList.head? = some '/'
  · rw [home_of_absolute absolute]
    rintro none
    rw [none] at absolute
    cases absolute
  · have long := length_le_slashed (processes environment).toList
    have nine := le_length_processes environment
    rw [toList_home absolute]
    refine List.ne_nil_of_length_pos ?_
    rw [List.length_append]
    omega

theorem toList_directory (environment : Environment) (process : String) :
    (directory environment process).toList =
      slashed (home environment process).toList ++ "generated".toList :=
  toList_joinPath_slashed (toList_home_ne_nil environment process) (by decide)

/-- **The text of the path of a file**: the directory of the process, that of generated code, and the name. -/
theorem toList_file (environment : Environment) (process : String) :
    (file environment process).toList =
      (slashed (home environment process).toList ++ "generated".toList) ++ '/' :: (fileName process).toList := by
  have relative : (fileName process).toList.head? ≠ some '/' := fun front =>
    notMem_fileName process (List.mem_of_mem_head? front)
  have last : (directory environment process).toList.getLast? ≠ some '/' := by
    rw [toList_directory, List.getLast?_append_of_ne_nil _ (by decide)]
    decide
  rw [file, toList_joinPath relative, if_neg (by simp [toList_directory]), if_neg last, toList_directory]

/-! ## Which ids it can come from -/

/-- An id with a slash more has another name. -/
theorem ne_append_slash (absolute : process.toList.head? = some '/' ↔ other.toList.head? = some '/')
    (names : fileName process = fileName other) : other.toList ≠ process.toList ++ ['/'] := by
  intro longer
  have more : process.toList ≠ [] := by
    intro none
    simp [longer, none] at absolute
  have lengths := Identifier.length_sanitizeChars_append more ['/']
  rw [← longer, fileName_eq_iff.1 names, List.length_singleton] at lengths
  omega

/-- Two relative ids, or two absolute ones, with one directory and one name are the same. -/
theorem eq_of_slashed_eq {before : List Char}
    (absolute : process.toList.head? = some '/' ↔ other.toList.head? = some '/')
    (directories : slashed (before ++ process.toList) = slashed (before ++ other.toList))
    (names : fileName process = fileName other) : process = other := by
  refine String.toList_injective ?_
  rcases eq_or_of_slashed_eq directories with same | longer | longer
  · exact List.append_cancel_left same
  · rw [List.append_assoc] at longer
    exact absurd (List.append_cancel_left longer) (ne_append_slash absolute names)
  · rw [List.append_assoc] at longer
    exact absurd (List.append_cancel_left longer) (ne_append_slash absolute.symm names.symm)

/-- An absolute id and a relative one with one directory have different names. -/
theorem fileName_ne_of_slashed_eq (absolute : process.toList.head? = some '/')
    (relative : other.toList.head? ≠ some '/')
    (directories : slashed (home environment process).toList = slashed (home environment other).toList) :
    fileName process ≠ fileName other := by
  intro names
  -- the absolute id goes through the directory of all processes, and is longer by the name of that directory
  have nine := le_length_processes environment
  have front := length_le_slashed (processes environment).toList
  have least := length_le_slashed (home environment other).toList
  have most := slashed_length_le process.toList
  rw [← directories, toList_home relative, home_of_absolute absolute, List.length_append] at least
  have long := Identifier.length_le_sanitizeChars process.toList
  have short := Identifier.sanitizeChars_length_le other.toList
  rw [fileName_eq_iff.1 names] at long
  omega

/-- **Only one id gives the path of a file**, whatever the data directory is. -/
theorem eq_of_file_eq (same : file environment process = file environment other) : process = other := by
  have texts := congrArg String.toList same
  rw [toList_file, toList_file] at texts
  obtain ⟨directories, names⟩ := eq_of_append_slash_eq (notMem_fileName process) (notMem_fileName other) texts
  replace directories := List.append_cancel_right directories
  replace names := String.toList_injective names
  by_cases absolute : process.toList.head? = some '/' <;> by_cases absoluteOther : other.toList.head? = some '/'
  · rw [home_of_absolute absolute, home_of_absolute absoluteOther, ← List.nil_append process.toList,
      ← List.nil_append other.toList] at directories
    exact eq_of_slashed_eq (iff_of_true absolute absoluteOther) directories names
  · exact absurd names (fileName_ne_of_slashed_eq absolute absoluteOther directories)
  · exact absurd names.symm (fileName_ne_of_slashed_eq absoluteOther absolute directories.symm)
  · rw [toList_home absolute, toList_home absoluteOther] at directories
    exact eq_of_slashed_eq (iff_of_false absolute absoluteOther) directories names

/-- **Different processes have different path texts**, whatever the data directory is, although neither the name of the
file nor the directory it is in tells the process. -/
theorem file_injective :
    (∀ environment, Function.Injective (file environment)) ∧ ¬ Function.Injective fileName ∧
      ∀ environment, ¬ Function.Injective (directory environment) := by
  refine ⟨fun environment process other => eq_of_file_eq, fun injective => ?_, fun environment injective => ?_⟩
  · have collide : fileName "a-b" = fileName "a_b" := by decide +kernel
    exact absurd (injective collide) (by decide)
  · -- a slash behind the id is the one that would come there anyway
    have collide : directory environment "orders" = directory environment "orders/" := by
      refine String.toList_injective ?_
      rw [toList_directory, toList_directory, toList_home (by decide), toList_home (by decide)]
      simp [slashed]
    exact absurd (injective collide) (by decide)

/-- Different path texts may still lead to one file. -/
theorem exists_location_file_eq :
    ∃ process other, process ≠ other ∧
      ∀ environment, location (file environment process) = location (file environment other) := by
  refine ⟨"orders//", "orders/.", by decide, fun environment => ?_⟩
  have way : location "orders//" = location "orders/." := by decide +kernel
  have names : fileName "orders//" = fileName "orders/." := by decide +kernel
  rw [location_file, location_file, way, generated, generated, names]

end OutputPath

end ProcessCompiler
