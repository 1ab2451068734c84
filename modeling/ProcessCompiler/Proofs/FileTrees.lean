import ProcessCompiler.FileSystem.Tree
import ProcessCompiler.Proofs.Construction
import ProcessCompiler.Proofs.FileViews

/-!
# The files of a tree

A tree in memory does with files what a file system is known to do, whether or not there is room in it. Where its files
can hold any number of bytes, all that is written fits.

* `FileTree.view`: the files that are seen in a tree.
* `FileTree.lawful_view`: the operations on a tree obey the laws.
* `FileTree.roomy_fileSystem`: there is room in a tree without a bound.
-/

namespace ProcessCompiler.FileTree

variable {tree after : FileTree} {capacity : Option Nat} {path : String}

/-! ## Paths -/

/-- An entry that takes the place of no directory stands there, and what stands elsewhere stays. -/
theorem find?_put_of_ne {place : List String} (free : tree.find? place ≠ some .directory) (entry : FileEntry)
    (other : List String) :
    (tree.put place entry).find? other = if other = place then some entry else tree.find? other := by
  cases above : other.isPrefixOf tree.working with
  | false => exact find?_put tree place other entry above
  | true =>
    have there : tree.find? other = some .directory := by rw [find?, if_pos above]
    have differ : other ≠ place := by
      rintro rfl
      exact free there
    rw [if_neg differ, there, find?]
    exact if_pos above

theorem walk_name {name : String} (plain : name ≠ "." ∧ name ≠ "..") (tree : FileTree) (directory names : List String) :
    tree.walk directory (name :: names) =
      if 255 < name.utf8ByteSize then .error .nameTooLong
      else
        match tree.find? (directory ++ [name]) with
        | none => .error .notFound
        | some (.file _) => .error .notDirectory
        | some .directory => tree.walk (directory ++ [name]) names := by
  rw [walk.eq_def]
  split
  · next same => cases same
  · next same =>
    cases same
    exact absurd rfl plain.1
  · next same =>
    cases same
    exact absurd rfl plain.2
  · next same =>
    cases same
    rfl

/-- A walk through directories does not see such an entry. -/
theorem walk_put {place : List String} (free : tree.find? place ≠ some .directory) (entry : FileEntry)
    {names directory reached : List String} (walked : tree.walk directory names = .ok reached) :
    (tree.put place entry).walk directory names = .ok reached := by
  induction names generalizing directory with
  | nil => exact walked
  | cons name names ih =>
    by_cases here : name = "."
    · subst here
      exact ih walked
    by_cases up : name = ".."
    · subst up
      exact ih walked
    rw [walk_name ⟨here, up⟩] at walked ⊢
    split at walked
    · cases walked
    · next short =>
      rw [if_neg short, find?_put_of_ne free]
      cases found : tree.find? (directory ++ [name]) with
      | none => simp [found] at walked
      | some other =>
        cases other with
        | file content => simp [found] at walked
        | directory =>
          have differ : directory ++ [name] ≠ place := fun same => free (same ▸ found)
          simp only [found] at walked
          simpa only [if_neg differ, found] using ih walked

/-- A path that leads to a place still leads there when such an entry takes a place. -/
theorem locate_put {place : List String} (free : tree.find? place ≠ some .directory) (entry : FileEntry)
    {path : String} {found : Place} (located : tree.locate path = .ok found) :
    (tree.put place entry).locate path = .ok found := by
  simp only [locate] at located ⊢
  split at located
  · cases located
  · next clean =>
    split at located
    · cases located
    · next named =>
      split at located
      · cases located
      · next short =>
        obtain ⟨directory, walked, located⟩ := Except.bind_eq_ok_iff.1 located
        rw [if_neg clean, if_neg named, if_neg short]
        exact Except.bind_eq_ok_iff.2 ⟨directory, walk_put free entry walked, located⟩

/-! ## Files -/

/-- The place of a file that a path can lead to. -/
def place? (tree : FileTree) (path : String) : Option (List String) :=
  match tree.locate path with
  | .ok (.entry place false) => some place
  | _ => none

/-- The bytes of the file in a place. -/
def content? (tree : FileTree) (place : List String) : Option ByteArray :=
  match tree.find? place with
  | some (.file content) => some content.toUTF8
  | _ => none

/-- **The files that are seen in a tree.** -/
def view (capacity : Option Nat) : FileView (fileSystemWithin capacity) where
  Place := List String
  leads? := place?
  content? := content?
  place := id

theorem place?_eq_some_iff {place : List String} :
    tree.place? path = some place ↔ tree.locate path = .ok (.entry place false) := by
  rw [place?]
  split
  · next located => simp [located]
  · next other =>
    refine ⟨nofun, fun located => ?_⟩
    exact absurd located (other place)

theorem content?_eq_some_iff {place : List String} {bytes : ByteArray} :
    tree.content? place = some bytes ↔ ∃ text, tree.find? place = some (.file text) ∧ text.toUTF8 = bytes := by
  rw [content?]
  split
  · next found => simp [found]
  · next other =>
    refine ⟨nofun, ?_⟩
    rintro ⟨text, found, _⟩
    exact absurd found (other text)

/-- A file that takes the place of no directory is there, and all other files are the same. -/
theorem content?_put {place : List String} (free : tree.find? place ≠ some .directory) (text : String)
    (other : List String) :
    (tree.put place (.file text)).content? other =
      if other = place then some text.toUTF8 else tree.content? other := by
  rw [content?, find?_put_of_ne free]
  by_cases same : other = place
  · rw [if_pos same, if_pos same]
  · rw [if_neg same, if_neg same]
    rfl

/-- What is read is the file that the path leads to. -/
theorem exists_of_read {text : String} (read : tree.read path = .ok text) :
    ∃ place, tree.place? path = some place ∧ tree.content? place = some text.toUTF8 := by
  rw [FileTree.read] at read
  obtain ⟨found, located, read⟩ := Except.bind_eq_ok_iff.1 read
  cases found with
  | directory path => cases read
  | entry place slash =>
    cases there : tree.find? place with
    | none => simp [there] at read
    | some entry =>
      cases entry with
      | directory => simp [there] at read
      | file content =>
        cases slash with
        | true => simp [there] at read
        | false =>
          obtain rfl : content = text := by simpa [there] using read
          exact ⟨place, place?_eq_some_iff.2 located, content?_eq_some_iff.2 ⟨content, there, rfl⟩⟩

/-- Making a directory changes no file. -/
theorem content?_of_create (created : tree.create path = .ok after) (other : List String) :
    after.content? other = tree.content? other := by
  rw [create] at created
  obtain ⟨found, _, created⟩ := Except.bind_eq_ok_iff.1 created
  cases found with
  | directory path => cases created
  | entry place slash =>
    cases there : tree.find? place with
    | some entry => simp [there] at created
    | none =>
      obtain rfl : tree.put place .directory = after := by simpa [there] using created
      rw [content?, find?_put_of_ne (by simp [there])]
      by_cases same : other = place
      · rw [if_pos same, content?, same, there]
      · rw [if_neg same]
        rfl

/-- A file that is opened takes the place of no directory. -/
theorem openFile_eq_ok {place : List String} (opens : tree.openFile path = .ok (place, after)) :
    tree.place? path = some place ∧ tree.find? place ≠ some .directory ∧ after = tree.put place (.file "") := by
  rw [openFile] at opens
  obtain ⟨found, located, opens⟩ := Except.bind_eq_ok_iff.1 opens
  cases found with
  | directory path => cases opens
  | entry place slash =>
    have free : tree.find? place ≠ some .directory := by
      intro there
      simp [there] at opens
    cases slash with
    | true =>
      simp only [if_true] at opens
      cases opens
    | false =>
      simp only [Bool.false_eq_true, if_false] at opens
      cases opens
      exact ⟨place?_eq_some_iff.2 located, free, rfl⟩

/-- A path that leads to a place of a file still does when such an entry takes a place. -/
theorem place?_put {place found : List String} (free : tree.find? place ≠ some .directory) (entry : FileEntry)
    (leads : tree.place? path = some found) : (tree.put place entry).place? path = some found :=
  place?_eq_some_iff.2 (locate_put free entry (place?_eq_some_iff.1 leads))

/-- What is written to a file takes the place of what is in it, and is all of the text if the writing succeeds. -/
theorem exists_fill_eq (capacity : Option Nat) (tree : FileTree) (place : List String) (content : String) :
    ∃ result written, tree.fill capacity place content = (result, tree.put place (.file written)) ∧
      (result = .ok () → written = content) := by
  cases capacity with
  | none => exact ⟨_, content, rfl, fun _ => rfl⟩
  | some bytes =>
    refine ⟨_, _, rfl, fun succeeded => ?_⟩
    split at succeeded
    · assumption
    · cases succeeded

/-! ## Laws -/

section Changing

variable {α : Type} {result : FileTree → Except FileError (α × FileTree)}

theorem eq_ok_of_changing_eq_ok {a : α} (run : changing result tree = (.ok a, after)) :
    result tree = .ok (a, after) := by
  unfold changing at run
  split at run
  · next done =>
    cases run
    exact done
  · cases run

theorem eq_of_changing_eq_error {e : FileError} (run : changing result tree = (.error e, after)) : after = tree := by
  unfold changing at run
  split at run
  · cases run
  · cases run
    rfl

end Changing

theorem sameFiles_createDirectory (path : String) (tree : FileTree) :
    (view capacity).SameFiles tree ((fileSystemWithin capacity).createDirectory path tree).2 := by
  change (view capacity).SameFiles tree (changing (fun tree => do return ((), ← tree.create path)) tree).2
  rcases run : changing (fun tree => do return ((), ← tree.create path)) tree with ⟨result, after⟩
  cases result with
  | error e =>
    rw [eq_of_changing_eq_error run]
    exact FileView.SameFiles.refl tree
  | ok =>
    obtain ⟨created, done, same⟩ := Except.bind_eq_ok_iff.1 (eq_ok_of_changing_eq_ok run)
    cases same
    exact content?_of_create done

/-- **A tree obeys the laws of files**, whatever its files can hold. -/
theorem lawful_view (capacity : Option Nat) : (view capacity).Lawful where
  holds_of_readText := by
    intro path text tree after run
    obtain ⟨read, _⟩ := Prod.mk.inj run
    exact exists_of_read read
  sameFiles_readText _ := FileView.SameFiles.refl
  sameFiles_createDirectory := sameFiles_createDirectory
  sameFiles_isDirectory _ := FileView.SameFiles.refl
  unopened := by
    intro path tree e after run
    change changing (fun tree => tree.openFile path) tree = _ at run
    rw [eq_of_changing_eq_error run]
    exact FileView.SameFiles.refl tree
  opened := by
    intro path tree place after run
    change changing (fun tree => tree.openFile path) tree = _ at run
    obtain ⟨leads, free, rfl⟩ := openFile_eq_ok (eq_ok_of_changing_eq_ok run)
    refine ⟨place?_put free _ leads, ?_, fun other differ => ?_⟩
    · exact (content?_put free "" place).trans (if_pos rfl)
    · exact (content?_put free "" other).trans (if_neg differ)
  filled := by
    intro place text tree result after empty run
    obtain ⟨_, there, _⟩ := content?_eq_some_iff.1 empty
    have free : tree.find? place ≠ some .directory := by
      rintro directory
      cases there.symm.trans directory
    obtain ⟨result', written, filled, whole⟩ := exists_fill_eq capacity tree place text
    cases filled.symm.trans run
    refine ⟨fun path found => place?_put free _, fun other differ => ?_, fun succeeded => ?_⟩
    · exact (content?_put free written other).trans (if_neg differ)
    · rw [whole succeeded]
      exact (content?_put free text place).trans (if_pos rfl)

/-- The file that was written is what is read under its path. -/
theorem read_of_wrote {before : FileTree} {content : String} (wrote : (view capacity).Wrote before after path content) :
    after.read path = .ok content := by
  obtain ⟨place, leads, written, _⟩ := wrote
  obtain ⟨text, there, same⟩ := content?_eq_some_iff.1 written
  rw [FileTree.read, place?_eq_some_iff.1 leads, ← String.toByteArray_inj.1 same]
  simp [bind, Except.bind, there]

end ProcessCompiler.FileTree
