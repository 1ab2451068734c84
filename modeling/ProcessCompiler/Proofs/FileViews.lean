import ProcessCompiler.FileSystem

/-!
# What is seen of files

What the operations of a file system do to files is said over a view of its states: where paths lead, and what is in the
files there. A state can be anything, so it may also say which operations are to fail. The laws are those of any file
system. They leave open whether a file that was opened takes all that is written to it: that there is room for it is a
property of its own.

* `FileView.SameFiles`, `FileView.Wrote`, `FileView.CutShort`: no file is changed, one file is written, one file is
  opened and not all of a text written to it.
* `FileView.Lawful`: what the operations are known to do to files.
* `FileSystem.Roomy`: whether there is room for what is written.
* `FileView.Keeps`: operations that change no file.
* `FileView.Lawful.wrote_of_writeText`, `FileView.Lawful.sameFiles_or_cutShort_of_writeText`: the writing of a file.
-/

namespace ProcessCompiler

theorem StateM.bind_eq_iff {σ α β : Type} {x : StateM σ α} {next : α → StateM σ β} {s s' : σ} {b : β} :
    (x >>= next) s = (b, s') ↔ ∃ a middle, x s = (a, middle) ∧ next a middle = (b, s') := by
  constructor
  · exact fun run => ⟨_, _, rfl, run⟩
  · rintro ⟨a, middle, first, run⟩
    change next (x s).1 (x s).2 = _
    rw [first]
    exact run

/-! ## Views -/

/-- **A view of files**: the place that a path leads to, the content of the file in a place, if there is one, and the
place of a file that is open. -/
structure FileView {σ : Type} (fs : FileSystem (StateM σ)) where
  Place : Type
  leads? : σ → String → Option Place
  content? : σ → Place → Option ByteArray
  place : fs.Handle → Place

namespace FileView

section Files

variable {σ : Type} {fs : FileSystem (StateM σ)} (view : FileView fs)

/-- **Whether the files of two states are the same**, in the same places and with the same content. -/
def SameFiles (before after : σ) : Prop := ∀ place, view.content? after place = view.content? before place

/-- Whether the files of two states are the same but for one place. -/
def SameOthers (place : view.Place) (before after : σ) : Prop :=
  ∀ other ≠ place, view.content? after other = view.content? before other

/-- Whether a path leads to a file with a text. -/
def Holds (s : σ) (path text : String) : Prop :=
  ∃ place, view.leads? s path = some place ∧ view.content? s place = some text.toUTF8

/-- **Whether one file was written**: the path leads to it, it has this content, and all other files are the same. -/
def Wrote (before after : σ) (path content : String) : Prop :=
  ∃ place, view.leads? after path = some place ∧ view.content? after place = some content.toUTF8 ∧
    view.SameOthers place before after

/-- **Whether the writing of one file was cut short**, as the last step: the file was opened when all files were the
same still, not all of the content was written to it, and all other files are the same. -/
def CutShort (before after : σ) (path content : String) : Prop :=
  ∃ middle file opened e, view.SameFiles before middle ∧ fs.openFile path middle = (.ok file, opened) ∧
    fs.writeAll file content opened = (.error e, after) ∧ view.leads? after path = some (view.place file) ∧
    view.SameOthers (view.place file) before after

variable {view} {s before middle after : σ} {path content : String} {place : view.Place}

theorem SameFiles.refl (s : σ) : view.SameFiles s s := fun _ => rfl

theorem SameFiles.trans (first : view.SameFiles before middle) (second : view.SameFiles middle after) :
    view.SameFiles before after := fun place => (second place).trans (first place)

theorem SameOthers.trans (first : view.SameOthers place before middle) (second : view.SameOthers place middle after) :
    view.SameOthers place before after := fun other differ => (second other differ).trans (first other differ)

theorem SameFiles.others (same : view.SameFiles before after) (place : view.Place) :
    view.SameOthers place before after := fun other _ => same other

theorem SameFiles.wrote (same : view.SameFiles before middle) (wrote : view.Wrote middle after path content) :
    view.Wrote before after path content := by
  obtain ⟨place, leads, written, others⟩ := wrote
  exact ⟨place, leads, written, (same.others place).trans others⟩

theorem SameFiles.cutShort (same : view.SameFiles before middle) (cut : view.CutShort middle after path content) :
    view.CutShort before after path content := by
  obtain ⟨last, file, opened, e, still, opens, fails, leads, others⟩ := cut
  exact ⟨last, file, opened, e, same.trans still, opens, fails, leads, (same.others _).trans others⟩

end Files

/-! ## Laws -/

/-- **What operations are known to do to files.** What is read from a path is the file there. Reading, making a
directory and asking for one change no file, nor does opening a file in vain. A file that is opened is where its path
leads, and empty. Writing to it changes no other file, and leaves paths where they lead; if it succeeds, all of the
text is in the file. -/
structure Lawful {σ : Type} {fs : FileSystem (StateM σ)} (view : FileView fs) : Prop where
  holds_of_readText : ∀ ⦃path text s s'⦄, fs.readText path s = (.ok text, s') → view.Holds s path text
  sameFiles_readText : ∀ path s, view.SameFiles s (fs.readText path s).2
  sameFiles_createDirectory : ∀ path s, view.SameFiles s (fs.createDirectory path s).2
  sameFiles_isDirectory : ∀ path s, view.SameFiles s (fs.isDirectory path s).2
  unopened : ∀ ⦃path s e s'⦄, fs.openFile path s = (.error e, s') → view.SameFiles s s'
  opened : ∀ ⦃path s file s'⦄, fs.openFile path s = (.ok file, s') →
    view.leads? s' path = some (view.place file) ∧ view.content? s' (view.place file) = some .empty ∧
      view.SameOthers (view.place file) s s'
  filled : ∀ ⦃file text s result s'⦄, view.content? s (view.place file) = some .empty →
    fs.writeAll file text s = (result, s') →
      (∀ ⦃path place⦄, view.leads? s path = some place → view.leads? s' path = some place) ∧
      view.SameOthers (view.place file) s s' ∧
      (result = .ok () → view.content? s' (view.place file) = some text.toUTF8)

/-- **Whether an operation changes no file**, whatever the state and whatever comes out. -/
def Keeps {σ : Type} {fs : FileSystem (StateM σ)} (view : FileView fs) {α : Type} (operation : StateM σ α) : Prop :=
  ∀ s : σ, view.SameFiles s (operation s).2

section Operations

variable {σ : Type} {fs : FileSystem (StateM σ)} {view : FileView fs} {s s' : σ} {path content : String}

namespace Keeps

variable {α β : Type}

theorem sameFiles {operation : StateM σ α} (keeps : view.Keeps operation) {a : α} (run : operation s = (a, s')) :
    view.SameFiles s s' := by
  have same := keeps s
  rwa [run] at same

theorem pure (a : α) : view.Keeps (pure a) := SameFiles.refl

theorem bind {operation : StateM σ α} {next : α → StateM σ β} (first : view.Keeps operation)
    (second : ∀ a, view.Keeps (next a)) : view.Keeps (operation >>= next) :=
  fun s => (first s).trans (second _ _)

theorem createInnermost (lawful : view.Lawful) (lacking paths : List String) :
    view.Keeps (fs.createInnermost lacking paths) := by
  induction paths generalizing lacking with
  | nil => exact pure _
  | cons path above ih =>
    refine bind (lawful.sameFiles_createDirectory path) fun result => ?_
    split
    · exact pure _
    · exact ih _
    · refine bind (lawful.sameFiles_isDirectory path) fun there => ?_
      split
      · exact pure _
      · exact pure _

theorem createEach (lawful : view.Lawful) (paths : List String) : view.Keeps (fs.createEach paths) := by
  induction paths with
  | nil => exact pure _
  | cons path rest ih =>
    refine bind (lawful.sameFiles_createDirectory path) fun result => ?_
    split
    · exact ih
    · refine bind (lawful.sameFiles_isDirectory path) fun there => ?_
      split
      · exact ih
      · exact pure _

/-- Making a directory and those above it changes no file. -/
theorem createAll (lawful : view.Lawful) (path : String) : view.Keeps (fs.createAll path) := by
  refine bind (createInnermost lawful _ _) fun result => ?_
  split
  · exact pure _
  · exact createEach lawful _

end Keeps

/-- A text that is written is in the file, and no other file is changed. -/
theorem Lawful.wrote_of_writeText (lawful : view.Lawful) (run : fs.writeText path content s = (.ok (), s')) :
    view.Wrote s s' path content := by
  obtain ⟨result, opened, opens, run⟩ := StateM.bind_eq_iff.1 run
  cases result with
  | error e => cases run
  | ok file =>
    obtain ⟨leads, empty, others⟩ := lawful.opened opens
    obtain ⟨still, others', written⟩ := lawful.filled empty run
    exact ⟨view.place file, still leads, written rfl, others.trans others'⟩

/-- A text that is not written leaves all files as they are, or is cut short in its file. -/
theorem Lawful.sameFiles_or_cutShort_of_writeText (lawful : view.Lawful) {e : FileError}
    (run : fs.writeText path content s = (.error e, s')) :
    view.SameFiles s s' ∨ view.CutShort s s' path content := by
  obtain ⟨result, opened, opens, run⟩ := StateM.bind_eq_iff.1 run
  cases result with
  | error e =>
    cases run
    exact .inl (lawful.unopened opens)
  | ok file =>
    obtain ⟨leads, empty, others⟩ := lawful.opened opens
    obtain ⟨still, others', _⟩ := lawful.filled empty run
    exact .inr ⟨s, file, opened, e, SameFiles.refl s, opens, run, still leads, others.trans others'⟩

end Operations

end FileView

end ProcessCompiler
