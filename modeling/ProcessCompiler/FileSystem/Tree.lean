import ProcessCompiler.FileSystem

/-!
# A file system in memory

Directories and files stand under absolute paths, given as lists of names. A path of a request is walked name by name
from the root or from the working directory; what it passes through must be a directory. How much the files can hold may
be bounded: a text that does not fit is cut short in its file.
-/

namespace ProcessCompiler

/-- What stands under a path. -/
inductive FileEntry where
  | file (content : String)
  | directory
  deriving DecidableEq

/-- How many bytes an entry holds. -/
def FileEntry.size : FileEntry → Nat
  | .file content => content.utf8ByteSize
  | .directory => 0

/-- Entries by absolute path, and the working directory. The root and the working directory are always there. -/
structure FileTree where
  entries : List (List String × FileEntry)
  working : List String

/-- Where a path leads: to a directory that is there, or to a place for an entry in one. `slash` says whether the path
ends in a slash. -/
inductive Place where
  | directory (path : List String)
  | entry (path : List String) (slash : Bool)

namespace FileTree

/-- What stands under an absolute path. -/
def find? (tree : FileTree) (path : List String) : Option FileEntry :=
  if path.isPrefixOf tree.working then some .directory
  else (tree.entries.find? fun e => e.1 == path).map (·.2)

/-- Puts an entry under an absolute path. -/
def put (tree : FileTree) (path : List String) (entry : FileEntry) : FileTree :=
  { tree with entries := (path, entry) :: tree.entries.filter fun e => e.1 != path }

/-- What was put last under a path stands there, and what stands elsewhere stays. -/
theorem find?_put (tree : FileTree) (path other : List String) (entry : FileEntry)
    (h : other.isPrefixOf tree.working = false) :
    (tree.put path entry).find? other = if other = path then some entry else tree.find? other := by
  have here : other.isPrefixOf (tree.put path entry).working = false := h
  rw [find?, here, find?, h]
  by_cases same : other = path
  · simp [put, same]
  · have differ : path ≠ other := fun he => same he.symm
    simp only [put, List.find?_cons, beq_eq_false_iff_ne.2 differ, List.find?_filter, same, if_false]
    congr 3
    funext e
    by_cases he : e.1 = other <;> simp [he, same]

/-- The parts of a path between slashes, without empty ones. -/
def names : List Char → List (List Char) → List String
  | [], part => if part.isEmpty then [] else [String.ofList part.flatten.reverse]
  | '/' :: cs, part => if part.isEmpty then names cs [] else String.ofList part.flatten.reverse :: names cs []
  | c :: cs, part => names cs ([c] :: part)

/-- Walks through names, each of which must lead to a directory. -/
def walk (tree : FileTree) (directory : List String) : List String → Except FileError (List String)
  | [] => .ok directory
  | "." :: rest => walk tree directory rest
  | ".." :: rest => walk tree directory.dropLast rest
  | name :: rest =>
    if 255 < name.utf8ByteSize then .error .nameTooLong
    else
      match tree.find? (directory ++ [name]) with
      | none => .error .notFound
      | some (.file _) => .error .notDirectory
      | some .directory => walk tree (directory ++ [name]) rest

/-- Where a path leads. -/
def locate (tree : FileTree) (path : String) : Except FileError Place := do
  let cs := path.toList
  if cs.contains '\x00' then .error .nulInName
  else if cs.isEmpty then .error .notFound
  else if 4096 ≤ path.utf8ByteSize then .error .nameTooLong
  else
    let start := if cs.head? = some '/' then [] else tree.working
    let parts := names cs []
    let directory ← tree.walk start parts.dropLast
    match parts.getLast? with
    | none => .ok (.directory directory)
    | some "." => .ok (.directory directory)
    | some ".." => .ok (.directory directory.dropLast)
    | some name =>
      if 255 < name.utf8ByteSize then .error .nameTooLong
      else .ok (.entry (directory ++ [name]) (cs.getLast? = some '/'))

/-- The content of a file. -/
def read (tree : FileTree) (path : String) : Except FileError String := do
  match ← tree.locate path with
  | .directory _ => .error .isDirectory
  | .entry place slash =>
    match tree.find? place with
    | none => .error .notFound
    | some .directory => .error .isDirectory
    | some (.file content) => if slash then .error .notDirectory else .ok content

/-- The tree with a file opened to be written: it is made if it is not there, and empty. -/
def openFile (tree : FileTree) (path : String) : Except FileError (List String × FileTree) := do
  match ← tree.locate path with
  | .directory _ => .error .isDirectory
  | .entry place slash =>
    match tree.find? place with
    | some .directory => .error .isDirectory
    | _ => if slash then .error .isDirectory else .ok (place, tree.put place (.file ""))

/-- How many bytes the files of a tree hold. -/
def size (tree : FileTree) : Nat := tree.entries.foldl (fun bytes entry => bytes + entry.2.size) 0

/-- The characters at the start of a text that fit into a number of bytes. -/
def fitting : Nat → List Char → List Char
  | _, [] => []
  | room, c :: cs => if c.utf8Size ≤ room then c :: fitting (room - c.utf8Size) cs else []

/-- The wording of the error that there is no room for what is written. -/
def noRoom : FileError := .other "No space left on device (os error 28)"

/-- The tree with a text written to an empty file, and whether all of it is: if the files of the tree can hold so many
bytes only, what does not fit is left out. -/
def fill (capacity : Option Nat) (tree : FileTree) (place : List String) (content : String) :
    Except FileError Unit × FileTree :=
  match capacity with
  | none => (.ok (), tree.put place (.file content))
  | some bytes =>
    let written := String.ofList (fitting (bytes - tree.size) content.toList)
    (if written = content then .ok () else .error noRoom, tree.put place (.file written))

/-- The tree with a directory made, in a directory that is there. -/
def create (tree : FileTree) (path : String) : Except FileError FileTree := do
  match ← tree.locate path with
  | .directory _ => .error .exists
  | .entry place _ =>
    match tree.find? place with
    | some _ => .error .exists
    | none => .ok (tree.put place .directory)

/-- Whether a path leads to a directory. -/
def isDirectory (tree : FileTree) (path : String) : Bool :=
  match tree.locate path with
  | .ok (.directory _) => true
  | .ok (.entry place _) => tree.find? place = some .directory
  | .error _ => false

/-- The result of an operation that changes the tree if it succeeds. -/
def changing {α : Type} (result : FileTree → Except FileError (α × FileTree)) : StateM FileTree (Except FileError α) :=
  fun tree =>
    match result tree with
    | .ok (a, tree) => (.ok a, tree)
    | .error e => (.error e, tree)

/-- The operations on a tree whose files can hold so many bytes, or any number of them. -/
def fileSystemWithin (capacity : Option Nat) : FileSystem (StateM FileTree) where
  Handle := List String
  readText path := do return (← get).read path
  openFile path := changing fun tree => tree.openFile path
  writeAll place content := fun tree => tree.fill capacity place content
  createDirectory path := changing fun tree => do return ((), ← tree.create path)
  isDirectory path := do return (← get).isDirectory path

/-- The operations on a tree whose files can hold any number of bytes. -/
def fileSystem : FileSystem (StateM FileTree) := fileSystemWithin none

/-- The files of a tree below its working directory, by relative path. -/
def files (tree : FileTree) : List (String × String) :=
  tree.entries.filterMap fun (path, entry) =>
    match entry with
    | .file content =>
      if tree.working.isPrefixOf path then some ("/".intercalate (path.drop tree.working.length), content) else none
    | .directory => none

/-- The files of a tree that are new or changed since an earlier state of it. -/
def writtenSince (tree before : FileTree) : List (String × String) :=
  let old := before.files
  tree.files.filter fun file => !old.contains file

end FileTree

end ProcessCompiler
