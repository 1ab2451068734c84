/-!
# Files

What is done with files is said for any file system that has a few operations, so that it runs on the machine's and on
a tree in memory alike.

* `FileSystem.writeText`: writes a file, which is opened and then filled.
* `FileSystem.createAll`: makes a directory with all directories above it.
-/

namespace ProcessCompiler

/-- Why an operation on a file fails. -/
inductive FileError where
  | notFound
  | exists
  | notDirectory
  | isDirectory
  | nameTooLong
  | nulInName
  | other (message : String)
  deriving DecidableEq

/-- The wording of a file error. -/
def FileError.message : FileError → String
  | .notFound => "No such file or directory (os error 2)"
  | .exists => "File exists (os error 17)"
  | .notDirectory => "Not a directory (os error 20)"
  | .isDirectory => "Is a directory (os error 21)"
  | .nameTooLong => "File name too long (os error 36)"
  | .nulInName => "file name contained an unexpected NUL byte"
  | .other message => message

/-- The operations of a file system, in a monad. A file is opened to be written, which makes it if it is not there and
empties it if it is; what is then written to it can still fail halfway. -/
structure FileSystem (m : Type → Type) where
  Handle : Type
  readText : String → m (Except FileError String)
  openFile : String → m (Except FileError Handle)
  writeAll : Handle → String → m (Except FileError Unit)
  createDirectory : String → m (Except FileError Unit)
  isDirectory : String → m Bool

/-! ## Paths above a path -/

/-- Whether a path starts with a component that only says where it starts: a slash, or a point. -/
def startsInPlace : List Char → Bool
  | '/' :: _ | ['.'] | '.' :: '/' :: _ => true
  | _ => false

/-- The path without slashes and points at its end, down to what says where it starts. The path is reversed. -/
def trimReversed (kept : Nat) : List Char → List Char
  | '/' :: rest => if rest.length < kept then '/' :: rest else trimReversed kept rest
  | '.' :: '/' :: rest => if rest.length < kept then '.' :: '/' :: rest else trimReversed kept ('/' :: rest)
  | ['.'] => if kept = 0 then [] else ['.']
  | cs => cs

/-- The path above a path; none for the root and the empty path. -/
def parentPath (path : String) : Option String :=
  let cs := path.toList
  let kept := if startsInPlace cs then 1 else 0
  let trimmed := trimReversed kept cs.reverse
  if kept < trimmed.length then
    let body := trimmed.take (trimmed.length - kept)
    let start := trimmed.drop (trimmed.length - kept)
    let above := body.dropWhile (· ≠ '/') ++ start
    some (String.ofList (trimReversed kept above).reverse)
  else if cs.head? = some '.' then some ""
  else none

/-- The path and the paths above it, up to the root or the start of a relative path. -/
def pathsAbove : Nat → String → List String
  | 0, _ => []
  | fuel + 1, path =>
    match parentPath path with
    | none => []
    | some above => path :: pathsAbove fuel above

namespace FileSystem

variable {m : Type → Type} [Monad m]

/-- Writes a text to a file, in place of what is in it. -/
def writeText (fs : FileSystem m) (path content : String) : m (Except FileError Unit) := do
  match ← fs.openFile path with
  | .error e => pure (.error e)
  | .ok file => fs.writeAll file content

/-- Tries to make directories from the innermost on, until one is there; returns those that lack a parent, the outermost
first. -/
def createInnermost (fs : FileSystem m) : List String → List String → m (Except FileError (List String))
  | lacking, [] => pure (.ok lacking)
  | lacking, path :: above => do
    match ← fs.createDirectory path with
    | .ok () => pure (.ok lacking)
    | .error .notFound => createInnermost fs (path :: lacking) above
    | .error e => if ← fs.isDirectory path then pure (.ok lacking) else pure (.error e)

/-- Makes directories in order; one that is there already is fine. -/
def createEach (fs : FileSystem m) : List String → m (Except FileError Unit)
  | [] => pure (.ok ())
  | path :: rest => do
    match ← fs.createDirectory path with
    | .ok () => createEach fs rest
    | .error e => if ← fs.isDirectory path then createEach fs rest else pure (.error e)

/-- Makes a directory with all directories above it. -/
def createAll (fs : FileSystem m) (path : String) : m (Except FileError Unit) := do
  match ← fs.createInnermost [] (pathsAbove (path.length + 1) path) with
  | .error e => pure (.error e)
  | .ok lacking => fs.createEach lacking

end FileSystem

end ProcessCompiler
