import MarkupLint.Path
import MarkupLint.Text.File
import MarkupLint.Text.Quoted

/-!
Trees of files, and what can go wrong with them. A tree lists its files from the root on, and has a working
directory; directories are there as far as files or the working directory are below them, or because they were made.
There are no links, so a file has one place.
-/

namespace MarkupLint

/-- Why a file cannot be had. -/
inductive FileProblem where
  | notFound
  | taken
  | notDirectory
  | isDirectory
  | nameTooLong
  | nullByte
deriving DecidableEq, Repr

namespace FileProblem

/-- The number of a problem, if it is one of the file system. -/
def number? : FileProblem → Option Nat
  | notFound => some 2
  | taken => some 17
  | notDirectory => some 20
  | isDirectory => some 21
  | nameTooLong => some 36
  | nullByte => none

/-- The wording of a problem. -/
def wording : FileProblem → String
  | notFound => "No such file or directory"
  | taken => "File exists"
  | notDirectory => "Not a directory"
  | isDirectory => "Is a directory"
  | nameTooLong => "File name too long"
  | nullByte => "embedded null byte"

end FileProblem

/-- A problem with a file. -/
structure FileError where
  /-- What is wrong. -/
  problem : FileProblem
  /-- The file. -/
  path : Path
deriving DecidableEq, Repr

/-- The wording of a file error. -/
def FileError.message (e : FileError) : String :=
  match e.problem.number? with
  | some number => s!"[Errno {number}] {e.problem.wording}: {e.path.render.quoted}"
  | none => e.problem.wording

/-- Files, by the names on the way to them from the root on, and a working directory, where a path without a root
starts. -/
structure Tree where
  /-- The files with their bytes. -/
  files : List (List Text × List UInt8)
  /-- Directories without files. -/
  directories : List (List Text)
  /-- The names on the way to the working directory. -/
  working : List Text
deriving DecidableEq, Repr

namespace Tree

/-- The tree with files below a working directory and nowhere else. -/
def below (working : List Text) (files : List (List Text × List UInt8)) : Tree :=
  ⟨files.map fun (names, bytes) => (working ++ names, bytes), [], working⟩

/-- What is at a place. -/
inductive Found where
  | file (bytes : List UInt8)
  | directory
deriving DecidableEq, Repr

/-- What is at the end of the given names. -/
def at? (t : Tree) (names : List Text) : Option Found :=
  match t.files.lookup names with
  | some bytes => some (.file bytes)
  | none =>
    if names.isPrefixOf t.working ∨ t.files.any (fun f => names.isPrefixOf f.1) ∨
        t.directories.any (fun d => names.isPrefixOf d) then some .directory
    else none

/-- Follows names from the directory `here` on, whose innermost name comes first. The root is its own
parent. -/
def follow (t : Tree) : List Text → List Text → Except FileProblem (List Text)
  | here, [] => .ok here
  | here, name :: names =>
    if Path.maxName < (Text.toUtf8 name).length then .error .nameTooLong
    else if name = ['.', '.'] then follow t here.tail names
    else
      match t.at? (name :: here).reverse with
      | none => if names.isEmpty then .ok (name :: here) else .error .notFound
      | some .directory => follow t (name :: here) names
      | some (.file _) => if names.isEmpty then .ok (name :: here) else .error .notDirectory

/-- The directory in which a path with the given root starts. -/
def start (t : Tree) (root : Text) : List Text := if root.isEmpty then t.working else []

/-- The place that a path leads to, where there is something or something can be made. -/
def locate (t : Tree) (p : Path) : Except FileProblem (List Text) :=
  if p.render.contains '\x00' then .error .nullByte
  else if Path.maxLength < (Text.toUtf8 p.render).length then .error .nameTooLong
  else (t.follow (t.start p.root).reverse p.names).map List.reverse

/-- What is at a path. -/
def find (t : Tree) (p : Path) : Except FileProblem Found :=
  match t.locate p with
  | .error e => .error e
  | .ok place =>
    match t.at? place with
    | some found => .ok found
    | none => .error .notFound

/-- The bytes of the file at a path. -/
def read (t : Tree) (p : Path) : Except FileError (List UInt8) :=
  match t.find p with
  | .ok (.file bytes) => .ok bytes
  | .ok .directory => .error ⟨.isDirectory, p⟩
  | .error e => .error ⟨e, p⟩

/-- Whether there is a file at a path. A name that is too long is an error, and not only a file that is not
there. -/
def isFile (t : Tree) (p : Path) : Except FileError Bool :=
  match t.find p with
  | .ok (.file _) => .ok true
  | .ok .directory => .ok false
  | .error .nameTooLong => .error ⟨.nameTooLong, p⟩
  | .error _ => .ok false

/-- Makes a directory with all directories around it; `names` are the names of the path that are still to
be made, and `made` those made already. -/
def makeDirectories (t : Tree) (p : Path) : List Text → List Text → Except FileError Tree
  | _, [] => .ok t
  | made, name :: names =>
    let next := made ++ [name]
    let path : Path := { p with names := next }
    match t.find path with
    | .ok .directory => makeDirectories t p next names
    | .ok (.file _) =>
      .error (if names.isEmpty then ⟨.taken, path⟩ else ⟨.notDirectory, { p with names := next ++ names }⟩)
    | .error .notFound =>
      match t.locate path with
      | .ok place => makeDirectories { t with directories := place :: t.directories } p next names
      | .error e => .error ⟨e, path⟩
    | .error e => .error ⟨e, { p with names := next ++ names }⟩

/-- The tree with a file written, and the directories around it made. -/
def write (t : Tree) (p : Path) (bytes : List UInt8) : Except FileError Tree := do
  let t ← t.makeDirectories p.parent [] p.parent.names
  match t.locate p with
  | .error e => throw ⟨e, p⟩
  | .ok place =>
    if t.at? place = some .directory then throw ⟨.isDirectory, p⟩
    return { t with files := (place, bytes) :: t.files.filter (·.1 ≠ place) }

end Tree

end MarkupLint
