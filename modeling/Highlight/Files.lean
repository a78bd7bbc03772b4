import Highlight.Path

/-!
# Files

`FileAccess m` says that files can be read and directories listed by actions of `m`, and `Files` are
files in memory: a tree of directories, one of which is the working directory, from which relative
paths start.

A path is walked part by part (`Files.locate`).  Every part but the last has to be a directory, and
the last one too when a slash or a dot follows it.
-/

namespace Highlight

/-- Why a file cannot be used. -/
inductive FileError where
  /-- There is nothing at the path. -/
  | notFound
  /-- A part of the path that should be a directory is a file. -/
  | notDirectory
  /-- There is a directory at the path. -/
  | isDirectory
  /-- The contents are no text. -/
  | notText
  /-- The path is none. -/
  | badPath
  deriving Repr, DecidableEq, Inhabited

/-- Files can be read, and directories listed. -/
class FileAccess (m : Type → Type) where
  /-- The text of a file. -/
  read : String → m (Except FileError String)
  /-- The names in a directory. -/
  list : String → m (Except FileError (List String))

/-- What stands at a place in a tree of files. -/
inductive FileEntry where
  | file (contents : ByteArray)
  | directory (entries : List (String × FileEntry))

instance : Inhabited FileEntry := ⟨.directory []⟩

namespace FileEntry

/-- The empty directory. -/
def empty : FileEntry := .directory []

/-- The entry of a directory under a name. -/
def child? : FileEntry → String → Option FileEntry
  | file _, _ => none
  | directory entries, name => entries.lookup name

/-- The entry at the end of a sequence of names. -/
def descend? (e : FileEntry) : List String → Option FileEntry
  | [] => some e
  | name :: names => (e.child? name).bind fun child => child.descend? names

/-- Whether an entry is a directory. -/
def isDirectory : FileEntry → Bool
  | directory _ => true
  | file _ => false

/-- The directory with an entry put under a name. -/
def withChild (e : FileEntry) (name : String) (child : FileEntry) : FileEntry :=
  match e with
  | file contents => .file contents
  | directory entries => .directory ((name, child) :: entries.filter (·.1 != name))

/-- The tree with an entry put at the end of a sequence of names, all but the last of which lead to
directories. -/
def place (e : FileEntry) (new : FileEntry) : List String → FileEntry
  | [] => new
  | name :: names => e.withChild name (((e.child? name).getD empty).place new names)

end FileEntry

/-- Files in memory. -/
structure Files where
  root : FileEntry := .empty
  /-- The names that lead to the working directory. -/
  working : List String := []
  deriving Inhabited

namespace Files

/-- The tree whose working directory is the only directory. -/
def ofWorking (working : List String) : Files := ⟨FileEntry.empty.place .empty working, working⟩

/-- Goes on from the place that names lead to.  The names are those to be gone through, and a
missing name is handed to `missing` with the place where it is missed. -/
def walk (missing : FileEntry → List String → String → Except FileError FileEntry) :
    FileEntry → List String → List String → Except FileError (FileEntry × List String)
  | root, place, [] => .ok (root, place)
  | root, place, part :: parts =>
    match root.descend? place with
    | some (.directory _) =>
      if part == "" || part == "." then walk missing root place parts
      else if part == ".." then walk missing root place.dropLast parts
      else
        let next := place ++ [part]
        match root.descend? next with
        | some _ => walk missing root next parts
        | none => do walk missing (← missing root next part) next parts
    | some (.file _) => .error .notDirectory
    | none => .error .notFound

/-- The place where a path starts, and its parts. -/
def start (f : Files) (path : String) : Except FileError (List String × List String) :=
  if path.isEmpty then .error .notFound
  else if path.toList.contains '\x00' then .error .badPath
  else .ok (if Path.isAbsolute path then [] else f.working, Text.splitAt '/' path)

/-- The names that lead to where a path ends. -/
def locate (f : Files) (path : String) : Except FileError (List String) := do
  let (place, parts) ← f.start path
  let (_, place) ← walk (fun _ _ _ => .error .notFound) f.root place parts
  return place

/-- What stands where a path ends. -/
def entry (f : Files) (path : String) : Except FileError FileEntry := do
  match f.root.descend? (← f.locate path) with
  | some e => return e
  | none => throw .notFound

/-- Whether there is anything at a path. -/
def pathExists (f : Files) (path : String) : Bool := (f.entry path).isOk

/-- The text of a file. -/
def read (f : Files) (path : String) : Except FileError String := do
  match ← f.entry path with
  | .directory _ => throw .isDirectory
  | .file contents =>
    match String.fromUTF8? contents with
    | some text => return text
    | none => throw .notText

/-- The names in a directory. -/
def list (f : Files) (path : String) : Except FileError (List String) := do
  match ← f.entry path with
  | .directory entries => return entries.map Prod.fst
  | .file _ => throw .notDirectory

/-- Makes a directory at a path, and all those around it that are missing. -/
def createDirectories (f : Files) (path : String) : Except FileError Files :=
  if path.isEmpty then .ok f
  else do
    let (place, parts) ← f.start path
    let (root, place) ←
      walk (fun root next _ => .ok (root.place .empty next)) f.root place parts
    match root.descend? place with
    | some (.directory _) => return { f with root }
    | _ => throw .notDirectory

/-- Puts a file at a path, whose directory has to be there. -/
def write (f : Files) (path : String) (contents : ByteArray) : Except FileError Files := do
  let (place, parts) ← f.start path
  match parts.getLast? with
  | none | some "" | some "." | some ".." => throw .isDirectory
  | some name =>
    let (_, place) ← walk (fun _ _ _ => .error .notFound) f.root place parts.dropLast
    match f.root.descend? place with
    | some (.directory entries) =>
      match entries.lookup name with
      | some (.directory _) => throw .isDirectory
      | _ => return { f with root := f.root.place (.file contents) (place ++ [name]) }
    | _ => throw .notDirectory

/-- Files in memory can be read and listed. -/
instance : FileAccess (ReaderM Files) where
  read path := do return (← MonadReader.read).read path
  list path := do return (← MonadReader.read).list path

end Files

end Highlight
