import Highlight.Text.Blank

/-!
# Paths

Names of files, as texts with slashes between their parts.  `Path.join` goes on from one path with
another, and `Path.parts` are the parts of a path without those that lead nowhere, from which the
name of the file, its extension and the directory around it are read off.
-/

namespace Highlight.Path

/-- A part of a path. -/
inductive Part where
  /-- The slash at the front of an absolute path. -/
  | root
  /-- The dot at the front of a relative path. -/
  | here
  /-- Two dots: the directory around. -/
  | up
  | name (s : String)
  deriving Repr, DecidableEq, Inhabited

namespace Part

/-- The part written between two slashes; an empty one and a dot lead nowhere. -/
def ofText? (text : String) : Option Part :=
  if text == "" || text == "." then none
  else if text == ".." then some up
  else some (name text)

/-- The text of a part behind which another may stand. -/
def text : Part → String
  | root => ""
  | here => "."
  | up => ".."
  | name s => s

end Part

/-- Whether a path starts at the root of all files. -/
def isAbsolute (path : String) : Bool := path.toList.head? == some '/'

/-- The part that stands before all others. -/
def leading (path : String) : List Part :=
  if isAbsolute path then [.root]
  else if (Text.splitAt '/' path).head? == some "." then [.here]
  else []

/-- The parts of a path. -/
def parts (path : String) : List Part :=
  leading path ++ (Text.splitAt '/' path).filterMap Part.ofText?

/-- The path with the given parts. -/
def ofParts : List Part → String
  | [.root] => "/"
  | parts => "/".intercalate (parts.map Part.text)

/-- The path that goes on from a path with another; an absolute one stands for itself. -/
def join (path next : String) : String :=
  if isAbsolute next then next
  else if path.isEmpty || path.toList.getLast? == some '/' then path ++ next
  else path ++ "/" ++ next

/-- The name of the file at a path; none where the path ends at the root, at a dot or at two. -/
def fileName? (path : String) : Option String :=
  match (parts path).getLast? with
  | some (.name s) => some s
  | _ => none

/-- The path of the directory around a file; none for the root and the empty path. -/
def parent? (path : String) : Option String :=
  match (parts path).getLast? with
  | none | some .root => none
  | some _ => some (ofParts (parts path).dropLast)

/-- What stands behind the last dot of a file's name, unless that dot comes first. -/
def extension? (path : String) : Option String := do
  let name ← fileName? path
  match (Text.pieces (· == '.') name.toList).reverse with
  | last :: before :: front =>
    if front.isEmpty && before.isEmpty then none else some (String.ofList last)
  | _ => none

end Highlight.Path
