import Highlight.Text.Blank

/-!
# Scopes

A **scope** is a dot-separated name such as `string.quoted.double`, and a **scope path** lists the
scopes in force at some place, outermost first.  A selector matches a scope that it equals or that
goes on after it with a dot (`Scope.matches`), that is, when the dot-separated segments of the one
are the first segments of the other.
-/

namespace Highlight

/-- A dot-separated name. -/
abbrev Scope := String

/-- The scopes in force at some place, outermost first. -/
abbrev ScopePath := List Scope

/-- Whether a scope is the selector or goes on after it with a dot. -/
def Scope.matches (selector scope : Scope) : Bool :=
  match Text.dropFront? selector.toList scope.toList with
  | none => false
  | some [] => true
  | some (c :: _) => c == '.'

/-- The parts of a scope between its dots. -/
def Scope.segments (scope : Scope) : List String := Text.splitAt '.' scope

namespace ScopePath

/-- The path with one more scope inside, if one is given. -/
def push (path : ScopePath) : Option Scope → ScopePath
  | none => path
  | some scope => path ++ [scope]

/-- The scopes of a path with a blank between two. -/
def text (path : ScopePath) : String := " ".intercalate path

/-- The innermost scope. -/
def innermost? (path : ScopePath) : Option Scope := path.getLast?

end ScopePath

end Highlight
