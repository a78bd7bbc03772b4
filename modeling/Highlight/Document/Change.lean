import Highlight.Document.Lines

/-!
# Edits

A change to a text (`TextEdit`), and what it does to the lines of the text (`LineChange`): which
lines are replaced, and by how many.  `TextEdit.apply` makes the change and tells what it did.
-/

namespace Highlight

/-- The lines from `startLine` up to `endLine`, which is not included, are replaced by as many as
`newLineCount`. -/
structure LineChange where
  startLine : Nat
  endLine : Nat
  newLineCount : Nat
  deriving Repr, DecidableEq, Inhabited

namespace LineChange

/-- A change to one line. -/
def line (i : Nat) : LineChange := ⟨i, i + 1, 1⟩

/-- The number of lines that are replaced. -/
def replacedLineCount (e : LineChange) : Nat := e.endLine - e.startLine

end LineChange

/-- A change to a text, at offsets counted in characters. -/
inductive TextEdit where
  | insert (offset : Nat) (text : String)
  | delete (start stop : Nat)
  | replace (start stop : Nat) (text : String)
  deriving Repr, DecidableEq, Inhabited

namespace TextEdit

/-- Where the replaced part starts. -/
def start : TextEdit → Nat
  | insert offset _ => offset
  | delete start _ => start
  | replace start _ _ => start

/-- Where the replaced part ends. -/
def stop : TextEdit → Nat
  | insert offset _ => offset
  | delete _ stop => stop
  | replace _ stop _ => stop

/-- What stands in its place. -/
def inserted : TextEdit → List Char
  | insert _ text => text.toList
  | delete _ _ => []
  | replace _ _ text => text.toList

/-- Makes a change.  Offsets beyond the text count as its end, and an end before the start as the
start.

A deletion that joins a carriage return before it with a line feed after it ends in a line before
the one in which it starts.  There `newEndLine - startLine` is zero, while the same difference of
machine words would underflow: this is the case that `TextEdit.JoinsBreak` sets apart, and no
theorem says anything of the answer in it. -/
def apply (e : TextEdit) (text : List Char) : List Char × LineChange :=
  let start := min e.start text.length
  let stop := max start (min e.stop text.length)
  let changed := text.take start ++ e.inserted ++ text.drop stop
  let startLine := Document.breaksBefore text start
  let newEndLine := Document.breaksBefore changed (start + e.inserted.length)
  (changed, {
    startLine
    endLine := Document.breaksBefore text stop + 1
    newLineCount := newEndLine - startLine + 1 })

end TextEdit

end Highlight
