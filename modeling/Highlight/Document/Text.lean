import Highlight.Document.Change

/-!
# Documents

A text together with its lines.
-/

namespace Highlight

/-- A text and its lines. -/
structure Document where
  text : List Char
  lines : Lines
  lines_eq : lines = Lines.ofText text

namespace Document

/-- The document with the given characters. -/
def ofChars (text : List Char) : Document := ⟨text, Lines.ofText text, rfl⟩

/-- The document with the given text. -/
def ofText (text : String) : Document := ofChars text.toList

instance : Inhabited Document := ⟨ofChars []⟩

/-- The text of a document. -/
def toText (d : Document) : String := String.ofList d.text

/-- The number of lines. -/
def lineCount (d : Document) : Nat := d.lines.count

/-- The document after a change, and what the change does to its lines. -/
def edit (d : Document) (e : TextEdit) : Document × LineChange :=
  let (text, event) := e.apply d.text
  (ofChars text, event)

end Document

end Highlight
