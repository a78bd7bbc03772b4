import Highlight.Text.CharSet

/-!
# Lines

A line of text for searching.  Positions in a line are **byte offsets** into its UTF-8 form, counted
from zero; `Line.offset` and `Line.index` go between them and the numbers of characters.
-/

namespace Highlight

/-- A part of a line, between two byte offsets. -/
structure Span where
  start : Nat
  stop : Nat
  deriving Repr, DecidableEq, Inhabited

/-- Whether a span holds no byte. -/
def Span.isEmpty (s : Span) : Bool := s.stop ≤ s.start

/-- A line of text, with its characters and the byte offset at which each begins. -/
structure Line where
  text : String
  chars : Array Char
  offsets : Array Nat
  deriving Repr, Inhabited

namespace Line

/-- The byte offsets at which the characters begin when the first begins at `start`. -/
def offsetsFrom (start : Nat) : List Char → List Nat
  | [] => []
  | c :: cs => start :: offsetsFrom (start + c.utf8Size) cs

/-- The line with the given text. -/
def ofString (text : String) : Line :=
  { text, chars := text.toList.toArray, offsets := (offsetsFrom 0 text.toList).toArray }

/-- The length of a line in bytes. -/
def size (l : Line) : Nat := l.text.utf8ByteSize

/-- The byte offset at which a character begins; the length of the line beyond the last one. -/
def offset (l : Line) (i : Nat) : Nat := l.offsets.getD i l.size

/-- The number of the first character that begins at or after a byte offset. -/
def index (l : Line) (offset : Nat) : Nat :=
  match offset with
  | 0 => 0
  | b + 1 => CharSet.countUpTo l.offsets b l.offsets.size 0 l.offsets.size

/-- The text of a part of the line. -/
def slice (l : Line) (s : Span) : String :=
  let start := l.index s.start
  String.ofList ((l.chars.toList.drop start).take (l.index s.stop - start))

end Line

end Highlight
