/-!
# Lines of a document

A text breaks after each line feed, carriage return, vertical tab, form feed, next line, line
separator and paragraph separator; a carriage return with a line feed after it is one break.
`Document.brokenLines` gives the lines of a text with their breaks.

`Lines` are the texts of the lines of a document as they are tokenized: without the break that ends
them (`Document.dropBreak`).
-/

namespace Highlight

namespace Document

/-- Whether a character breaks a line. -/
def isBreak (c : Char) : Bool :=
  c == '\n' || c == '\r' || c == '\x0B' || c == '\x0C' || c == '\u0085' || c == '\u2028' ||
    c == '\u2029'

/-- The lines of a text, each with the break that ends it; the last one has none. -/
def brokenLines : List Char → List (List Char)
  | [] => [[]]
  | '\r' :: '\n' :: cs => ['\r', '\n'] :: brokenLines cs
  | c :: cs =>
    if isBreak c then [c] :: brokenLines cs
    else match brokenLines cs with
      | [] => [[c]]
      | line :: lines => (c :: line) :: lines

/-- The number of line breaks of a text that end at or before an offset. -/
def breaksBefore : List Char → Nat → Nat
  | _, 0 => 0
  | [], _ + 1 => 0
  | '\r' :: '\n' :: cs, n + 1 =>
    match n with
    | 0 => 0
    | n + 1 => 1 + breaksBefore cs n
  | c :: cs, n + 1 => (if isBreak c then 1 else 0) + breaksBefore cs n

/-- The characters without the last one if it satisfies `p`. -/
def dropLastIf (p : Char → Bool) (cs : List Char) : List Char :=
  match cs.getLast? with
  | none => []
  | some c => if p c then cs.dropLast else cs

/-- The line without its break: without a line feed at the end, then without a carriage return, then
without one of the other breaks. -/
def dropBreak (line : List Char) : List Char :=
  let line := dropLastIf (· == '\n') line
  let line := dropLastIf (· == '\r') line
  dropLastIf (fun c => isBreak c && c != '\n' && c != '\r') line

end Document

/-- The texts of the lines of a document, without their breaks. -/
abbrev Lines := Array String

namespace Lines

/-- The lines of a text. -/
def ofText (text : List Char) : Lines :=
  ((Document.brokenLines text).map fun line => String.ofList (Document.dropBreak line)).toArray

/-- The given lines, each of which may end with a break. -/
def ofList (lines : List String) : Lines :=
  (lines.map fun line => String.ofList (Document.dropBreak line.toList)).toArray

/-- The number of lines; a document has at least one. -/
def count (lines : Lines) : Nat := max lines.size 1

/-- The text of a line; beyond the last line there is none. -/
def text (lines : Lines) (i : Nat) : String := lines.getD i ""

end Lines

end Highlight
