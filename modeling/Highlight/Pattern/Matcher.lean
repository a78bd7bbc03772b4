import Highlight.Pattern.Program
import Highlight.Pattern.Reader
import Highlight.Text.Line

/-!
# Matchers

A pattern ready for searching.  `Matcher.ofText` reads and compiles a pattern, `Matcher.matchAt?`
looks for a match that begins at one character of a line, and `Matcher.find?` for the first match at
or after a byte offset: the one that begins at the least character at which there is one.  A search
sees the whole line, also what stands before the offset.
-/

namespace Highlight

/-- A match: the span of every group, where it took part.  Group `0` is the whole match. -/
structure Match where
  groups : Array (Option Span)
  deriving Repr, DecidableEq, Inhabited

namespace Match

/-- The span of a group, if there is such a group and it took part. -/
def group? (m : Match) (n : Nat) : Option Span := (m.groups[n]?).join

/-- The span of the whole match. -/
def whole? (m : Match) : Option Span := m.group? 0

/-- The text of every group of a match in a line. -/
def texts (m : Match) (line : Line) : List (Option String) :=
  m.groups.toList.map fun group => group.map line.slice

end Match

/-- A pattern ready for searching: its text, its program, and the characters with which a match can
begin unless it may be empty. -/
structure Matcher where
  source : String
  program : Pattern.Program
  firsts : Option CharSet
  deriving Repr, Inhabited

namespace Matcher

/-- Reads and compiles a pattern. -/
def ofText (source : String) : Except PatternError Matcher := do
  let (node, groups) ← Pattern.Node.ofText source
  let (e, _) ← Pattern.Expr.ofNode {} node
  unless e.size ≤ Pattern.Expr.sizeLimit do throw .tooLarge
  return {
    source
    program := .ofExpr e groups
    firsts := if e.canBeEmpty then none else some e.firsts }

/-- Whether a match can begin with the character at a place of a line. -/
def mayBegin (m : Matcher) (line : Line) (i : Nat) : Bool :=
  m.firsts.all fun firsts => line.chars[i]?.any firsts.contains

/-- The spans of the groups, given the characters at which they begin and end. -/
def spans (line : Line) (slots : Array (Option Nat)) : Array (Option Span) :=
  Array.ofFn fun i : Fin (slots.size / 2) =>
    match slots.getD (2 * i) none, slots.getD (2 * i + 1) none with
    | some start, some stop =>
      if start ≤ stop then some ⟨line.offset start, line.offset stop⟩ else none
    | _, _ => none

/-- The match that begins at a character of a line, given by its number. -/
def matchAt? (m : Matcher) (line : Line) (i : Nat) : Option Match :=
  if m.mayBegin line i then (m.program.run line.chars i).map fun slots => ⟨spans line slots⟩
  else none

/-- The first match that begins at one of `n` characters from the `i`-th on. -/
def findFrom? (m : Matcher) (line : Line) : (n i : Nat) → Option Match
  | 0, _ => none
  | n + 1, i =>
    match m.matchAt? line i with
    | some found => some found
    | none => findFrom? m line n (i + 1)

/-- The first match that begins at or after a byte offset; none beyond the end of the line. -/
def find? (m : Matcher) (line : Line) (offset : Nat) : Option Match :=
  if offset ≤ line.size then
    let i := line.index offset
    m.findFrom? line (line.chars.size + 1 - i) i
  else none

/-- Where the first match at or after a byte offset begins. -/
def findStart? (m : Matcher) (line : Line) (offset : Nat) : Option Nat :=
  (m.find? line offset).bind fun found => found.whole?.map Span.start

end Matcher

end Highlight
