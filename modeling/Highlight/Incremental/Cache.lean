import Highlight.Document.Change
import Highlight.Tokenizer.Line

/-!
# Line caches

For every line of a document the tokens and the rules open after it, as far as they are known, and
which lines are to be tokenized again.

A line is **changed** when its text is new, or when an earlier pass over the lines stopped before
it.  It may still have a result: what the rules open after it were before is what a new result is
compared with.  Lines from `pending` on may have results that rest on outdated ones; lines before it
are valid.
-/

namespace Highlight

/-- The result for one line. -/
structure CachedLine where
  tokens : List Token
  endState : OpenRules
  /-- The line could not be tokenized and is one token without scopes. -/
  gaveUp : Bool
  deriving Repr, DecidableEq, Inhabited

/-- What is known of one line. -/
structure LineEntry where
  result : Option CachedLine := none
  changed : Bool := true
  deriving Repr, DecidableEq, Inhabited

/-- What is known of the lines of a document, and the first line that is to be tokenized. -/
structure LineCache where
  entries : Array LineEntry
  pending : Option Nat
  deriving Repr, DecidableEq, Inhabited

namespace LineCache

/-- Nothing is known of any of the lines. -/
def new (lineCount : Nat) : LineCache := ⟨Array.replicate (max lineCount 1) {}, some 0⟩

/-- The number of lines. -/
def size (c : LineCache) : Nat := c.entries.size

/-- The result for a line. -/
def result? (c : LineCache) (i : Nat) : Option CachedLine := c.entries[i]?.bind LineEntry.result

/-- Notes that a line is changed. -/
def touch (c : LineCache) (i : Nat) : LineCache :=
  { c with entries := c.entries.modify i fun e => { e with changed := true } }

/-- Tokenizing has to begin at a line, or before it.  If it was to begin further on, that line is
changed, so that it is not passed over. -/
def beginAt (c : LineCache) (i : Nat) : LineCache :=
  if c.size ≤ i then c
  else match c.pending with
    | none => { c with pending := some i }
    | some pending => if pending ≤ i then c else { c.touch pending with pending := some i }

/-- Brings the cache to the number of lines of the document.  The last line that is kept may have
been cut short, so it is changed. -/
def resize (c : LineCache) (lineCount : Nat) : LineCache :=
  let total := max lineCount 1
  if c.size == total then c
  else
    let resized : LineCache :=
      if c.size < total then
        { c with entries := c.entries ++ Array.replicate (total - c.size) {} }
      else ⟨c.entries.take total, c.pending.filter (· < total)⟩
    let last := min c.size total - 1
    (resized.touch last).beginAt last

/-- Where tokenizing has to begin after lines have been replaced: a line behind them is moved, and
one among them becomes the first of them. -/
def shifted (start stop newCount size : Nat) (pending : Option Nat) : Option Nat :=
  (pending.map fun first =>
    if stop ≤ first then first - stop + start + newCount else min first start).filter (· < size)

/-- The entries with those from `start` up to `stop` replaced. -/
def splice (entries : Array LineEntry) (start stop : Nat) (new : Array LineEntry) :
    Array LineEntry :=
  entries.extract 0 start ++ new ++ entries.extract stop entries.size

/-- Entries for new lines, of which the last has the given result. -/
def newEntries (count : Nat) (baseline : Option CachedLine) : Array LineEntry :=
  (Array.replicate count {}).modify (count - 1) fun e => { e with result := baseline }

/-- Follows an edit.  The new lines are changed, and the last of them keeps the result of the last
line replaced, to be compared with.  When lines are only removed, the line that takes their place is
changed.  An event that does not fit the cache makes it forget everything. -/
def replaceLines (c : LineCache) (e : LineChange) (lineCount : Nat) : LineCache :=
  let start := e.startLine
  let stop := e.endLine
  if stop < start || c.size < stop then new lineCount
  else if e.newLineCount == 0 then
    let entries := splice c.entries start stop #[]
    if entries.isEmpty then new lineCount
    else
      let shortened : LineCache := ⟨entries, shifted start stop 0 entries.size c.pending⟩
      let begun := if start < entries.size then (shortened.touch start).beginAt start else shortened
      begun.resize lineCount
  else
    let baseline := if start < stop then c.result? (stop - 1) else none
    let entries := splice c.entries start stop (newEntries e.newLineCount baseline)
    let spliced : LineCache := ⟨entries, shifted start stop e.newLineCount entries.size c.pending⟩
    (spliced.beginAt start).resize lineCount

/-- The rules open before a line: those open after the line before it. -/
def incoming (c : LineCache) : Nat → OpenRules
  | 0 => []
  | i + 1 => match c.result? i with
    | none => []
    | some line => line.endState

/-- Puts in a new result for a line, which is no longer changed. -/
def store (c : LineCache) (i : Nat) (line : CachedLine) : LineCache :=
  { c with entries := c.entries.modify i fun _ => ⟨some line, false⟩ }

/-- The first changed line from `i` on, among as many as `n`. -/
def firstChanged (c : LineCache) : (n i : Nat) → Option Nat
  | 0, _ => none
  | n + 1, i =>
    match c.entries[i]? with
    | none => none
    | some e => if e.changed then some i else firstChanged c n (i + 1)

/-- Goes on behind a line.  When the rules open after it are what they were, the lines behind it
stay valid up to the next changed one. -/
def settle (c : LineCache) (i : Nat) (converged : Bool) : LineCache :=
  { c with pending :=
      if c.size ≤ i + 1 then none
      else if converged then c.firstChanged (c.size - (i + 1)) (i + 1)
      else some (i + 1) }

/-- The runs of marked lines, as first line and line after the last; `i` is the number of the first
mark, and `started` where the run that reaches up to it starts. -/
def runs : (i : Nat) → (started : Option Nat) → List Bool → List (Nat × Nat)
  | i, some start, [] => [(start, i)]
  | _, none, [] => []
  | i, started, true :: marks => runs (i + 1) (some (started.getD i)) marks
  | i, some start, false :: marks => (start, i) :: runs (i + 1) none marks
  | i, none, false :: marks => runs (i + 1) none marks

/-- The runs of changed lines. -/
def changedRuns (c : LineCache) : List (Nat × Nat) :=
  runs 0 none (c.entries.toList.map LineEntry.changed)

end LineCache

end Highlight
