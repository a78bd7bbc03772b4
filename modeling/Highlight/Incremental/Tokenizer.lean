import Highlight.Incremental.Cache

/-!
# Incremental tokenizing

`IncrementalTokenizer` keeps the tokens of a document up to date while it is edited.  An edit only
notes what is no longer valid; lines are tokenized when they are asked for, or a number of lines at
a time.  Tokenizing goes on from line to line until the rules open after a line are what they were
before, and then skips to the next changed line (`step`).

`tokenizeAll` tokenizes a whole document from its first line; it says what the incremental way has
to arrive at.
-/

namespace Highlight

/-- The tokens of a line that could not be tokenized, and the rules open after it: none. -/
def LineTokens.plain (text : String) : LineTokens := ⟨[⟨0, text.utf8ByteSize, []⟩], []⟩

namespace Tokenizer

/-- Tokenizes lines from the first of them on, given the rules open before it. -/
def tokenizeLines : Tokenizer → OpenRules → List String → List LineTokens
  | _, _, [] => []
  | t, state, text :: texts =>
    let (result, t) := t.tokenize text state
    let line := match result with
      | .ok line => line
      | .error _ => .plain text
    line :: tokenizeLines t line.state texts

end Tokenizer

/-- Tokenizes a document from its first line on. -/
def tokenizeAll (g : Grammar) (config : Config) (lines : Lines) : List LineTokens :=
  (Tokenizer.new g config).tokenizeLines []
    ((List.range lines.count).map fun i => lines.text i)

/-- What a number of steps led to. -/
structure Progress where
  /-- The number of lines tokenized. -/
  visited : Nat
  /-- The first line still to be tokenized. -/
  pending : Option Nat
  deriving Repr, DecidableEq, Inhabited

/-- Whether nothing is left to do. -/
def Progress.isIdle (p : Progress) : Bool := p.pending.isNone

/-- Keeps the tokens of one document up to date. -/
structure IncrementalTokenizer where
  tokenizer : Tokenizer
  cache : LineCache
  config : Config
  /-- How often all results have been dropped. -/
  resets : UInt64 := 0
  deriving Repr, Inhabited

namespace IncrementalTokenizer

/-- A tokenizer for a document of which nothing has been tokenized. -/
def new (g : Grammar) (config : Config) (lineCount : Nat) : IncrementalTokenizer where
  tokenizer := Tokenizer.new g config
  cache := LineCache.new lineCount
  config := config

/-- The grammar in use. -/
def grammar (d : IncrementalTokenizer) : Grammar := d.tokenizer.grammar

/-- The number of lines. -/
def lineCount (d : IncrementalTokenizer) : Nat := d.cache.size

/-- The first line still to be tokenized. -/
def pending (d : IncrementalTokenizer) : Option Nat := d.cache.pending

/-- Whether a line is still to be tokenized. -/
def isPending (d : IncrementalTokenizer) : Bool := d.cache.pending.isSome

/-- The runs of lines to be tokenized whatever stands before them. -/
def changedRanges (d : IncrementalTokenizer) : List (Nat × Nat) := d.cache.changedRuns

/-- Notes an edit, after which the document has the given number of lines. -/
def follow (d : IncrementalTokenizer) (e : LineChange) (lineCount : Nat) : IncrementalTokenizer :=
  { d with cache := d.cache.replaceLines e lineCount }

/-- Drops all results. -/
def forget (d : IncrementalTokenizer) (lineCount : Nat) : IncrementalTokenizer :=
  { d with
    cache := LineCache.new lineCount
    tokenizer := d.tokenizer.forget
    resets := d.resets + 1 }

/-- Goes over to another grammar. -/
def changeGrammar (d : IncrementalTokenizer) (g : Grammar) (lineCount : Nat) :
    IncrementalTokenizer :=
  { d with tokenizer := Tokenizer.new g d.config }.forget lineCount

/-- Tokenizes one line. -/
def step (d : IncrementalTokenizer) (lines : Lines) (i : Nat) : IncrementalTokenizer :=
  let text := lines.text i
  let (result, tokenizer) := d.tokenizer.tokenize text (d.cache.incoming i)
  let line : CachedLine := match result with
    | .ok line => ⟨line.tokens, line.state, false⟩
    | .error _ => ⟨(LineTokens.plain text).tokens, (LineTokens.plain text).state, true⟩
  let converged := (d.cache.result? i).any fun old => old.endState.agrees line.endState
  { d with tokenizer, cache := (d.cache.store i line).settle i converged }

/-- Tokenizes at most `budget` lines that are still to be tokenized; also how many they were. -/
def steps (lines : Lines) : (budget : Nat) → IncrementalTokenizer → Nat × IncrementalTokenizer
  | 0, d => (0, d)
  | budget + 1, d =>
    match d.cache.pending with
    | none => (0, d)
    | some i =>
      let (visited, d) := steps lines budget (d.step lines i)
      (visited + 1, d)

/-- Brings the number of lines up to date and tokenizes at most `budget` lines. -/
def advance (d : IncrementalTokenizer) (lines : Lines) (budget : Nat) :
    Progress × IncrementalTokenizer :=
  let (visited, d) := steps lines budget { d with cache := d.cache.resize lines.count }
  (⟨visited, d.cache.pending⟩, d)

/-- Tokenizes as many lines as are tokenized at a time. -/
def advanceSome (d : IncrementalTokenizer) (lines : Lines) : Progress × IncrementalTokenizer :=
  d.advance lines (max d.config.propagationChunkLines 1)

/-- Tokenizes until nothing is left to do; also how many lines were tokenized.  Every step leads
further on, so there are no more steps than lines. -/
def finish (d : IncrementalTokenizer) (lines : Lines) : Nat × IncrementalTokenizer :=
  let (progress, d) := d.advance lines lines.count
  (progress.visited, d)

/-- Tokenizes lines up to the given one; `n` bounds the number of steps. -/
def stepsTo (lines : Lines) (i : Nat) : (n : Nat) → IncrementalTokenizer → IncrementalTokenizer
  | 0, d => d
  | n + 1, d =>
    match d.cache.pending with
    | none => d
    | some pending => if i < pending then d else stepsTo lines i n (d.step lines pending)

/-- The tokens of a line, for which lines are tokenized as far as needed; none beyond the last
line. -/
def tokens (d : IncrementalTokenizer) (lines : Lines) (i : Nat) :
    Option (List Token) × IncrementalTokenizer :=
  let d := { d with cache := d.cache.resize lines.count }
  if d.cache.size ≤ i then (none, d)
  else
    let d := stepsTo lines i (i + 1) d
    ((d.cache.result? i).map CachedLine.tokens, d)

/-- The rules open after a line, if that is known. -/
def openAfter? (d : IncrementalTokenizer) (i : Nat) : Option OpenRules :=
  if d.cache.pending.any (· ≤ i) then none else (d.cache.result? i).map CachedLine.endState

/-- Whether a line could not be tokenized. -/
def gaveUp (d : IncrementalTokenizer) (i : Nat) : Bool :=
  (d.cache.result? i).any CachedLine.gaveUp

end IncrementalTokenizer

end Highlight
