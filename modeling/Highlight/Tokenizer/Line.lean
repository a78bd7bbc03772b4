import Highlight.Config
import Highlight.Grammar.Backreference
import Highlight.Tokenizer.Scan
import Highlight.Tokenizer.Token

/-!
# Tokenizing a line

`Tokenizer.tokenize` cuts a line into tokens, given the rules that are open before it, and answers
the rules that are open after it.  It goes in rounds (`Tokenizer.round`): each finds what matches
next, covers the line up to there, and closes the innermost rule, opens one, or goes on behind the
match.

A round that takes no character must not be repeated for ever.  The line is given up, and the rest
of it covered by one token, after a rule for an empty text, when a rule is opened without a
character that was opened in the same way at the same place and depth, and when a rule is closed
without a character where it was opened without one.
-/

namespace Highlight

/-- The tokens of a line, and the rules that are open after it. -/
structure LineTokens where
  tokens : List Token
  state : OpenRules
  deriving Repr, DecidableEq, Inhabited

/-- A tokenizer for the lines of a document: a grammar, limits, and what is remembered of earlier
searches. -/
structure Tokenizer where
  grammar : Grammar
  /-- The number of rounds that a line may take. -/
  stepLimit : Nat
  /-- Lines longer than this, in bytes, are not looked into. -/
  maxLineLength : Nat
  caches : Caches := {}
  deriving Repr, Inhabited

/-- A rule opened in the line: its number, the depth of the stack with it, and where its beginning
ends. -/
structure Opened where
  rule : RuleId
  depth : Nat
  offset : Nat
  deriving Repr, DecidableEq, Inhabited

/-- How far the tokenizing of a line has come. -/
structure LineProgress where
  stack : OpenRules
  tokens : Tokens := []
  pos : Nat := 0
  opened : List Opened := []
  deriving Repr, Inhabited

/-- What a round leads to. -/
inductive Round where
  /-- The line is done; what is not covered belongs to the innermost rule. -/
  | done (p : LineProgress)
  /-- There may be more to find. -/
  | more (p : LineProgress)
  deriving Repr, Inhabited

namespace Tokenizer

/-- A tokenizer that remembers nothing. -/
def new (grammar : Grammar) (config : Config) : Tokenizer where
  grammar := grammar
  stepLimit := max config.stepLimitPerLine 1
  maxLineLength := config.maxLineLength

/-- The tokenizer with everything it remembers forgotten. -/
def forget (t : Tokenizer) : Tokenizer := { t with caches := {} }

/-- The scope path in force where the given rules are open. -/
def contentScopes (g : Grammar) (stack : OpenRules) : ScopePath :=
  stack.contentScopes [g.scopeName]

/-- The captures of the end of a rule. -/
def endCaptures (g : Grammar) (stack : OpenRules) : Captures :=
  match stack.top?.bind g.rule? with
  | some (.span rule) => rule.endCaptures
  | _ => []

/-- The end of the innermost rule has been found. -/
def close (g : Grammar) (p : LineProgress) (whole : Span) (found : Match) : Round :=
  let name := p.stack.nameScopes
  let tokens := p.tokens.extend whole.start (contentScopes g p.stack)
  let tokens := tokens.addCaptures name (endCaptures g p.stack) found
  let tokens := tokens.extend whole.stop name
  let closed := { p with stack := p.stack.tail, tokens }
  if whole.isEmpty && p.opened.any fun o =>
      o.depth == p.stack.length && o.offset == whole.stop then .done closed
  else .more { closed with pos := whole.stop }

/-- A text for a rule has been found. -/
def take (g : Grammar) (p : LineProgress) (rule : MatchRule) (whole : Span) (found : Match) :
    Round :=
  let content := contentScopes g p.stack
  let name := content.push rule.name
  let tokens := p.tokens.extend whole.start content
  let tokens := tokens.addCaptures name rule.captures found
  let tokens := tokens.extend whole.stop name
  if whole.isEmpty then .done { p with tokens } else .more { p with tokens, pos := whole.stop }

/-- The end of a rule that is being opened, where it depends on what the beginning matched. -/
def resolvedEnd (line : Line) (rule : SpanRule) (found : Match) : Option String :=
  match rule.ending with
  | .dynamic pattern => some (Backreference.resolveText pattern (found.texts line))
  | _ => none

/-- The beginning of a rule has been found. -/
def enter (g : Grammar) (line : Line) (p : LineProgress) (id : RuleId) (rule : SpanRule)
    (whole : Span) (found : Match) : Round :=
  let depth := p.stack.length + 1
  if whole.isEmpty && p.opened.contains ⟨id, depth, whole.stop⟩ then .done p
  else
    let content := contentScopes g p.stack
    let name := content.push rule.name
    let tokens := p.tokens.extend whole.start content
    let tokens := tokens.addCaptures name rule.beginCaptures found
    let tokens := tokens.extend whole.stop name
    .more {
      stack := ⟨id, resolvedEnd line rule found, name, name.push rule.contentName⟩ :: p.stack
      tokens
      pos := whole.stop
      opened := ⟨id, depth, whole.stop⟩ :: p.opened }

/-- One round: finds what matches next and acts on it. -/
def round (g : Grammar) (line : Line) (p : LineProgress) : Scan Round := do
  match ← Scan.next g line p.pos p.stack with
  | none => return .done p
  | some (hit, found) =>
    let whole := found.whole?.getD ⟨p.pos, p.pos⟩
    match hit with
    | .ending =>
      modify Caches.forgetStarts
      return close g p whole found
    | .rule id =>
      match g.rule? id with
      | some (.matching rule) => return take g p rule whole found
      | some (.span rule) =>
        let next := enter g line p id rule whole found
        if next matches .more _ then modify Caches.forgetStarts
        return next
      | _ => return .done p

/-- Goes on for at most the given number of rounds; `limit` is how many there may be in all. -/
def rounds (g : Grammar) (line : Line) (limit : Nat) : Nat → LineProgress → Scan LineProgress
  | 0, p => throw (.stepLimitExceeded limit p.pos)
  | n + 1, p => do
    match ← round g line p with
    | .done p => return p
    | .more p => rounds g line limit n p

/-- Tokenizes a line that is not too long. -/
def tokenizeShort (g : Grammar) (limit : Nat) (text : String) (state : OpenRules) :
    Scan LineTokens := do
  match state.find? fun f => (g.rule? f.rule).isNone with
  | some f => throw (.unknownRule f.rule g.ruleCount)
  | none =>
    modify Caches.forgetStarts
    let line := Line.ofString text
    let p ← rounds g line limit limit { stack := state }
    return ⟨p.tokens.finish line.size (contentScopes g p.stack), p.stack⟩

/-- Tokenizes a line, given the rules that are open before it.  A line that is too long is one
token. -/
def tokenize (t : Tokenizer) (text : String) (state : OpenRules) :
    Except MatchError LineTokens × Tokenizer :=
  if t.maxLineLength < text.utf8ByteSize then
    (.ok ⟨Tokens.finish [] text.utf8ByteSize (contentScopes t.grammar state), state⟩, t)
  else
    let (result, caches) := (tokenizeShort t.grammar t.stepLimit text state).run.run t.caches
    (result, { t with caches })

/-- Tokenizes a line with a tokenizer that remembers nothing and has the usual limits. -/
def tokenizeOnce (g : Grammar) (text : String) (state : OpenRules) :
    Except MatchError LineTokens :=
  ((Tokenizer.new g {}).tokenize text state).1

end Tokenizer

end Highlight
