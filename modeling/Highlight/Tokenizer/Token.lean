import Highlight.Grammar.Rule

/-!
# Tokens

A token is a part of a line with a scope path.  The tokens of a line are made from left to right:
`Tokens.extend` covers the line up to some place, and joins what is new to the last token when both
have the same scope path.  `Tokens.addCaptures` covers a match with the scopes of its groups.
-/

namespace Highlight

/-- A part of a line, between two byte offsets, with its scope path. -/
structure Token where
  start : Nat
  stop : Nat
  scopes : ScopePath
  deriving Repr, DecidableEq, Inhabited

/-- The tokens of the front of a line, last token first. -/
abbrev Tokens := List Token

namespace Tokens

/-- How much of the line is covered. -/
def covered : Tokens → Nat
  | [] => 0
  | last :: _ => last.stop

/-- Covers the line up to `stop` with a scope path. -/
def extend (tokens : Tokens) (stop : Nat) (scopes : ScopePath) : Tokens :=
  if stop ≤ tokens.covered then tokens
  else match tokens with
    | [] => [⟨0, stop, scopes⟩]
    | last :: before =>
      if last.scopes == scopes then ⟨last.start, stop, scopes⟩ :: before
      else ⟨last.stop, stop, scopes⟩ :: last :: before

/-- The tokens of a whole line in order; an empty line has one empty token. -/
def finish (tokens : Tokens) (size : Nat) (scopes : ScopePath) : List Token :=
  match tokens.extend size scopes with
  | [] => [⟨0, 0, scopes⟩]
  | tokens => tokens.reverse

/-! ### Captures -/

/-- The tokens so far, and the groups that are open, innermost first, each with its end and the
scope path inside. -/
structure Nesting where
  tokens : Tokens
  opened : List (Nat × ScopePath) := []
  deriving Repr, Inhabited

/-- Closes the open groups that end at or before a place. -/
def closeBefore (start : Nat) : Tokens → List (Nat × ScopePath) → Nesting
  | tokens, [] => ⟨tokens, []⟩
  | tokens, (stop, scopes) :: outer =>
    if stop ≤ start then closeBefore start (tokens.extend stop scopes) outer
    else ⟨tokens, (stop, scopes) :: outer⟩

/-- Closes all open groups. -/
def closeAll : Tokens → List (Nat × ScopePath) → Tokens
  | tokens, [] => tokens
  | tokens, (stop, scopes) :: outer => closeAll (tokens.extend stop scopes) outer

/-- Opens a group inside those that are open where it starts. -/
def Nesting.openGroup (base : ScopePath) (n : Nesting) (span : Span) (scope : Scope) : Nesting :=
  let n := closeBefore span.start n.tokens n.opened
  let outer := match n.opened with
    | [] => base
    | (_, scopes) :: _ => scopes
  ⟨n.tokens.extend span.start outer, (span.stop, outer.push (some scope)) :: n.opened⟩

/-- Opens a group of a match if it holds any text. -/
def Nesting.addGroup (base : ScopePath) (found : Match) (n : Nesting) (capture : Nat × Scope) :
    Nesting :=
  match found.group? capture.1 with
  | none => n
  | some span => if span.isEmpty then n else n.openGroup base span capture.2

/-- Covers the groups of a match with their scopes.  Groups are taken by number, and one that starts
inside an earlier one has its scope inside the scope of that. -/
def addCaptures (tokens : Tokens) (base : ScopePath) (captures : Captures) (found : Match) :
    Tokens :=
  let n := captures.foldl (Nesting.addGroup base found) ⟨tokens, []⟩
  closeAll n.tokens n.opened

end Tokens

end Highlight
