import Highlight.Tokenizer.OpenRules

/-!
# Scanning

What comes next in a line: of the end of the innermost rule and its candidates, the one whose
pattern matches first.  Where two match at the same place, the end goes before the candidates, or
after them if the rule says so, and an earlier candidate before a later one.

Searching is remembered in `Caches`: where each candidate matches next, for as long as the innermost
rule stays the same, and the compiled ends that depend on what a beginning matched.
-/

namespace Highlight

/-- Why a line cannot be tokenized. -/
inductive MatchError where
  /-- The line takes more rounds than allowed; `offset` is how far they led. -/
  | stepLimitExceeded (limit offset : Nat)
  /-- The end of a rule is no pattern once the groups of its beginning are put in. -/
  | dynamicEnd (cause : PatternError)
  /-- The state before the line holds a rule that the grammar does not have. -/
  | unknownRule (rule ruleCount : Nat)
  deriving Repr, DecidableEq, Inhabited

/-- The error in words. -/
def MatchError.message : MatchError → String
  | stepLimitExceeded limit offset =>
    "rule evaluation limit (" ++ toString limit ++ ") exceeded at offset " ++ toString offset
  | dynamicEnd _ => "Invalid resolved end pattern"
  | unknownRule rule ruleCount =>
    "state refers to rule #" ++ toString rule ++ " but the grammar has " ++ toString ruleCount ++
      " rules"

/-- What is remembered of earlier searches. -/
structure Caches where
  /-- Compiled ends by their text. -/
  ends : List (String × Matcher) := []
  /-- Where candidates match next, or that they do not. -/
  starts : List (RuleId × Option Nat) := []
  deriving Repr, Inhabited

namespace Caches

/-- No more compiled ends than this are remembered. -/
def endLimit : Nat := 256

/-- Remembers nothing. -/
def empty : Caches := {}

/-- Forgets where candidates match. -/
def forgetStarts (c : Caches) : Caches := { c with starts := [] }

/-- Remembers a compiled end.  When there are too many, all others are forgotten. -/
def addEnd (c : Caches) (pattern : String) (matcher : Matcher) : Caches :=
  { c with ends :=
      (pattern, matcher) :: if endLimit ≤ c.ends.length then [] else c.ends }

/-- Remembers where a candidate matches next. -/
def addStart (c : Caches) (id : RuleId) (start : Option Nat) : Caches :=
  { c with starts := (id, start) :: c.starts.filter (·.1 != id) }

end Caches

/-- A computation that may fail and remembers searches, also when it fails. -/
abbrev Scan := ExceptT MatchError (StateM Caches)

/-- What matches next. -/
inductive Hit where
  /-- The end of the innermost rule. -/
  | ending
  | rule (id : RuleId)
  deriving Repr, DecidableEq, Inhabited

namespace Scan

/-- The rule whose candidates are looked for. -/
def innermost (g : Grammar) (stack : OpenRules) : RuleId := stack.top?.getD g.root

/-- The compiled form of an end that depends on what the beginning matched, from memory if it has
been compiled before. -/
def compileEnd (pattern : String) : Scan Matcher := do
  match (← get).ends.lookup pattern with
  | some matcher => return matcher
  | none =>
    match Matcher.ofText pattern with
    | .error cause => throw (.dynamicEnd cause)
    | .ok matcher =>
      modify fun caches => caches.addEnd pattern matcher
      return matcher

/-- The end of the innermost rule, if it has one, and whether it yields to candidates.  Where no
rule is open nothing ends. -/
def endMatcher (g : Grammar) (stack : OpenRules) : Scan (Option Matcher × Bool) :=
  match g.rule? (innermost g stack) with
  | some (.span rule) =>
    match rule.ending, stack.ending? with
    | .fixed matcher, _ => return (if stack.isEmpty then none else some matcher, rule.endLast)
    | .dynamic _, some pattern => return (some (← compileEnd pattern), rule.endLast)
    | _, _ => return (none, rule.endLast)
  | _ => return (none, false)

/-- Where a candidate matches next, by a search or from memory.  What is remembered holds as long as
it does not lie behind. -/
def candidateStart (g : Grammar) (line : Line) (pos : Nat) (id : RuleId) : Scan (Option Nat) := do
  let search : Scan (Option Nat) :=
    match (g.rule? id).bind Rule.matcher? with
    | none => return none
    | some matcher => do
      let start := matcher.findStart? line pos
      modify fun caches => caches.addStart id start
      return start
  match (← get).starts.lookup id with
  | none => search
  | some none => return none
  | some (some start) => if pos ≤ start then return some start else search

/-- The alternative that matches first, so far. -/
abbrev Best := Option (Nat × Hit)

/-- Compares with one more alternative, which has to match earlier to be better. -/
def consider (best : Best) (start : Option Nat) (hit : Hit) : Best :=
  match start with
  | none => best
  | some start =>
    match best with
    | none => some (start, hit)
    | some (s, h) => if start < s then some (start, hit) else some (s, h)

/-- Compares with candidates in turn, until one matches right here. -/
def considerAll (g : Grammar) (line : Line) (pos : Nat) : Best → List RuleId → Scan Best
  | best, [] => return best
  | best, id :: ids => do
    if best.any fun (start, _) => start == pos then return best
    let start ← candidateStart g line pos id
    considerAll g line pos (consider best start (.rule id)) ids

/-- The alternative that matches first at or after a byte offset, and where. -/
def nextStart (g : Grammar) (line : Line) (pos : Nat) (stack : OpenRules)
    (ending : Option Matcher) (endLast : Bool) : Scan Best := do
  let endStart := ending.bind fun matcher => matcher.findStart? line pos
  let best := if endLast then none else consider none endStart .ending
  let best ← considerAll g line pos best (g.candidatesOf (innermost g stack))
  return if endLast then consider best endStart .ending else best

/-- What matches next at or after a byte offset, with its match. -/
def next (g : Grammar) (line : Line) (pos : Nat) (stack : OpenRules) :
    Scan (Option (Hit × Match)) := do
  if line.size < pos then return none
  let (ending, endLast) ← endMatcher g stack
  match ← nextStart g line pos stack ending endLast with
  | none => return none
  | some (start, hit) =>
    let matcher := match hit with
      | .ending => ending
      | .rule id => (g.rule? id).bind Rule.matcher?
    return (matcher.bind fun matcher => matcher.find? line start).map fun found => (hit, found)

end Scan

end Highlight
