import Highlight.Pattern.Matcher
import Highlight.Scope

/-!
# Compiled grammars

A compiled grammar is a table of rules that refer to one another by number, so the rules may form
cycles.  A rule matches a text (`MatchRule`), stays open between a beginning and an end
(`SpanRule`), or stands for a list of rules (`Rule.group`).

The **candidates** of a rule are the rules that are looked for while it is open: its patterns, with
groups replaced by what is in them (`flatten`).
-/

namespace Highlight

/-- The number of a rule in its grammar.  There is no largest one here; numbers that are kept in
32-bit words are these as long as a grammar has no more than `2 ^ 32` rules. -/
abbrev RuleId := Nat

/-- The scopes of the groups of a pattern, by number; group `0` is the whole match. -/
abbrev Captures := List (Nat × Scope)

/-- How an open rule ends. -/
inductive EndPattern where
  /-- Where a pattern matches. -/
  | fixed (matcher : Matcher)
  /-- Where a pattern matches that depends on the groups of the beginning. -/
  | dynamic (pattern : String)
  /-- Never. -/
  | never
  deriving Repr, Inhabited

/-- A rule for a text that matches a pattern. -/
structure MatchRule where
  name : Option Scope
  matcher : Matcher
  captures : Captures
  deriving Repr, Inhabited

/-- A rule that is open from a beginning to an end. -/
structure SpanRule where
  name : Option Scope
  /-- The scope of what stands between beginning and end. -/
  contentName : Option Scope
  beginMatcher : Matcher
  beginCaptures : Captures
  ending : EndPattern
  endCaptures : Captures
  patterns : List RuleId
  /-- Whether the end yields to patterns that match at the same place. -/
  endLast : Bool
  deriving Repr, Inhabited

/-- A rule. -/
inductive Rule where
  | matching (rule : MatchRule)
  | span (rule : SpanRule)
  | group (patterns : List RuleId)
  deriving Repr, Inhabited

namespace Rule

/-- The rules that a rule lists. -/
def patterns : Rule → List RuleId
  | matching _ => []
  | span rule => rule.patterns
  | group patterns => patterns

/-- The pattern that has to match for the rule to apply; a group has none. -/
def matcher? : Rule → Option Matcher
  | matching rule => some rule.matcher
  | span rule => some rule.beginMatcher
  | group _ => none

end Rule

/-! ### Candidates -/

/-- Goes through the rules to do in order, with groups replaced by what is in them the first time
they are met, and collects the other rules.  The first argument bounds the number of rules met. -/
def flattenFrom (rules : Array Rule) : Nat → (toDo visited found : List RuleId) → List RuleId
  | 0, _, _, found => found
  | _ + 1, [], _, found => found
  | fuel + 1, id :: toDo, visited, found =>
    match rules[id]? with
    | none => flattenFrom rules fuel toDo visited found
    | some (.group patterns) =>
      if visited.contains id then flattenFrom rules fuel toDo visited found
      else flattenFrom rules fuel (patterns ++ toDo) (id :: visited) found
    | some _ => flattenFrom rules fuel toDo visited (Text.appendNew found id)

/-- The number of places at which rules of a list list rules. -/
def patternCountOf : List Rule → Nat
  | [] => 0
  | rule :: rules => rule.patterns.length + patternCountOf rules

/-- The number of places at which rules list rules. -/
def patternCount (rules : Array Rule) : Nat := patternCountOf rules.toList

/-- The rules listed by a rule, with groups replaced by what is in them; every rule once, where it
is first met. -/
def flatten (rules : Array Rule) (id : RuleId) : List RuleId :=
  match rules[id]? with
  | none => []
  | some rule => flattenFrom rules (patternCount rules + 1) rule.patterns [id] []

/-! ### Grammars -/

/-- A compiled grammar. -/
structure Grammar where
  scopeName : Scope
  root : RuleId
  rules : Array Rule
  /-- The candidates of each rule. -/
  candidates : Array (List RuleId)
  deriving Repr, Inhabited

namespace Grammar

/-- The grammar with the given rules. -/
def ofRules (scopeName : Scope) (root : RuleId) (rules : Array Rule) : Grammar where
  scopeName := scopeName
  root := root
  rules := rules
  candidates := Array.ofFn fun i : Fin rules.size => flatten rules i

/-- The number of rules. -/
def ruleCount (g : Grammar) : Nat := g.rules.size

/-- The rule of the given number. -/
def rule? (g : Grammar) (id : RuleId) : Option Rule := g.rules[id]?

/-- The candidates of a rule. -/
def candidatesOf (g : Grammar) (id : RuleId) : List RuleId := g.candidates.getD id []

end Grammar

end Highlight
