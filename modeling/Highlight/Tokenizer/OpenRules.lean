import Highlight.Grammar.Rule
import Highlight.Text.Quoted

/-!
# Open rules

The rules that are open at the end of a line, one inside the other, are all that the next line
depends on.  Two lists of open rules agree when they hold the same rules with the same ends
(`OpenRules.agrees`); the scope paths that go with the rules are not compared.
-/

namespace Highlight

/-- An open rule. -/
structure OpenRule where
  rule : RuleId
  /-- The end of the rule, where it depends on what the beginning matched. -/
  ending : Option String
  /-- The scope path of the beginning and the end. -/
  nameScopes : ScopePath
  /-- The scope path of what stands between them. -/
  contentScopes : ScopePath
  deriving Repr, DecidableEq, Inhabited

/-- What is compared of an open rule. -/
def OpenRule.key (r : OpenRule) : RuleId × Option String := (r.rule, r.ending)

/-- The open rules, innermost first.  Where none is open, the root of the grammar is in force. -/
abbrev OpenRules := List OpenRule

namespace OpenRules

/-- Whether two lists hold the same rules with the same ends. -/
def agrees (a b : OpenRules) : Bool := a.map OpenRule.key == b.map OpenRule.key

/-- The innermost rule. -/
def top? (s : OpenRules) : Option RuleId := s.head?.map OpenRule.rule

/-- The end of the innermost rule, where it depends on what the beginning matched. -/
def ending? (s : OpenRules) : Option String := s.head?.bind OpenRule.ending

/-- The scope path between beginning and end of the innermost rule; the given one where no rule is
open. -/
def contentScopes (s : OpenRules) (root : ScopePath) : ScopePath :=
  match s with
  | [] => root
  | f :: _ => f.contentScopes

/-- The scope path of beginning and end of the innermost rule. -/
def nameScopes (s : OpenRules) : ScopePath :=
  match s with
  | [] => []
  | f :: _ => f.nameScopes

/-- Open rules in words: the numbers of its rules, outermost first, and the end of the innermost. -/
def describe (s : OpenRules) : String :=
  let rules := s.reverse.map fun f => "RuleId(" ++ toString f.rule ++ ")"
  let ending := match s.ending? with
    | none => "None"
    | some text => "Some(" ++ Text.quoted text ++ ")"
  "RuleStack \x7b rules: [" ++ ", ".intercalate rules ++ "], end: " ++ ending ++ " \x7d"

end OpenRules

end Highlight
