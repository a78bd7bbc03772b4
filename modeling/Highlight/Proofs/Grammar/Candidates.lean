import Highlight.Grammar.Rule
import Highlight.Proofs.Text.Distinct

/-!
# Grammars that hold all their rules

A grammar is **closed** when every number in it is that of one of its rules: the root, the patterns
of the rules, and the candidates, which are moreover rules for a text or rules with a beginning
(`Grammar.Closed`).  The candidates need no attention, since going through the patterns never finds
anything else (`mem_flatten`); so a grammar is closed as soon as its root is a group and its
patterns are rules (`Grammar.closed_ofRules`).
-/

namespace Highlight

/-- A rule that is looked for in a line. -/
inductive Rule.IsCandidate : Rule → Prop where
  | matching (rule : MatchRule) : IsCandidate (.matching rule)
  | span (rule : SpanRule) : IsCandidate (.span rule)

/-- Every number in the grammar is that of a rule. -/
structure Grammar.Closed (g : Grammar) : Prop where
  root_eq : g.root = 0
  root_group : ∃ patterns, g.rule? g.root = some (.group patterns)
  pattern_lt : ∀ id rule, g.rule? id = some rule → ∀ pattern ∈ rule.patterns,
    pattern < g.ruleCount
  candidates_size : g.candidates.size = g.ruleCount
  candidate : ∀ ids ∈ g.candidates, ∀ id ∈ ids, ∃ rule, g.rule? id = some rule ∧ rule.IsCandidate

namespace Grammar

variable {g : Grammar} {id : RuleId}

theorem lt_of_rule?_eq_some {rule : Rule} (h : g.rule? id = some rule) : id < g.ruleCount :=
  (Array.getElem?_eq_some_iff.1 h).1

theorem exists_rule?_of_lt (h : id < g.ruleCount) : ∃ rule, g.rule? id = some rule :=
  ⟨g.rules[id], Array.getElem?_eq_getElem h⟩

namespace Closed

theorem root_lt (h : g.Closed) : g.root < g.ruleCount := by
  obtain ⟨patterns, hroot⟩ := h.root_group
  exact lt_of_rule?_eq_some hroot

theorem candidate_lt (h : g.Closed) {ids : List RuleId} (hids : ids ∈ g.candidates)
    (hid : id ∈ ids) : id < g.ruleCount := by
  obtain ⟨rule, hrule, -⟩ := h.candidate ids hids id hid
  exact lt_of_rule?_eq_some hrule

end Closed

end Grammar

/-! ### Candidates -/

section

variable {rules : Array Rule} {id : RuleId}

/-- Going through the rules to do finds only rules that can be looked for. -/
theorem mem_flattenFrom {fuel : Nat} {toDo visited found : List RuleId}
    (h : id ∈ flattenFrom rules fuel toDo visited found) :
    id ∈ found ∨ ∃ rule, rules[id]? = some rule ∧ rule.IsCandidate := by
  fun_induction flattenFrom rules fuel toDo visited found with
  | case1 | case2 => exact .inl h
  | case3 _ _ _ _ _ _ ih | case4 _ _ _ _ _ _ _ _ ih | case5 _ _ _ _ _ _ _ _ ih => exact ih h
  | case6 _ _ _ new _ rule hgroup hrule ih =>
    have hcandidate : rule.IsCandidate := by
      cases rule with
      | matching rule => exact .matching rule
      | span rule => exact .span rule
      | group patterns => exact absurd rfl (hgroup patterns)
    rcases ih h with hmem | hrest
    · rcases Text.mem_appendNew_iff.1 hmem with hfound | rfl
      · exact .inl hfound
      · exact .inr ⟨rule, hrule, hcandidate⟩
    · exact .inr hrest

/-- The candidates of a rule can be looked for. -/
theorem mem_flatten {outer : RuleId} (h : id ∈ flatten rules outer) :
    ∃ rule, rules[id]? = some rule ∧ rule.IsCandidate := by
  unfold flatten at h
  split at h
  · exact absurd h List.not_mem_nil
  · exact (mem_flattenFrom h).resolve_left List.not_mem_nil

/-- A grammar is closed if its root is a group and its patterns are rules. -/
theorem Grammar.closed_ofRules {scopeName : Scope}
    (hroot : ∃ patterns, rules[0]? = some (.group patterns))
    (hpatterns : ∀ (id : RuleId) (rule : Rule), rules[id]? = some rule →
      ∀ pattern ∈ rule.patterns, pattern < rules.size) :
    (Grammar.ofRules scopeName 0 rules).Closed := by
  constructor
  case root_eq => rfl
  case root_group => exact hroot
  case pattern_lt => exact hpatterns
  case candidates_size => exact Array.size_ofFn
  case candidate =>
    intro ids hids id hid
    obtain ⟨outer, rfl⟩ := Array.mem_ofFn.1 hids
    exact mem_flatten hid

end

end Highlight
