import Highlight.Proofs.Grammar.Account
import Highlight.Proofs.Grammar.Depth
import Highlight.Proofs.Tokenizer.Lookup

/-!
# Compiled grammars are closed

Compiling a grammar ends before the depth does (`Grammar.settles_buildRoot`), so it never fails
because a rule has not been compiled (`Grammar.isUnresolved_of_compile`), and it gives out at most
one number for every grammar and every rule (`Grammar.ruleCount_le_of_compile`).  Every number in a
grammar that compiles is accounted for, so it is the number of a rule (`Grammar.closed_of_compile`).

Includes may go in circles, through the grammar itself, entries of repositories, and other grammars
(`Grammar.closed_compile`).
-/

namespace Highlight

namespace Grammar

variable {source : WrittenGrammar} {set : GrammarSet} {g : Grammar}

/-! ### The end of compiling -/

/-- Compiling the root of a grammar ends for a reason other than the depth. -/
theorem settles_buildRoot (source : WrittenGrammar) (set : GrammarSet) (more : Nat) :
    Build.Settles (source.compileRoot (WrittenRule.compile source set (compileDepth source set)))
      (source.compileRoot (WrittenRule.compile source set (compileDepth source set + more))) {}
      fun _ t => Table.Within source set {} 0 t := by
  refine WrittenGrammar.settles_compileRoot (WrittenRule.settles_compile source set _ more)
    List.mem_cons_self ?_
  have hle := weights_landmarksOf_le 0 source set
  rw [Landmark.left_nil, compileDepth]
  omega

/-- With more depth the same comes out. -/
theorem buildRoot_add (source : WrittenGrammar) (set : GrammarSet) (more : Nat) :
    buildRoot source set (compileDepth source set + more) =
      buildRoot source set (compileDepth source set) := (settles_buildRoot source set more).1

theorem isUnresolved_of_buildRoot {e : GrammarError}
    (h : buildRoot source set (compileDepth source set) = .error e) : e.isUnresolved = false := by
  have hsettles := (settles_buildRoot source set 0).2
  rw [show (source.compileRoot _).run {} = Except.error e from h] at hsettles
  exact hsettles

/-- Compiling never fails because a rule has not been compiled. -/
theorem isUnresolved_of_compile {e : GrammarError} (h : compile source set = .error e) :
    e.isUnresolved = false := by
  rw [compile_eq] at h
  split at h
  · rw [← Except.error.inj h]
    rfl
  · split at h
    · rw [← Except.error.inj h]
      rfl
    · cases hroot : buildRoot source set (compileDepth source set) with
      | error e' =>
        rw [hroot] at h
        rw [← Except.error.inj h]
        exact isUnresolved_of_buildRoot hroot
      | ok built =>
        -- once the root compiles, every number has a rule
        obtain ⟨root, table⟩ := built
        obtain ⟨-, rules, -, hrules, -⟩ := exists_rules_of_buildRoot hroot
        rw [bind_buildRoot_of_ok hroot hrules] at h
        exact absurd h (by simp)

/-- There are no more rules than there are grammars and rules in them. -/
theorem ruleCount_le_of_compile (h : compile source set = .ok g) :
    g.ruleCount ≤ 1 + set.length + (source.count + set.count) := by
  obtain ⟨-, table, rules, origins, hroot, hrules, -, -, rfl⟩ := exists_table h
  have hwithin := (settles_buildRoot source set 0).2
  rw [show (source.compileRoot _).run {} = Except.ok (0, table) from hroot] at hwithin
  have hsize : table.slots.size = rules.length := by
    rw [← Array.length_toList, hrules, List.length_map]
  have hle := hwithin.size_le
  have hweights := weights_landmarksOf_le 1 source set
  rw [hsize, Landmark.left_nil] at hle
  show rules.length ≤ _
  have hempty : ({} : Table).slots.size = 0 := rfl
  omega

end Grammar

/-! ### Numbers of rules -/

namespace Account

variable {base : WrittenGrammar} {set : GrammarSet} {a : Account} {g : Grammar}

/-- The number of a rule that stands somewhere is the number of a rule. -/
theorem Denotes.lt_ruleCount (h : a.Accounts base set g) {p : Place} {id : RuleId}
    (hid : a.Denotes base set p id) : id < g.ruleCount := by
  cases hid with
  | rule _ horigin => exact h.lt_ruleCount horigin
  | included _ _ hknown =>
    obtain ⟨r, horigin, -⟩ := h.known _ _ hknown
    exact h.lt_ruleCount horigin

end Account

namespace Grammar

variable {source : WrittenGrammar} {set : GrammarSet} {g : Grammar}

theorem closed_of_compile (h : compile source set = .ok g) : g.Closed := by
  obtain ⟨a, ha⟩ := exists_account h
  obtain ⟨-, table, rules, origins, -, -, -, -, rfl⟩ := exists_table h
  refine closed_ofRules ?_ fun id rule hrule pattern hpattern => ?_
  · obtain ⟨root, hroot, hexplains⟩ := ha.exists_explains ha.root_eq
    obtain ⟨ids, rfl⟩ := hexplains.gives
    exact ⟨ids, hroot⟩
  · obtain ⟨r, -, hexplains⟩ := ha.explains id rule hrule
    obtain ⟨place, -, hdenotes⟩ := hexplains.exists_place hpattern
    exact hdenotes.lt_ruleCount ha

/-- **Compiling ends, and every number in what it makes is that of a rule**, however includes lead
to one another: it does the same with more depth, it never fails because a rule has not been
compiled, and a line is tokenized without looking up a rule that is not there. -/
theorem closed_compile (source : WrittenGrammar) (set : GrammarSet) :
    (∀ more, buildRoot source set (compileDepth source set + more) =
        buildRoot source set (compileDepth source set)) ∧
      (∀ name rule, compile source set ≠ .error (.unsupportedRule name rule .unresolved)) ∧
      ∀ g, compile source set = .ok g →
        g.Closed ∧ g.ruleCount ≤ 1 + set.length + (source.count + set.count) ∧
          ∀ (t : Tokenizer) (text : String) (state : OpenRules), t.grammar = g →
            t.tokenizeChecked text state = some (t.tokenize text state) := by
  refine ⟨buildRoot_add source set, fun name rule h => ?_, fun g h => ?_⟩
  · exact absurd (isUnresolved_of_compile h) (by simp [GrammarError.isUnresolved])
  · refine ⟨closed_of_compile h, ruleCount_le_of_compile h, ?_⟩
    rintro t text state rfl
    exact Tokenizer.tokenizeChecked_eq (closed_of_compile h) text state

end Grammar

/-- A grammar whose includes go in circles. -/
def WrittenGrammar.circling : WrittenGrammar where
  scopeName := "inner"
  patterns := [.including "$self", .including "$base", .including "#list"]
  repository := [("list", {
    beginPattern := some "<"
    endPattern := some ">"
    patterns := [.including "outer", .including "outer#item"] })]

/-- A grammar whose includes go in circles through another grammar. -/
def WrittenGrammar.circlingOuter : WrittenGrammar where
  scopeName := "outer"
  patterns := [.including "$self", .including "inner", .including "inner#list"]
  repository := [("item", { patterns := [.including "#item", .including "#x"] }),
    ("x", .matching "x" "x")]

/-- Two grammars that lead to one another have five rules in all. -/
theorem Grammar.closed_compile_circling :
    ∃ g, compile .circlingOuter [.circling] = .ok g ∧ g.Closed ∧ g.ruleCount = 5 ∧
      (Tokenizer.new g {}).tokenizeChecked "<x>" [] =
        some ((Tokenizer.new g {}).tokenize "<x>" []) := by
  have hok : (compile .circlingOuter [.circling]).toOption.any (·.ruleCount == 5) = true := by
    decide +kernel
  obtain ⟨g, hg, hcount⟩ := exists_ok_of_any hok
  obtain ⟨-, -, hclosed⟩ := closed_compile .circlingOuter [.circling]
  obtain ⟨hgrammar, -, htokenize⟩ := hclosed g hg
  exact ⟨g, hg, hgrammar, beq_iff_eq.1 hcount, htokenize (.new g {}) "<x>" [] rfl⟩

end Highlight
