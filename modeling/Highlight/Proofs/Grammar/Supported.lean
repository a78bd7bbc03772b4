import Highlight.Proofs.Grammar.Account

/-!
# Constructs that are not supported

A rule that is compiled has no pattern for lines that go on, and no end without a beginning,
wherever it stands and whichever include leads to it (`WrittenRule.Gives.supported`).  A grammar
that is compiled has no injections (`Grammar.supported_of_compile`), but a grammar that it includes
may have some (`WrittenGrammar.embedding`).
-/

namespace Highlight

/-- The rule is an include, or it has no pattern for lines that go on and ends only where it has a
beginning or matches a text. -/
def WrittenRule.Supported (rule : WrittenRule) : Prop :=
  rule.target = none → rule.whilePattern = none ∧
    (rule.matchPattern = none → rule.beginPattern = none → rule.endPattern = none)

/-- What is compiled is supported. -/
theorem WrittenRule.Gives.supported {rule : WrittenRule} {compiled : Rule}
    (h : rule.Gives compiled) : rule.Supported := by
  intro _
  cases h with
  | matching hwhile hmatch =>
    refine ⟨hwhile, fun hnone => ?_⟩
    rw [hmatch] at hnone
    exact absurd hnone (by simp)
  | span hwhile _ hbegin =>
    refine ⟨hwhile, fun _ hnone => ?_⟩
    rw [hbegin] at hnone
    exact absurd hnone (by simp)
  | group hwhile _ _ hend => exact ⟨hwhile, fun _ _ => hend⟩

namespace Grammar

/-- **Every rule of a grammar that compiles comes from one that is supported**, and the grammar has
no injections. -/
theorem supported_of_compile {source : WrittenGrammar} {set : GrammarSet} {g : Grammar}
    (h : compile source set = .ok g) :
    source.injections = none ∧ ∃ a : Account, a.Accounts source set g ∧
      ∀ rule path around, Referent.entry rule path around ∈ a.origins → rule.Supported := by
  obtain ⟨hinjections, -⟩ := exists_table h
  obtain ⟨a, ha⟩ := exists_account h
  refine ⟨hinjections, a, ha, fun rule path around hmem => ?_⟩
  obtain ⟨id, hid⟩ := List.getElem?_of_mem hmem
  obtain ⟨compiled, -, hexplains⟩ := ha.exists_explains hid
  intro htarget
  have hgives := hexplains.gives
  rw [Referent.Gives, if_neg (by rw [htarget]; simp)] at hgives
  exact hgives.supported htarget

end Grammar

/-- A grammar with a text of its own, which includes another one. -/
def WrittenGrammar.embedding : WrittenGrammar where
  scopeName := "outer"
  patterns := [.matching "y" "y", .including "inner"]

/-- A grammar to be included, maybe with injections. -/
def WrittenGrammar.embedded (injections : Option Json) : WrittenGrammar where
  scopeName := "inner"
  patterns := [.matching "x" "x"]
  injections := injections

namespace Grammar

/-- The text of a grammar that includes another one is supported. -/
theorem supported_of_compile_embedding :
    ∃ g, compile .embedding [.embedded none] = .ok g ∧
      WrittenGrammar.embedding.injections = none ∧
        ∃ a : Account, a.Accounts .embedding [.embedded none] g ∧
          ∃ (id : RuleId) (path : String) (around : Surroundings),
            a.origins[id]? = some (.entry (.matching "y" "y") path around) ∧
              (WrittenRule.matching "y" "y").Supported := by
  have hok : (compile .embedding [.embedded none]).toOption.any (fun _ => true) = true := by
    decide +kernel
  obtain ⟨g, hg, -⟩ := exists_ok_of_any hok
  obtain ⟨hinjections, a, ha, hsupported⟩ := supported_of_compile hg
  refine ⟨g, hg, hinjections, a, ha, ?_⟩
  have hp : ⟨.matching "y" "y", _, .ofGrammar _⟩ ∈ (Referent.root .embedding).listed :=
    List.mem_cons_self
  obtain ⟨id, hid⟩ := ha.exists_denotes (List.mem_of_getElem? ha.root_eq) hp
  cases hid with
  | included htarget => exact absurd htarget (by simp [WrittenRule.matching])
  | rule _ horigin =>
    exact ⟨id, _, _, horigin, hsupported _ _ _ (List.mem_of_getElem? horigin)⟩

/-- A grammar with injections is not compiled, but it is compiled into one that includes it. -/
theorem not_supported_embedded :
    (WrittenGrammar.embedded (some (.object []))).injections = some (.object []) ∧
      compile (.embedded (some (.object []))) [] =
        .error (.unsupportedRule "inner" "injections" .injections) ∧
      (compile .embedding [.embedded (some (.object []))]).toOption.map outline =
        some [(none, [1, 2]), (some "y", []), (none, [3]), (some "x", [])] := by
  refine ⟨rfl, ?_, by decide +kernel⟩
  rw [compile_eq, if_neg (by decide +kernel)]
  rfl

end Grammar

end Highlight
