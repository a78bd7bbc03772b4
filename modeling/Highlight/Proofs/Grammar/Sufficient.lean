import Highlight.Proofs.Grammar.Closed

/-!
# Sets of grammars that suffice

While a grammar is compiled, a scope name is looked up in the set of grammars only for an include
that stands in the grammar itself or in one of the set (`Surroundings.referent?_eq_of_suffices`),
and the scope names of these includes are those that the grammars are said to include
(`WrittenGrammar.mem_includedScopes`).  So any two sets that have the same grammars under those
names give the same rules under the same numbers, or the same error
(`Grammar.compile_eq_of_suffices`).
-/

namespace Highlight

/-! ### Included scope names -/

theorem WrittenRule.targets_eq (rule : WrittenRule) :
    rule.targets =
      rule.target.toList ++ targetsOfRules rule.patterns ++ targetsOfEntries rule.repository := by
  cases rule
  rw [WrittenRule.targets]

theorem targets_subset_of_mem_listed {s : Surroundings} {path : String} {i : Nat}
    {rules : List WrittenRule} {p : Place} (h : p ∈ s.listed path i rules) :
    p.rule.targets ⊆ targetsOfRules rules := by
  induction rules generalizing i with
  | nil => exact absurd h List.not_mem_nil
  | cons rule rules ih =>
    rw [targetsOfRules]
    rcases List.mem_cons.1 h with rfl | h
    · exact List.subset_append_left _ _
    · exact List.Subset.trans (ih h) (List.subset_append_right _ _)

theorem targets_subset_of_mem_repository {key : String} {rule : WrittenRule}
    {repository : Repository} (h : (key, rule) ∈ repository) :
    rule.targets ⊆ targetsOfEntries repository := by
  induction repository with
  | nil => exact absurd h List.not_mem_nil
  | cons entry entries ih =>
    rw [targetsOfEntries]
    rcases List.mem_cons.1 h with rfl | h
    · exact List.subset_append_left _ _
    · exact List.Subset.trans (ih h) (List.subset_append_right _ _)

namespace WrittenGrammar

variable {g : WrittenGrammar} {p : Place} {scope : String}

/-- The includes in a rule of a grammar are includes of the grammar. -/
theorem Holds.targets_subset (h : g.Holds p) : p.rule.targets ⊆ g.targets := by
  induction h with
  | pattern hmem => exact fun target htarget =>
    List.mem_append_left _ (targets_subset_of_mem_listed hmem htarget)
  | entry hmem => exact fun target htarget =>
    List.mem_append_right _ (targets_subset_of_mem_repository hmem htarget)
  | @patternOf p q _ hmem ih =>
    rw [p.rule.targets_eq, List.append_subset, List.append_subset] at ih
    exact fun target htarget => ih.1.2 (targets_subset_of_mem_listed hmem htarget)
  | @entryOf p key rule _ hmem ih =>
    rw [p.rule.targets_eq, List.append_subset] at ih
    exact fun target htarget => ih.2 (targets_subset_of_mem_repository hmem htarget)

/-- The included scope names are those in the includes, apart from the grammar's own. -/
theorem mem_includedScopes : scope ∈ g.includedScopes ↔ scope ≠ g.scopeName ∧
    ∃ target ∈ g.targets, ∃ key?, Include.ofText? target = some (.grammar scope key?) := by
  rw [includedScopes, Text.mem_foldl_appendNew, List.mem_filter, List.mem_filterMap]
  constructor
  · rintro (h | ⟨⟨target, htarget, hscope⟩, hname⟩)
    · exact absurd h List.not_mem_nil
    · obtain ⟨i, hi, hscope⟩ := Option.bind_eq_some_iff.1 hscope
      refine ⟨by simpa using hname, target, htarget, ?_⟩
      cases i with
      | self | base | entry => exact absurd hscope (by simp [Include.scope?])
      | grammar scope' key? =>
        obtain rfl := Option.some.inj hscope
        exact ⟨key?, hi⟩
  · rintro ⟨hname, target, htarget, key?, hi⟩
    refine .inr ⟨⟨target, htarget, ?_⟩, by simpa using hname⟩
    rw [hi]
    rfl

/-- The scope name in an include of a rule that is met is included by its grammar. -/
theorem Meets.mem_includedScopes (hp : g.Meets p) {target : String}
    (htarget : p.rule.target = some target) {key? : Option String}
    (hi : Include.ofText? target = some (.grammar scope key?)) (hscope : scope ≠ g.scopeName) :
    scope ∈ g.includedScopes := by
  obtain ⟨lexical, hmeets⟩ := hp
  refine WrittenGrammar.mem_includedScopes.2
    ⟨hscope, target, hmeets.holds.targets_subset ?_, key?, hi⟩
  rw [WrittenRule.targets_eq, htarget]
  exact List.mem_append_left _ (List.mem_append_left _ List.mem_cons_self)

end WrittenGrammar

/-! ### What includes refer to in two sets -/

variable {base g : WrittenGrammar} {set set' : GrammarSet} {p : Place}

/-- Under the scope names that the base and the grammars of one set include, another set has the
same grammars. -/
def GrammarSet.Suffices (base : WrittenGrammar) (set set' : GrammarSet) : Prop :=
  ∀ g ∈ grammarsOf base set, ∀ scope ∈ g.includedScopes, scope ≠ base.scopeName →
    set'.get? scope = set.get? scope

/-- An include refers to the same in both sets, wherever it is met. -/
theorem Surroundings.referent?_eq_of_suffices (h : set.Suffices base set')
    (hg : g ∈ grammarsOf base set) (hp : g.Meets p) {target : String}
    (htarget : p.rule.target = some target) :
    (Include.ofText? target).bind (p.around.referent? base set') =
      (Include.ofText? target).bind (p.around.referent? base set) := by
  cases hi : Include.ofText? target with
  | none => rfl
  | some i =>
    cases i with
    | self | base | entry => rfl
    | grammar scope key? =>
      have hgrammar : p.around.grammar = g := by
        obtain ⟨lexical, hmeets⟩ := hp
        exact hmeets.grammar_eq
      have hnamed : p.around.named? base set' scope = p.around.named? base set scope := by
        unfold named?
        split
        · rfl
        · rename_i hbase
          split
          · rfl
          · rename_i hself
            rw [beq_iff_eq] at hbase hself
            rw [hgrammar] at hself
            exact h g hg scope (hp.mem_includedScopes htarget hi hself) hbase
      rw [Option.bind_some, Option.bind_some, referent?_grammar, referent?_grammar, hnamed]

/-! ### Compiling with two sets -/

/-- Rules that are met compile to the same. -/
def CompileRule.Agrees (base : WrittenGrammar) (set : GrammarSet) (compile compile' : CompileRule) :
    Prop :=
  ∀ g ∈ grammarsOf base set, ∀ p : Place, g.Meets p →
    compile p.rule p.around p.path = compile' p.rule p.around p.path

section

variable {compile compile' : CompileRule} (h : compile.Agrees base set compile')
  (hg : g ∈ grammarsOf base set)
include h hg

theorem CompileRule.Agrees.compileList_eq {s : Surroundings} {path : String} {i : Nat}
    {rules : List WrittenRule} (hmeets : ∀ p ∈ s.listed path i rules, g.Meets p) :
    WrittenRule.compileList compile s path i rules =
      WrittenRule.compileList compile' s path i rules := by
  induction rules generalizing i with
  | nil => rfl
  | cons rule rules ih =>
    obtain ⟨hrule, hrules⟩ := List.forall_mem_cons.1 hmeets
    rw [WrittenRule.compileList, WrittenRule.compileList, ih hrules]
    exact congrArg (· >>= _) (h g hg _ hrule)

theorem CompileRule.Agrees.compileAs_eq (hp : g.Meets p) (id : RuleId) :
    WrittenRule.compileAs compile id p.rule p.around p.path =
      WrittenRule.compileAs compile' id p.rule p.around p.path := by
  have hinner := h.compileList_eq hg (s := p.inside) (i := 0) fun q => hp.inner (q := q)
  unfold WrittenRule.compileAs
  rw [h g hg p hp, WrittenRule.compileBody_eq, WrittenRule.compileBody_eq]
  unfold Place.inside at hinner
  rw [hinner]

theorem CompileRule.Agrees.compileRoot_eq : g.compileRoot compile = g.compileRoot compile' := by
  have hlist : WrittenRule.compileList compile (.ofGrammar g) g.scopeName 0 g.patterns =
      WrittenRule.compileList compile' (.ofGrammar g) g.scopeName 0 g.patterns :=
    h.compileList_eq hg fun p hp => ⟨_, WrittenGrammar.meetsFrom_of_mem_listed hp⟩
  rw [WrittenGrammar.compileRoot, WrittenGrammar.compileRoot, hlist]

end

theorem CompileRule.Agrees.compile_eq {compile compile' : CompileRule}
    (h : compile.Agrees base set compile') {r : Referent} (hr : r.Met base set) :
    r.compile compile = r.compile compile' := by
  cases r with
  | root g => exact h.compileRoot_eq hr
  | entry rule path around =>
    obtain ⟨g, hg, hp⟩ := hr
    exact congrArg (Build.once path) (funext fun id => h.compileAs_eq hg hp id)

theorem WrittenRule.agrees_compile (h : set.Suffices base set') (depth : Nat) :
    CompileRule.Agrees base set (WrittenRule.compile base set depth)
      (WrittenRule.compile base set' depth) := by
  induction depth with
  | zero => exact fun _ _ _ _ => rfl
  | succ depth ih =>
    intro g hg p hp
    unfold WrittenRule.compile
    split
    · exact congrArg (Build.reserve >>= ·) (funext fun id => by rw [ih.compileAs_eq hg hp id])
    · rename_i target htarget
      rw [Surroundings.referent?_eq_of_suffices h hg hp htarget]
      split
      · rfl
      · rename_i r hr
        obtain ⟨i, -, hr⟩ := Option.bind_eq_some_iff.1 hr
        obtain ⟨lexical, hmeets⟩ := hp
        exact ih.compile_eq (hmeets.stacked.referent hg hmeets.grammar_eq hr).1

namespace Grammar

theorem buildRoot_eq_of_suffices (h : set.Suffices base set') :
    buildRoot base set' (compileDepth base set') = buildRoot base set (compileDepth base set) := by
  have hdepth := (WrittenRule.agrees_compile h
    (compileDepth base set + compileDepth base set')).compileRoot_eq List.mem_cons_self
  calc buildRoot base set' (compileDepth base set')
      = buildRoot base set' (compileDepth base set + compileDepth base set') := by
        rw [Nat.add_comm, buildRoot_add]
    _ = buildRoot base set (compileDepth base set + compileDepth base set') := by
        rw [buildRoot, buildRoot, hdepth]
    _ = buildRoot base set (compileDepth base set) := buildRoot_add base set _

/-- **A set that suffices is as good as any that agrees with it.** -/
theorem compile_eq_of_suffices (h : set.Suffices base set') :
    compile base set' = compile base set := by
  rw [compile_eq, compile_eq, buildRoot_eq_of_suffices h]

end Grammar

end Highlight
