import Highlight.Proofs.Assets.Gathering
import Highlight.Proofs.Grammar.Sufficient

/-!
# Sets that are complete

Where every grammar is known under its own name, as where grammars are kept by their names
(`Assets.proper_ofGrammars`), gathering always ends, since each grammar is asked for once
(`Gathering.exists_gather_of_proper`).  What is on the stack, in the set, or not to be had is then
all that the gathered grammars include (`Gathering.Complete`), so in the end the set holds what the
base leads to and nothing else (`Gathering.Complete.mem_set_iff`).  For compiling the base it is as
good as the set of all grammars (`Assets.grammarSet_complete`).
-/

namespace Highlight

open Relation

/-- A grammar is known under a scope name that another one includes. -/
def WrittenGrammar.Includes (answer : String → Except AssetError WrittenGrammar)
    (g g' : WrittenGrammar) : Prop :=
  ∃ scope ∈ g.includedScopes, answer scope = .ok g'

/-- Every grammar is known under its own name. -/
def Assets.Proper (answer : String → Except AssetError WrittenGrammar) : Prop :=
  ∀ scope g, answer scope = .ok g → g.scopeName = scope

namespace Gathering

open Assets

variable {answer : String → Except AssetError WrittenGrammar} {base : WrittenGrammar}
  {m m' : Gathering}

/-! ### What is gathered -/

/-- The set holds grammars to which the base leads, each under its name, and what they include is
still on the stack, in the set, or not to be had. -/
structure Complete (answer : String → Except AssetError WrittenGrammar) (base : WrittenGrammar)
    (m : Gathering) : Prop where
  nodup : (m.set.map (·.scopeName)).Nodup
  reached : ∀ g ∈ m.set, g.scopeName ≠ base.scopeName ∧ answer g.scopeName = .ok g ∧
    ReflTransGen (WrittenGrammar.Includes answer) base g
  named : ∀ scope ∈ m.stack, ∃ g, ReflTransGen (WrittenGrammar.Includes answer) base g ∧
    scope ∈ g.includedScopes
  closed : ∀ g ∈ base :: m.set, ∀ scope ∈ g.includedScopes,
    scope ∈ m.stack ∨ ¬Asks base m.set scope ∨ ∃ e, answer scope = .error e

theorem complete_start (answer : String → Except AssetError WrittenGrammar)
    (base : WrittenGrammar) : (start base).Complete answer base := by
  refine ⟨List.nodup_nil, fun g hg => absurd hg List.not_mem_nil, fun scope hscope => ?_,
    fun g hg scope hscope => ?_⟩
  · exact ⟨base, .refl, List.mem_reverse.1 hscope⟩
  · obtain rfl := List.mem_singleton.1 hg
    exact .inl (List.mem_reverse.2 hscope)

theorem nodup_insert {set : GrammarSet} (h : (set.map (·.scopeName)).Nodup) (g : WrittenGrammar) :
    ((set.insert g).map (·.scopeName)).Nodup := by
  refine List.nodup_cons.2 ⟨fun hmem => ?_, h.sublist (List.filter_sublist.map _)⟩
  obtain ⟨g', hg', hname⟩ := List.mem_map.1 hmem
  exact absurd hname (by simpa using (List.mem_filter.1 hg').2)

/-- Every round keeps the set complete. -/
theorem Complete.round (h : m.Complete answer base) (hproper : Proper answer)
    (hround : Round answer base m m') : m'.Complete answer base := by
  cases hround with
  | passed hknown =>
    refine ⟨h.nodup, h.reached, fun s hs => h.named s (List.mem_cons_of_mem _ hs),
      fun g hg s hs => ?_⟩
    rcases h.closed g hg s hs with hstack | hrest
    · rcases List.mem_cons.1 hstack with rfl | hstack
      · exact .inr (.inl hknown)
      · exact .inl hstack
    · exact .inr hrest
  | @missing _ _ _ e _ hanswer =>
    refine ⟨h.nodup, h.reached, fun s hs => h.named s (List.mem_cons_of_mem _ hs),
      fun g hg s hs => ?_⟩
    rcases h.closed g hg s hs with hstack | hrest
    · rcases List.mem_cons.1 hstack with rfl | hstack
      · exact .inr (.inr ⟨e, hanswer⟩)
      · exact .inl hstack
    · exact .inr hrest
  | @found scope stack set g hasks hanswer =>
    have hname := hproper scope g hanswer
    obtain ⟨g', hg', hmem⟩ := h.named scope List.mem_cons_self
    have hreached : ReflTransGen (WrittenGrammar.Includes answer) base g :=
      hg'.tail ⟨scope, hmem, hanswer⟩
    have hasked : ∀ s, ¬Asks base set s → ¬Asks base (set.insert g) s := fun s hs hasks' =>
      hs ⟨fun hhas => hasks'.1 (GrammarSet.has_insert.2 (.inr hhas)), hasks'.2⟩
    constructor
    case nodup => exact nodup_insert h.nodup g
    case reached =>
      intro other hother
      rcases GrammarSet.mem_insert.1 hother with rfl | ⟨hother, -⟩
      · exact ⟨hname ▸ hasks.2, hname ▸ hanswer, hreached⟩
      · exact h.reached other hother
    case named =>
      intro s hs
      rcases List.mem_append.1 hs with hs | hs
      · exact ⟨g, hreached, List.mem_reverse.1 hs⟩
      · exact h.named s (List.mem_cons_of_mem _ hs)
    case closed =>
      intro other hother s hs
      have hother' : other = g ∨ other ∈ base :: set := by
        rcases List.mem_cons.1 hother with rfl | hother
        · exact .inr List.mem_cons_self
        · exact (GrammarSet.mem_insert.1 hother).imp id fun h => List.mem_cons_of_mem _ h.1
      rcases hother' with rfl | hother
      · exact .inl (List.mem_append_left _ (List.mem_reverse.2 hs))
      rcases h.closed other hother s hs with hstack | hknown | hmissing
      · rcases List.mem_cons.1 hstack with rfl | hstack
        · exact .inr (.inl fun hasks' => hasks'.1 (GrammarSet.has_insert.2 (.inl hname)))
        · exact .inl (List.mem_append_right _ hstack)
      · exact .inr (.inl (hasked s hknown))
      · exact .inr (.inr hmissing)

theorem Complete.rounds (h : m.Complete answer base) (hproper : Proper answer)
    (hrounds : Rounds answer base m m') : m'.Complete answer base := by
  induction hrounds with
  | refl => exact h
  | tail _ hround ih => exact ih.round hproper hround

/-! ### The set in the end -/

section

variable {set : GrammarSet} (h : Complete answer base ⟨[], set⟩)
include h

theorem Complete.answer_of_get? {scope : String} {g : WrittenGrammar}
    (hg : set.get? scope = some g) : answer scope = .ok g := by
  have hname : g.scopeName = scope := by simpa using List.find?_some hg
  exact hname ▸ (h.reached g (List.mem_of_find?_eq_some hg)).2.1

/-- In the end everything to which the base leads has been gathered. -/
theorem Complete.mem_of_reached (hbase : answer base.scopeName = .ok base)
    (hproper : Proper answer) {g : WrittenGrammar}
    (hreached : ReflTransGen (WrittenGrammar.Includes answer) base g) : g ∈ base :: set := by
  induction hreached with
  | refl => exact List.mem_cons_self
  | @tail g' g _ hincludes ih =>
    obtain ⟨scope, hscope, hanswer⟩ := hincludes
    obtain rfl := hproper scope g hanswer
    rcases h.closed g' ih _ hscope with hstack | hknown | ⟨e, hmissing⟩
    · exact absurd hstack List.not_mem_nil
    · rw [not_asks_iff, Bool.or_eq_true, beq_iff_eq] at hknown
      rcases hknown with hhas | heq
      · obtain ⟨g'', hg'', hname⟩ := GrammarSet.has_iff.1 hhas
        have hanswer' := (h.reached g'' hg'').2.1
        rw [hname, hanswer] at hanswer'
        obtain rfl := Except.ok.inj hanswer'
        exact List.mem_cons_of_mem _ hg''
      · rw [heq, hbase] at hanswer
        obtain rfl := Except.ok.inj hanswer
        exact List.mem_cons_self
    · exact absurd (hanswer.symm.trans hmissing) (by simp)

theorem Complete.mem_set_iff (hbase : answer base.scopeName = .ok base) (hproper : Proper answer)
    (g : WrittenGrammar) : g ∈ set ↔ g.scopeName ≠ base.scopeName ∧
      ReflTransGen (WrittenGrammar.Includes answer) base g := by
  constructor
  · intro hg
    obtain ⟨hname, -, hreached⟩ := h.reached g hg
    exact ⟨hname, hreached⟩
  · rintro ⟨hname, hreached⟩
    rcases List.mem_cons.1 (h.mem_of_reached hbase hproper hreached) with rfl | hmem
    · exact absurd rfl hname
    · exact hmem

/-- It has what the base and its grammars include, if that is to be had. -/
theorem Complete.suffices {all : GrammarSet}
    (hall : ∀ scope g, all.get? scope = some g ↔ answer scope = .ok g) :
    set.Suffices base all := by
  intro g hg scope hscope hbase
  have hmem : g ∈ base :: set := by
    rcases List.mem_cons.1 hg with rfl | hg
    · exact List.mem_cons_self
    · exact List.mem_cons_of_mem _ (List.mem_filter.1 hg).1
  rcases h.closed g hmem scope hscope with hstack | hknown | ⟨e, hmissing⟩
  · exact absurd hstack List.not_mem_nil
  · rw [not_asks_iff, Bool.or_eq_true, beq_iff_eq] at hknown
    obtain ⟨g', hg'⟩ := Option.isSome_iff_exists.1 (hknown.resolve_right hbase)
    rw [hg', hall]
    exact h.answer_of_get? hg'
  · have hnone : set.get? scope = none := Option.eq_none_iff_forall_ne_some.2 fun g' hg' =>
      absurd (hmissing.symm.trans (h.answer_of_get? hg')) (by simp)
    rw [hnone]
    refine Option.eq_none_iff_forall_ne_some.2 fun g' hg' => ?_
    exact absurd (hmissing.symm.trans ((hall scope g').1 hg')) (by simp)

end

end Gathering

/-! ### The end of gathering -/

namespace Assets

variable {answers : List (String × Except AssetError WrittenGrammar)}

theorem includedCountOf_append (front back : List (String × Except AssetError WrittenGrammar)) :
    includedCountOf (front ++ back) = includedCountOf front + includedCountOf back := by
  induction front with
  | nil => exact (Nat.zero_add _).symm
  | cons entry front ih =>
    obtain ⟨scope, _ | g⟩ := entry
    · exact ih
    · rw [List.cons_append, includedCountOf, includedCountOf, ih, Nat.add_assoc]

/-- The number of scope names that are included by what is known under the names not in a set. -/
def leftCount (answers : List (String × Except AssetError WrittenGrammar)) (set : GrammarSet) :
    Nat :=
  includedCountOf (answers.filter fun entry => !set.has entry.1)

theorem leftCount_append (front back : List (String × Except AssetError WrittenGrammar))
    (set : GrammarSet) :
    leftCount (front ++ back) set = leftCount front set + leftCount back set := by
  rw [leftCount, List.filter_append, includedCountOf_append, leftCount, leftCount]

theorem leftCount_insert_le (answers : List (String × Except AssetError WrittenGrammar))
    (set : GrammarSet) (g : WrittenGrammar) :
    leftCount answers (set.insert g) ≤ leftCount answers set := by
  induction answers with
  | nil => exact le_rfl
  | cons entry answers ih =>
    have hhead : leftCount [entry] (set.insert g) ≤ leftCount [entry] set := by
      by_cases hhas : set.has entry.1
      · have hhas' : (set.insert g).has entry.1 = true := GrammarSet.has_insert.2 (.inr hhas)
        simp [leftCount, hhas, hhas']
      · by_cases hhas' : (set.insert g).has entry.1
        · simp [leftCount, hhas', includedCountOf]
        · simp [leftCount, hhas, hhas']
    rw [← List.singleton_append, leftCount_append, leftCount_append]
    exact Nat.add_le_add hhead ih

/-- A grammar that comes into the set takes the names that it includes with it. -/
theorem leftCount_insert {set : GrammarSet} {g : WrittenGrammar}
    (hmem : (g.scopeName, .ok g) ∈ answers) (hnew : ¬set.has g.scopeName) :
    leftCount answers (set.insert g) + g.includedScopes.length ≤ leftCount answers set := by
  obtain ⟨front, back, rfl⟩ := List.append_of_mem hmem
  have hhas : (set.insert g).has g.scopeName = true := GrammarSet.has_insert.2 (.inl rfl)
  have hown : leftCount [(g.scopeName, .ok g)] (set.insert g) = 0 := by
    simp [leftCount, hhas, includedCountOf]
  have hself : leftCount [(g.scopeName, .ok g)] set = g.includedScopes.length := by
    simp [leftCount, hnew, includedCountOf]
  have hfront := leftCount_insert_le front set g
  have hback := leftCount_insert_le back set g
  rw [← List.singleton_append, leftCount_append, leftCount_append, leftCount_append,
    leftCount_append, hown, hself]
  omega

/-- **Where every grammar is known under its own name, gathering ends**, as each is asked for at
most once. -/
theorem exists_gather_of_proper {a : Assets} (hproper : Proper a.grammar) (base : WrittenGrammar)
    {stack : List String} {set : GrammarSet} {n : Nat}
    (hn : stack.length + leftCount a.grammars set ≤ n) :
    ∃ set', gather a.grammar base n stack set = some set' := by
  induction n generalizing stack set with
  | zero =>
    obtain rfl := List.eq_nil_of_length_eq_zero (Nat.eq_zero_of_add_eq_zero_right
      (Nat.eq_zero_of_le_zero hn))
    exact ⟨set, by rw [gather]⟩
  | succ n ih =>
    cases stack with
    | nil => exact ⟨set, by rw [gather]⟩
    | cons scope stack =>
      obtain ⟨m', hround⟩ := Gathering.exists_round a.grammar base scope stack set
      rw [List.length_cons] at hn
      have heq := hround.gather_eq n
      simp only at heq
      rw [heq]
      cases hround with
      | passed | missing =>
        refine ih (?_ : stack.length + leftCount a.grammars set ≤ n)
        omega
      | @found _ _ _ g hasks hanswer =>
        obtain rfl := hproper scope g hanswer
        obtain ⟨front, back, hsplit, -⟩ := List.lookup_eq_some_iff.1 (grammar_eq_ok_iff.1 hanswer)
        have hmem : (g.scopeName, .ok g) ∈ a.grammars := by
          rw [hsplit]
          exact List.mem_append_right _ List.mem_cons_self
        have hleft := leftCount_insert hmem hasks.1
        refine ih ?_
        simp only [List.length_append, List.length_reverse]
        omega

theorem le_gatherLimit (a : Assets) (base : WrittenGrammar) :
    base.includedScopes.length + leftCount a.grammars [] ≤ a.gatherLimit base := by
  have hleft : leftCount a.grammars [] = a.includedCount := by
    have hfilter : (a.grammars.filter fun entry => !GrammarSet.has [] entry.1) = a.grammars :=
      List.filter_eq_self.2 fun _ _ => rfl
    rw [leftCount, hfilter, includedCount]
  rw [hleft]
  calc base.includedScopes.length + a.includedCount
      ≤ 1 + base.includedScopes.length + a.includedCount := by omega
    _ ≤ a.gatherLimit base :=
        Nat.le_self_pow (Nat.mul_ne_zero (Nat.succ_ne_zero _) (Nat.succ_ne_zero _)) _

/-! ### Grammars kept by their names -/

theorem grammars_ofGrammars (sources : List WrittenGrammar) :
    (ofGrammars sources).grammars =
      (GrammarSet.ofList sources).map fun g => (g.scopeName, .ok g) := by
  have hfold : ∀ (sources : List WrittenGrammar) (a : Assets) (set : GrammarSet),
      a.grammars = set.map (fun g => (g.scopeName, .ok g)) →
      (sources.foldl withGrammar a).grammars =
        (sources.foldl GrammarSet.insert set).map fun g => (g.scopeName, .ok g) := by
    intro sources
    induction sources with
    | nil => exact fun _ _ h => h
    | cons g sources ih =>
      intro a set h
      refine ih _ _ ?_
      show (g.scopeName, _) :: a.grammars.filter _ = _
      rw [h, List.filter_map]
      rfl
  exact hfold sources {} [] rfl

theorem get?_iff_grammar_ofGrammars (sources : List WrittenGrammar) (scope : String)
    (g : WrittenGrammar) : (GrammarSet.ofList sources).get? scope = some g ↔
      (ofGrammars sources).grammar scope = .ok g := by
  rw [grammar_eq_ok_iff, grammars_ofGrammars]
  induction GrammarSet.ofList sources with
  | nil => simp [GrammarSet.get?]
  | cons g' set ih =>
    rw [List.map_cons, List.lookup_cons, GrammarSet.get?, List.find?_cons]
    by_cases hname : g'.scopeName = scope
    · simp [hname]
    · rw [beq_false_of_ne hname, beq_false_of_ne (Ne.symm hname)]
      exact ih

theorem proper_ofGrammars (sources : List WrittenGrammar) : Proper (ofGrammars sources).grammar :=
  fun scope g hg => by
    simpa using List.find?_some ((get?_iff_grammar_ofGrammars sources scope g).2 hg)

/-- **The set of a grammar is complete**: it holds the other grammars to which the grammar leads,
and the grammar compiles to the same as with the set of all grammars. -/
theorem grammarSet_complete (sources : List WrittenGrammar)
    (theme : Except AssetError (List ThemeRule)) {scope : String} {base : WrittenGrammar}
    (h : { ofGrammars sources with theme }.grammar scope = .ok base) :
    ∃ set, { ofGrammars sources with theme }.grammarSet scope = .ok (base, set) ∧
      (set.map (·.scopeName)).Nodup ∧
      (∀ g, g ∈ set ↔ g.scopeName ≠ base.scopeName ∧
        ReflTransGen (WrittenGrammar.Includes { ofGrammars sources with theme }.grammar) base g) ∧
      Grammar.compile base set = Grammar.compile base (GrammarSet.ofList sources) := by
  have hproper : Proper { ofGrammars sources with theme }.grammar := proper_ofGrammars sources
  obtain rfl := hproper scope base h
  have hlimit : base.includedScopes.reverse.length +
      leftCount { ofGrammars sources with theme }.grammars [] ≤
        gatherLimit { ofGrammars sources with theme } base := by
    rw [List.length_reverse]
    exact le_gatherLimit _ base
  obtain ⟨set, hset⟩ := exists_gather_of_proper hproper base hlimit
  have hcomplete := (Gathering.complete_start _ base).rounds hproper
    (Gathering.rounds_of_gather hset)
  refine ⟨set, ?_, hcomplete.nodup, hcomplete.mem_set_iff h hproper, ?_⟩
  · rw [grammarSet_eq h, hset]
  · exact (Grammar.compile_eq_of_suffices
      (hcomplete.suffices (get?_iff_grammar_ofGrammars sources))).symm

/-- A grammar that includes others. -/
def linked (name : String) (included : List String) : WrittenGrammar where
  scopeName := name
  patterns := included.map .including

/-- A grammar leads to another one through a third, which need not be in reach for the base. -/
theorem grammarSet_complete_linked : ∃ base set,
    (ofGrammars [linked "value" ["text"], linked "other" ["value"], linked "style" ["value#number"],
      linked "text" ["style", "missing"]]).grammarSet "text" = .ok (base, set) ∧
    linked "value" ["text"] ∈ set ∧
    Grammar.compile base set = Grammar.compile base (GrammarSet.ofList [linked "value" ["text"],
      linked "other" ["value"], linked "style" ["value#number"],
      linked "text" ["style", "missing"]]) := by
  obtain ⟨set, hset, -, hmem, hcompile⟩ := @grammarSet_complete [linked "value" ["text"],
    linked "other" ["value"], linked "style" ["value#number"], linked "text" ["style", "missing"]]
    (.error (.notFound "theme")) "text" _ rfl
  refine ⟨_, set, hset, (hmem _).2 ⟨by decide, ?_⟩, hcompile⟩
  have hfirst : WrittenGrammar.Includes (ofGrammars [linked "value" ["text"],
      linked "other" ["value"], linked "style" ["value#number"],
      linked "text" ["style", "missing"]]).grammar
      (linked "text" ["style", "missing"]) (linked "style" ["value#number"]) :=
    ⟨"style", by decide +kernel, rfl⟩
  exact (ReflTransGen.single hfirst).tail ⟨"value", by decide +kernel, rfl⟩

end Assets

end Highlight
