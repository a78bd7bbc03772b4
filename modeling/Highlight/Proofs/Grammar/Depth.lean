import Highlight.Proofs.Grammar.Building
import Mathlib.Data.List.Basic

/-!
# How deep compiling goes

Rules that lead to one another may do so in circles, but a root and an entry are compiled only once.
So the rules that are left to compile are those of the landmarks whose paths have no number yet
(`Landmark.left`), and every landmark that is entered makes them less by its own
(`Landmark.left_cons`).  As long as the depth is not less than what is left, compiling ends for a
reason other than the depth, and with more depth it does the same (`WrittenRule.settles_compile`).
It gives out no more numbers than there are grammars and rules (`Table.Within`).
-/

namespace Highlight

/-! ### Weights -/

mutual

/-- The number of rules that are compiled with a rule: itself, and those of its patterns. -/
def WrittenRule.weight : WrittenRule → Nat
  | ⟨_, _, _, _, _, _, _, _, _, _, patterns, _, _⟩ => weightOfRules patterns + 1

/-- The number of rules that are compiled with the rules of a list. -/
def weightOfRules : List WrittenRule → Nat
  | [] => 0
  | rule :: rules => rule.weight + weightOfRules rules

end

theorem WrittenRule.weight_eq (rule : WrittenRule) :
    rule.weight = weightOfRules rule.patterns + 1 := by
  cases rule
  rw [WrittenRule.weight]

theorem WrittenRule.weightOfRules_inner_le (rule : WrittenRule) :
    weightOfRules rule.inner ≤ weightOfRules rule.patterns := by
  unfold inner
  split
  · exact Nat.zero_le _
  · exact Nat.le_refl _

/-- The number of rules that are compiled with a landmark, where a root counts as many as given. -/
def Landmark.weight (ofRoot : Nat) : Landmark → Nat
  | root g => weightOfRules g.patterns + ofRoot
  | entry rule _ => rule.weight

/-- The weight of several landmarks. -/
def Landmark.weights (ofRoot : Nat) : List Landmark → Nat
  | [] => 0
  | l :: landmarks => l.weight ofRoot + weights ofRoot landmarks

namespace Landmark

variable {ofRoot : Nat}

theorem weights_cons (l : Landmark) (ls : List Landmark) :
    weights ofRoot (l :: ls) = l.weight ofRoot + weights ofRoot ls := rfl

theorem weights_append (a b : List Landmark) :
    weights ofRoot (a ++ b) = weights ofRoot a + weights ofRoot b := by
  induction a with
  | nil => exact (Nat.zero_add _).symm
  | cons l ls ih => rw [List.cons_append, weights_cons, weights_cons, ih, Nat.add_assoc]

theorem weights_le_of_sublist {a b : List Landmark} (h : a.Sublist b) :
    weights ofRoot a ≤ weights ofRoot b := by
  induction h with
  | slnil => exact Nat.le_refl _
  | cons l _ ih => exact Nat.le_trans ih (Nat.le_add_left _ _)
  | cons_cons l _ ih => exact Nat.add_le_add_left ih _

end Landmark

mutual

/-- Every rule in a rule is compiled with it or with one of the entries in it. -/
theorem WrittenRule.weight_add_weights_entries (ofRoot : Nat) (path : String) :
    (rule : WrittenRule) → rule.weight + Landmark.weights ofRoot (rule.entries path) = rule.count
  | ⟨_, _, _, _, _, _, _, _, _, _, patterns, repository, _⟩ => by
    have hpatterns := weightOfRules_add_weights ofRoot path 0 patterns
    have hrepository := weights_entriesOfRepository ofRoot (path ++ "/") repository
    rw [WrittenRule.weight, WrittenRule.entries, WrittenRule.count, Landmark.weights_append]
    omega

theorem weightOfRules_add_weights (ofRoot : Nat) (path : String) (i : Nat) :
    (rules : List WrittenRule) →
      weightOfRules rules + Landmark.weights ofRoot (entriesOfRules path i rules) =
        countOfRules rules
  | [] => rfl
  | rule :: rules => by
    have hrule := rule.weight_add_weights_entries ofRoot
      (path ++ "/patterns[" ++ toString i ++ "]")
    have hrules := weightOfRules_add_weights ofRoot path (i + 1) rules
    rw [weightOfRules, entriesOfRules, countOfRules, Landmark.weights_append]
    omega

theorem weights_entriesOfRepository (ofRoot : Nat) (front : String) :
    (repository : List (String × WrittenRule)) →
      Landmark.weights ofRoot (entriesOfRepository front repository) = countOfEntries repository
  | [] => rfl
  | (key, rule) :: entries => by
    have hrule := rule.weight_add_weights_entries ofRoot (front ++ key)
    have hentries := weights_entriesOfRepository ofRoot front entries
    rw [entriesOfRepository, countOfEntries, Landmark.weights_append, Landmark.weights_cons,
      Landmark.weight]
    omega

end

theorem WrittenGrammar.weights_landmarks (ofRoot : Nat) (g : WrittenGrammar) :
    Landmark.weights ofRoot g.landmarks = g.count + ofRoot := by
  have hpatterns := weightOfRules_add_weights ofRoot g.scopeName 0 g.patterns
  have hrepository := weights_entriesOfRepository ofRoot (g.scopeName ++ "#") g.repository
  rw [landmarks, Landmark.weights_cons, entries, Landmark.weights_append, Landmark.weight, count]
  omega

theorem weights_landmarks_filter_le (ofRoot : Nat) (p : WrittenGrammar → Bool) (set : GrammarSet) :
    Landmark.weights ofRoot ((set.filter p).flatMap WrittenGrammar.landmarks) ≤
      set.count + ofRoot * set.length := by
  induction set with
  | nil => exact Nat.zero_le _
  | cons g set ih =>
    rw [List.filter_cons, GrammarSet.count, List.length_cons, Nat.mul_succ]
    split
    · rw [List.flatMap_cons, Landmark.weights_append, g.weights_landmarks]
      omega
    · omega

/-- There are no more rules to compile than there are rules, and as many roots as grammars. -/
theorem weights_landmarksOf_le (ofRoot : Nat) (base : WrittenGrammar) (set : GrammarSet) :
    Landmark.weights ofRoot (landmarksOf base set) ≤
      base.count + set.count + ofRoot * (1 + set.length) := by
  have hset := weights_landmarks_filter_le ofRoot (·.scopeName != base.scopeName) set
  rw [landmarksOf, grammarsOf, List.flatMap_cons, Landmark.weights_append, base.weights_landmarks,
    Nat.mul_add, Nat.mul_one]
  omega

/-! ### What is left to compile -/

namespace Landmark

variable {ofRoot : Nat}

/-- The weight of the landmarks whose paths have no number yet. -/
def left (ofRoot : Nat) (landmarks : List Landmark) (known : List (String × RuleId)) : Nat :=
  weights ofRoot (landmarks.filter fun l => (known.lookup l.path).isNone)

theorem left_nil (landmarks : List Landmark) :
    left ofRoot landmarks [] = weights ofRoot landmarks := by
  show weights ofRoot (landmarks.filter fun _ => true) = weights ofRoot landmarks
  rw [List.filter_true]

/-- The more paths have a number, the less is left. -/
theorem left_le_left {known known' : List (String × RuleId)}
    (h : ∀ path, (known.lookup path).isSome → (known'.lookup path).isSome)
    (landmarks : List Landmark) :
    left ofRoot landmarks known' ≤ left ofRoot landmarks known := by
  have hsub : (landmarks.filter fun l => (known'.lookup l.path).isNone).Sublist
      (landmarks.filter fun l => (known.lookup l.path).isNone) := by
    refine List.monotone_filter_right landmarks fun l hl => ?_
    rw [Option.isNone_iff_eq_none] at hl ⊢
    by_contra hne
    have := h l.path (Option.isSome_iff_ne_none.2 hne)
    rw [hl] at this
    exact absurd this (by simp)
  exact weights_le_of_sublist hsub

theorem isSome_lookup_cons {known : List (String × RuleId)} {path path' : String} (id : RuleId)
    (h : (known.lookup path').isSome) : (((path, id) :: known).lookup path').isSome := by
  rw [List.lookup_cons]
  split
  · rfl
  · exact h

/-- **A landmark that gets a number makes what is left less by its weight.** -/
theorem left_cons {l : Landmark} {landmarks : List Landmark} {known : List (String × RuleId)}
    (hl : l ∈ landmarks) (hnew : known.lookup l.path = none) (id : RuleId) :
    left ofRoot landmarks ((l.path, id) :: known) + l.weight ofRoot ≤
      left ofRoot landmarks known := by
  obtain ⟨front, back, rfl⟩ := List.append_of_mem hl
  -- the others can only become fewer, also if one of them has the same path
  have hless (ls : List Landmark) : left ofRoot ls ((l.path, id) :: known) ≤ left ofRoot ls known :=
    left_le_left (fun _ => isSome_lookup_cons id) ls
  have hsplit (known : List (String × RuleId)) : left ofRoot (front ++ l :: back) known =
      left ofRoot front known + left ofRoot [l] known + left ofRoot back known := by
    rw [List.append_cons, left, List.filter_append, List.filter_append, weights_append,
      weights_append]
    rfl
  have hself : left ofRoot [l] known = l.weight ofRoot := by
    rw [left, List.filter_cons_of_pos (by rw [hnew]; rfl)]
    exact Nat.add_zero _
  have hgone : left ofRoot [l] ((l.path, id) :: known) = 0 := by
    rw [left, List.filter_cons_of_neg (by rw [List.lookup_cons_self]; simp)]
    rfl
  have hfront := hless front
  have hback := hless back
  rw [hsplit, hsplit, hself, hgone]
  omega

end Landmark

/-! ### Computations that settle -/

namespace Build

variable {α β : Type} {t : Table} {P Q : α → Table → Prop}

/-- A computation that does not end because of the depth, beside the same with more depth: both do
the same, and an answer satisfies a predicate. -/
def Settles (m m' : Build α) (t : Table) (P : α → Table → Prop) : Prop :=
  m'.run t = m.run t ∧
    match m.run t with
    | .ok (a, t') => P a t'
    | .error e => e.isUnresolved = false

theorem settles_pure {a : α} (h : P a t) : Settles (pure a) (pure a) t P := ⟨rfl, h⟩

theorem settles_throw {e : GrammarError} (h : e.isUnresolved = false) :
    Settles (throw e) (throw e) t P := ⟨rfl, h⟩

theorem settles_bind {R : β → Table → Prop} {m m' : Build α} {f f' : α → Build β}
    (hm : Settles m m' t P) (hf : ∀ a t', P a t' → Settles (f a) (f' a) t' R) :
    Settles (m >>= f) (m' >>= f') t R := by
  obtain ⟨heq, hP⟩ := hm
  split at hP
  · rename_i a t' hrun
    rw [Settles, run_bind_ok hrun, run_bind_ok (heq.trans hrun)]
    exact hf a t' hP
  · rename_i e hrun
    rw [Settles, run_bind_error hrun, run_bind_error (heq.trans hrun)]
    exact ⟨rfl, hP⟩

/-- A computation that does not depend on how rules are compiled, followed by others. -/
theorem settles_of_plain {p : α → Prop} {R : β → Table → Prop} {m : Build α}
    {f f' : α → Build β} (hm : WrittenRule.Plain m p)
    (hf : ∀ a, p a → Settles (f a) (f' a) t R) : Settles (m >>= f) (m >>= f') t R := by
  cases hm with
  | throw hresolved heq =>
    rw [heq]
    exact settles_throw hresolved
  | pure hp heq =>
    rw [heq, pure_bind, pure_bind]
    exact hf _ hp

end Build

/-! ### Numbers that are given out -/

section

variable {base : WrittenGrammar} {set : GrammarSet} {t t' t'' : Table}

/-- From one table to another, no more numbers are given out than the given one, apart from those
for the landmarks that get a number in between. -/
structure Table.Within (base : WrittenGrammar) (set : GrammarSet) (t : Table) (n : Nat)
    (t' : Table) : Prop where
  known : ∀ path, (t.known.lookup path).isSome → (t'.known.lookup path).isSome
  size_le : t'.slots.size + Landmark.left 1 (landmarksOf base set) t'.known ≤
    t.slots.size + Landmark.left 1 (landmarksOf base set) t.known + n

namespace Table.Within

variable {n n' : Nat}

theorem refl (t : Table) : t.Within base set 0 t := ⟨fun _ h => h, Nat.le_refl _⟩

theorem trans (h : t.Within base set n t') (h' : t'.Within base set n' t'') :
    t.Within base set (n + n') t'' := by
  have hsize := h.size_le
  have hsize' := h'.size_le
  exact ⟨fun path hpath => h'.known path (h.known path hpath), by omega⟩

theorem mono (h : t.Within base set n t') (hn : n ≤ n') : t.Within base set n' t' := by
  have hsize := h.size_le
  exact ⟨h.known, by omega⟩

theorem left_le (h : t.Within base set n t') :
    Landmark.left 0 (landmarksOf base set) t'.known ≤
      Landmark.left 0 (landmarksOf base set) t.known := Landmark.left_le_left h.known _

theorem reserve (t : Table) : t.Within base set 1 t.reserve := by
  refine ⟨fun _ h => h, ?_⟩
  show (t.slots.push none).size + _ ≤ _
  rw [Array.size_push]
  exact Nat.le_of_eq (Nat.add_right_comm _ _ _)

theorem fill (t : Table) (id : RuleId) (rule : Rule) :
    t.Within base set 0 (t.fill id rule) := by
  refine ⟨fun _ h => h, ?_⟩
  show (t.slots.setIfInBounds id (some rule)).size + _ ≤ _
  rw [Array.size_setIfInBounds]
  exact Nat.le_refl _

/-- A landmark that is entered may use up its weight, of which one number is its own. -/
theorem enter {l : Landmark} (hl : l ∈ landmarksOf base set)
    (hnew : t.known.lookup l.path = none) (hn : l.weight 1 = n + 1)
    (h : (t.open l.path).Within base set n t') : t.Within base set 0 t' := by
  have hleft : Landmark.left 1 _ _ + _ ≤ _ := Landmark.left_cons hl hnew t.slots.size
  have hsize := h.size_le
  have hopen : (t.open l.path).slots.size = t.slots.size + 1 := Array.size_push _
  refine ⟨fun path hpath => h.known path (Landmark.isSome_lookup_cons _ hpath), ?_⟩
  have hknown : (t.open l.path).known = (l.path, t.slots.size) :: t.known := rfl
  rw [hknown, hopen] at hsize
  omega

end Table.Within

/-! ### Rules -/

/-- The numbers that compiling a rule gives out: none for an include, apart from those for what it
refers to. -/
def WrittenRule.cost (rule : WrittenRule) : Nat := if rule.target.isSome then 0 else rule.weight

theorem WrittenRule.cost_le_weight (rule : WrittenRule) : rule.cost ≤ rule.weight := by
  unfold cost
  split
  · exact Nat.zero_le _
  · exact Nat.le_refl _

/-- Rules that are met compile as far as the given depth, and with `compile'` they do the same. -/
def CompileRule.SettlesTo (base : WrittenGrammar) (set : GrammarSet)
    (compile compile' : CompileRule) (depth : Nat) : Prop :=
  ∀ g ∈ grammarsOf base set, ∀ p, g.Meets p → ∀ t : Table,
    p.rule.weight + Landmark.left 0 (landmarksOf base set) t.known ≤ depth →
      Build.Settles (compile p.rule p.around p.path) (compile' p.rule p.around p.path) t
        fun _ t' => t.Within base set p.rule.cost t'

namespace WrittenRule

variable {compile compile' : CompileRule} {depth : Nat}

theorem settles_compileList (h : compile.SettlesTo base set compile' depth) {g : WrittenGrammar}
    (hg : g ∈ grammarsOf base set) {s : Surroundings} {path : String} {i : Nat}
    {rules : List WrittenRule} (hmeets : ∀ p ∈ s.listed path i rules, g.Meets p)
    (hdepth : weightOfRules rules + Landmark.left 0 (landmarksOf base set) t.known ≤ depth) :
    Build.Settles (compileList compile s path i rules) (compileList compile' s path i rules) t
      fun _ t' => t.Within base set (weightOfRules rules) t' := by
  induction rules generalizing i t with
  | nil => exact Build.settles_pure (.refl t)
  | cons rule rules ih =>
    rw [weightOfRules] at hdepth ⊢
    obtain ⟨hrule, hrules⟩ := List.forall_mem_cons.1 hmeets
    have hdepth' : rule.weight + Landmark.left 0 (landmarksOf base set) t.known ≤ depth := by omega
    refine Build.settles_bind (h g hg _ hrule t hdepth') fun id t' ht' => ?_
    have hleft := ht'.left_le
    refine Build.settles_bind (ih hrules (by omega)) fun ids t'' ht'' => ?_
    exact Build.settles_pure ((ht'.mono rule.cost_le_weight).trans ht'')

/-- A rule under a number given out before.  If it is an include, it has to be followed as well. -/
theorem settles_compileAs (h : compile.SettlesTo base set compile' depth) {g : WrittenGrammar}
    (hg : g ∈ grammarsOf base set) {p : Place} (hp : g.Meets p) (id : RuleId)
    (hinner : weightOfRules p.rule.patterns + Landmark.left 0 (landmarksOf base set) t.known ≤
      depth)
    (hself : p.rule.target.isSome →
      p.rule.weight + Landmark.left 0 (landmarksOf base set) t.known ≤ depth) :
    Build.Settles (compileAs compile id p.rule p.around p.path)
      (compileAs compile' id p.rule p.around p.path) t
      fun _ t' => t.Within base set (weightOfRules p.rule.patterns) t' := by
  unfold compileAs
  split
  · rename_i htarget
    refine Build.settles_bind (h g hg p hp t (hself htarget)) fun target t' ht' => ?_
    rw [cost, if_pos htarget] at ht'
    exact ⟨rfl, (ht'.trans (.fill t' id _)).mono (Nat.zero_le _)⟩
  · rw [compileBody_eq, compileBody_eq, bind_assoc, bind_assoc]
    refine Build.settles_of_plain (plain_maker _ _ _) fun make _ => ?_
    rw [bind_assoc, bind_assoc]
    have hle := p.rule.weightOfRules_inner_le
    refine Build.settles_bind (settles_compileList h hg (fun _ => hp.inner) (by omega))
      fun ids t' ht' => ?_
    exact ⟨rfl, (ht'.trans (.fill t' id _)).mono hle⟩

end WrittenRule

/-- What is compiled once, under the path of a landmark. -/
theorem Build.settles_once {l : Landmark} (hl : l ∈ landmarksOf base set) {n : Nat}
    (hn : l.weight 1 = n + 1) {build build' : RuleId → Build Unit}
    (h : ∀ id t', Landmark.left 0 (landmarksOf base set) t'.known + l.weight 0 ≤
        Landmark.left 0 (landmarksOf base set) t.known →
      Build.Settles (build id) (build' id) t' fun _ t'' => t'.Within base set n t'') :
    Build.Settles (Build.once l.path build) (Build.once l.path build') t
      fun _ t' => t.Within base set 0 t' := by
  cases hlookup : t.known.lookup l.path with
  | some id =>
    rw [Build.Settles, Build.run_once_known hlookup, Build.run_once_known hlookup]
    exact ⟨rfl, .refl t⟩
  | none =>
    rw [Build.Settles, Build.run_once_new hlookup, Build.run_once_new hlookup]
    -- the weight of the landmark is taken off what is left, and pays for the rules in it
    refine Build.settles_bind (h _ _ (Landmark.left_cons hl hlookup _)) fun _ t' ht' => ?_
    exact Build.settles_pure (.enter hl hlookup hn ht')

theorem WrittenGrammar.settles_compileRoot {compile compile' : CompileRule} {depth : Nat}
    (h : compile.SettlesTo base set compile' depth) {g : WrittenGrammar}
    (hg : g ∈ grammarsOf base set)
    (hdepth : Landmark.left 0 (landmarksOf base set) t.known ≤ depth) :
    Build.Settles (g.compileRoot compile) (g.compileRoot compile') t
      fun _ t' => t.Within base set 0 t' := by
  refine Build.settles_once (l := .root g) (mem_landmarksOf hg List.mem_cons_self) rfl
    fun id t' ht' => ?_
  rw [Landmark.weight, Nat.add_zero] at ht'
  refine Build.settles_bind (WrittenRule.settles_compileList h hg
    (fun p hp => ⟨_, meetsFrom_of_mem_listed hp⟩) (by omega)) fun ids t'' ht'' => ?_
  exact ⟨rfl, (ht''.trans (.fill t'' id _)).mono (Nat.le_refl _)⟩

theorem Referent.settles_compile {compile compile' : CompileRule} {depth : Nat}
    (h : compile.SettlesTo base set compile' depth) {r : Referent} (hr : r.Met base set)
    (hl : r.landmark ∈ landmarksOf base set)
    (hdepth : Landmark.left 0 (landmarksOf base set) t.known ≤ depth) :
    Build.Settles (r.compile compile) (r.compile compile') t
      fun _ t' => t.Within base set 0 t' := by
  cases r with
  | root g => exact WrittenGrammar.settles_compileRoot h hr hdepth
  | entry rule path around =>
    obtain ⟨g, hg, hmeets⟩ := hr
    refine Build.settles_once hl rule.weight_eq fun id t' ht' => ?_
    have hweight := rule.weight_eq
    have hdepth' : rule.weight + Landmark.left 0 (landmarksOf base set) t'.known ≤ depth := by
      rw [Referent.landmark, Landmark.weight] at ht'
      omega
    refine WrittenRule.settles_compileAs h hg hmeets id ?_ fun _ => hdepth'
    exact Nat.le_trans (Nat.add_le_add_right (hweight ▸ Nat.le_succ _) _) hdepth'

/-- **The depth suffices** as long as it is not less than the rules that are left to compile. -/
theorem WrittenRule.settles_compile (base : WrittenGrammar) (set : GrammarSet) (depth more : Nat) :
    CompileRule.SettlesTo base set (WrittenRule.compile base set depth)
      (WrittenRule.compile base set (depth + more)) depth := by
  induction depth with
  | zero =>
    -- every rule has a weight, so none fits a depth of zero
    intro g _ p _ t hdepth
    have hweight := p.rule.weight_eq
    omega
  | succ depth ih =>
    intro g hg p hp t hdepth
    have hweight := p.rule.weight_eq
    rw [Nat.succ_add]
    unfold WrittenRule.compile
    split
    · rename_i htarget
      have hcost : p.rule.cost = 1 + weightOfRules p.rule.patterns := by
        rw [cost, htarget, hweight, Nat.add_comm]
        rfl
      have hreserve : Build.Settles Build.reserve Build.reserve t
          fun _ t' => t' = t.reserve := ⟨rfl, rfl⟩
      refine Build.settles_bind hreserve fun id t' ht' => ?_
      obtain rfl := ht'
      have hleft := (show Table.Within base set t 1 t.reserve from .reserve t).left_le
      refine Build.settles_bind (settles_compileAs ih hg hp id (by omega) fun hsome => ?_)
        fun _ t' ht' => ?_
      · rw [htarget] at hsome
        exact absurd hsome (by simp)
      · rw [hcost]
        exact Build.settles_pure ((Table.Within.reserve t).trans ht')
    · rename_i target htarget
      have hcost : p.rule.cost = 0 := by
        rw [cost, htarget]
        rfl
      -- the weight of the include itself pays for the depth that following it takes
      rw [hcost]
      split
      · exact Build.settles_throw rfl
      · rename_i r hr
        obtain ⟨target', -, hr⟩ := Option.bind_eq_some_iff.1 hr
        obtain ⟨lexical, hmeets⟩ := hp
        obtain ⟨hmet, hl⟩ := hmeets.stacked.referent hg hmeets.grammar_eq hr
        exact r.settles_compile ih hmet hl (by omega)

end

end Highlight
