import Highlight.Proofs.Grammar.Candidates
import Mathlib.Algebra.BigOperators.Group.Finset.Basic
import Mathlib.Algebra.BigOperators.Intervals
import Mathlib.Logic.Relation

/-!
# The candidates of a rule

`flatten` goes through a list of rules with a stack, in which a group is replaced by what is in it
the first time that it comes up.  Here that is compared with two ways to go through the rules which
follow their structure.  `Candidates.Traverses` goes into a group where it stands and then on behind
it, and expands each group once; `Candidates.Expands` replaces a group by what is in it wherever it
stands, which has an end only if no group is in itself.

The stack comes to an end (`Candidates.runs_flattenFrom`), and what it finds is what the traversal
meets, every candidate where it is met first (`Candidates.Traverses.runs`).  Hence it finds all that
is reached through groups (`Candidates.Traverses.mem_iff`).  A group that the traversal leaves out
has been expanded before, or else the traversal is still inside it; where no group is in itself the
latter does not occur, and nothing is left out that has not been found
(`Candidates.Traverses.foldl_eq`).
-/

namespace Highlight

open Relation

/-! ### Ways to go through the rules -/

namespace Candidates

variable {rules : Array Rule} {id : RuleId} {visited visited' ids met found answer : List RuleId}

/-- All rules that rules of the table list are in the table. -/
def Inside (rules : Array Rule) : Prop :=
  ∀ (id : RuleId) (rule : Rule), rules[id]? = some rule → ∀ p ∈ rule.patterns, p < rules.size

/-- Going through the rules to do comes to an end with the given answer.  One rule is taken from the
list after the other, and what is in a group comes in its place the first time. -/
inductive Runs (rules : Array Rule) : (toDo visited found answer : List RuleId) → Prop where
  | done (visited found : List RuleId) : Runs rules [] visited found found
  | candidate {id : RuleId} {toDo visited found answer : List RuleId} {rule : Rule}
    (rule_eq : rules[id]? = some rule) (isCandidate : rule.IsCandidate)
    (rest : Runs rules toDo visited (Text.appendNew found id) answer) :
    Runs rules (id :: toDo) visited found answer
  | known {id : RuleId} {toDo visited found answer patterns : List RuleId}
    (rule_eq : rules[id]? = some (.group patterns)) (mem : id ∈ visited)
    (rest : Runs rules toDo visited found answer) : Runs rules (id :: toDo) visited found answer
  | enter {id : RuleId} {toDo visited found answer patterns : List RuleId}
    (rule_eq : rules[id]? = some (.group patterns)) (not_mem : id ∉ visited)
    (rest : Runs rules (patterns ++ toDo) (id :: visited) found answer) :
    Runs rules (id :: toDo) visited found answer

/-- The traversal of the rules of a list and of the groups in it, depth first and from left to
right, that expands each group once: the candidates that it meets, in order and as often as it meets
them, and the groups that have been expanded after it. -/
inductive Traverses (rules : Array Rule) : (visited ids met visited' : List RuleId) → Prop where
  | nil (visited : List RuleId) : Traverses rules visited [] [] visited
  | candidate {id : RuleId} {visited ids met visited' : List RuleId} {rule : Rule}
    (rule_eq : rules[id]? = some rule) (isCandidate : rule.IsCandidate)
    (rest : Traverses rules visited ids met visited') :
    Traverses rules visited (id :: ids) (id :: met) visited'
  | known {id : RuleId} {visited ids met visited' patterns : List RuleId}
    (rule_eq : rules[id]? = some (.group patterns)) (mem : id ∈ visited)
    (rest : Traverses rules visited ids met visited') :
    Traverses rules visited (id :: ids) met visited'
  | enter {id : RuleId} {visited ids inner met visited₁ visited₂ patterns : List RuleId}
    (rule_eq : rules[id]? = some (.group patterns)) (not_mem : id ∉ visited)
    (inside : Traverses rules (id :: visited) patterns inner visited₁)
    (rest : Traverses rules visited₁ ids met visited₂) :
    Traverses rules visited (id :: ids) (inner ++ met) visited₂

/-- The list with every group replaced by what is in it, every time that it is met. -/
inductive Expands (rules : Array Rule) : (ids all : List RuleId) → Prop where
  | nil : Expands rules [] []
  | candidate {id : RuleId} {ids all : List RuleId} {rule : Rule}
    (rule_eq : rules[id]? = some rule) (isCandidate : rule.IsCandidate)
    (rest : Expands rules ids all) : Expands rules (id :: ids) (id :: all)
  | group {id : RuleId} {ids inner all patterns : List RuleId}
    (rule_eq : rules[id]? = some (.group patterns)) (inside : Expands rules patterns inner)
    (rest : Expands rules ids all) : Expands rules (id :: ids) (inner ++ all)

/-- A group lists a rule. -/
def Lists (rules : Array Rule) (group id : RuleId) : Prop :=
  ∃ patterns, rules[group]? = some (.group patterns) ∧ id ∈ patterns

/-- A rule is in the list, or in a group of the list, or in a group of that, and so on. -/
def Reached (rules : Array Rule) (ids : List RuleId) (id : RuleId) : Prop :=
  ∃ first ∈ ids, ReflTransGen (Lists rules) first id

/-- No group that is reached from the list is in itself. -/
def Acyclic (rules : Array Rule) (ids : List RuleId) : Prop :=
  ∀ id, Reached rules ids id → ¬TransGen (Lists rules) id id

/-! ### Single rules -/

/-- A rule of the table is a group or a candidate. -/
theorem exists_group_or_candidate (h : id < rules.size) :
    (∃ patterns, rules[id]? = some (.group patterns)) ∨
      ∃ rule, rules[id]? = some rule ∧ rule.IsCandidate := by
  rw [Array.getElem?_eq_getElem h]
  cases hrule : rules[id] with
  | matching rule => exact .inr ⟨_, rfl, .matching rule⟩
  | span rule => exact .inr ⟨_, rfl, .span rule⟩
  | group patterns => exact .inl ⟨patterns, rfl⟩

/-- No group is a candidate. -/
theorem not_group_of_candidate {rule : Rule} {patterns : List RuleId}
    (hrule : rules[id]? = some rule) (hcandidate : rule.IsCandidate) :
    rules[id]? ≠ some (.group patterns) := by
  intro hgroup
  obtain rfl := Option.some.inj (hrule.symm.trans hgroup)
  exact nomatch hcandidate

theorem patterns_eq {patterns patterns' : List RuleId}
    (hrule : rules[id]? = some (.group patterns)) (hrule' : rules[id]? = some (.group patterns')) :
    patterns = patterns' :=
  Rule.group.inj (Option.some.inj (hrule.symm.trans hrule'))

theorem Reached.of_mem (h : id ∈ ids) : Reached rules ids id := ⟨id, h, .refl⟩

theorem Reached.mono {ids' : List RuleId} (h : Reached rules ids id) (hsub : ids ⊆ ids') :
    Reached rules ids' id := by
  obtain ⟨first, hfirst, hpath⟩ := h
  exact ⟨first, hsub hfirst, hpath⟩

/-- What a group leads to is reached wherever the group is. -/
theorem Reached.of_group {group : RuleId} {patterns : List RuleId}
    (hrule : rules[group]? = some (.group patterns)) (hgroup : group ∈ ids)
    (h : Reached rules patterns id) : Reached rules ids id := by
  obtain ⟨first, hfirst, hpath⟩ := h
  exact ⟨group, hgroup, .head ⟨patterns, hrule, hfirst⟩ hpath⟩

/-- A group that is reached from its own patterns is in itself. -/
theorem Reached.transGen {patterns : List RuleId} (hrule : rules[id]? = some (.group patterns))
    (h : Reached rules patterns id) : TransGen (Lists rules) id id := by
  obtain ⟨first, hfirst, hpath⟩ := h
  exact .head' ⟨patterns, hrule, hfirst⟩ hpath

theorem Acyclic.mono {ids' : List RuleId} (h : Acyclic rules ids)
    (hsub : ∀ id, Reached rules ids' id → Reached rules ids id) : Acyclic rules ids' :=
  fun id hid => h id (hsub id hid)

theorem Inside.of_group (h : Inside rules) {patterns : List RuleId}
    (hrule : rules[id]? = some (.group patterns)) : ∀ p ∈ patterns, p < rules.size :=
  h id _ hrule

/-! ### The loop comes to an end -/

/-- The rules that a rule of the table lists. -/
def patternsOf (rules : Array Rule) (id : RuleId) : List RuleId :=
  (rules[id]?.map Rule.patterns).getD []

theorem patternsOf_eq {rule : Rule} (hrule : rules[id]? = some rule) :
    patternsOf rules id = rule.patterns := by
  rw [patternsOf, hrule]
  rfl

/-- The number of places at which rules that have not been visited list rules. -/
def left (rules : Array Rule) (visited : List RuleId) : Nat :=
  ∑ id ∈ Finset.range rules.size \ visited.toFinset, (patternsOf rules id).length

theorem left_eq_add {rule : Rule} (hrule : rules[id]? = some rule) (hid : id ∉ visited) :
    left rules visited = rule.patterns.length + left rules (id :: visited) := by
  have hlt : id < rules.size := (Array.getElem?_eq_some_iff.1 hrule).1
  have hmem : id ∈ Finset.range rules.size \ visited.toFinset := by
    simp [hlt, hid]
  rw [left, left, List.toFinset_cons, Finset.sdiff_insert, ← patternsOf_eq hrule]
  exact (Finset.add_sum_erase _ (fun id => (patternsOf rules id).length) hmem).symm

theorem patternCountOf_eq (rules : List Rule) :
    patternCountOf rules =
      ∑ i ∈ Finset.range rules.length, ((rules[i]?.map Rule.patterns).getD []).length := by
  induction rules with
  | nil => rfl
  | cons rule rules ih =>
    rw [patternCountOf, ih, List.length_cons, Finset.sum_range_succ', Nat.add_comm]
    rfl

theorem left_nil (rules : Array Rule) : left rules [] = patternCount rules := by
  rw [left, patternCount, patternCountOf_eq, List.toFinset_nil, Finset.sdiff_empty,
    Array.length_toList]
  refine Finset.sum_congr rfl fun i _ => ?_
  rw [patternsOf, Array.getElem?_toList]

/-- As long as there is fuel for what is to do and for what is in the groups that have not been
visited, the loop comes to an end. -/
theorem runs_flattenFrom (hinside : Inside rules) {fuel : Nat} {toDo : List RuleId}
    (htoDo : ∀ id ∈ toDo, id < rules.size) (hfuel : toDo.length + left rules visited ≤ fuel) :
    Runs rules toDo visited found (flattenFrom rules fuel toDo visited found) := by
  fun_induction flattenFrom rules fuel toDo visited found with
  | case1 toDo visited found =>
    obtain rfl := List.length_eq_zero_iff.1 (show toDo.length = 0 by omega)
    exact .done _ _
  | case2 => exact .done _ _
  | case3 fuel id toDo visited found hrule ih =>
    have hlt := htoDo id List.mem_cons_self
    rw [Array.getElem?_eq_getElem hlt] at hrule
    exact absurd hrule (by simp)
  | case4 fuel id toDo visited found patterns hrule hmem ih =>
    rw [List.length_cons] at hfuel
    exact .known hrule (List.contains_iff_mem.1 hmem)
      (ih (fun i hi => htoDo i (List.mem_cons_of_mem _ hi)) (by omega))
  | case5 fuel id toDo visited found patterns hrule hmem ih =>
    rw [List.contains_iff_mem] at hmem
    have hleft := left_eq_add hrule hmem
    rw [List.length_cons, hleft] at hfuel
    refine .enter hrule hmem (ih (fun i hi => ?_) ?_)
    · rcases List.mem_append.1 hi with hi | hi
      · exact hinside.of_group hrule i hi
      · exact htoDo i (List.mem_cons_of_mem _ hi)
    · rw [List.length_append]
      have hpatterns : (Rule.group patterns).patterns = patterns := rfl
      rw [hpatterns] at hfuel
      omega
  | case6 fuel id toDo visited found rule hgroup hrule ih =>
    rw [List.length_cons] at hfuel
    have hlt := htoDo id List.mem_cons_self
    rcases exists_group_or_candidate hlt with ⟨patterns, hp⟩ | ⟨rule', hrule', hcandidate⟩
    · exact absurd (Option.some.inj (hrule.symm.trans hp)) (hgroup patterns)
    · exact .candidate hrule' hcandidate
        (ih (fun i hi => htoDo i (List.mem_cons_of_mem _ hi)) (by omega))

theorem Runs.unique {toDo answer' : List RuleId} (h : Runs rules toDo visited found answer)
    (h' : Runs rules toDo visited found answer') : answer = answer' := by
  induction h with
  | done visited found =>
    cases h'
    rfl
  | candidate hrule hcandidate _ ih =>
    cases h' with
    | candidate _ _ hrest => exact ih hrest
    | known hrule' | enter hrule' => exact absurd hrule' (not_group_of_candidate hrule hcandidate)
  | known hrule hmem _ ih =>
    cases h' with
    | candidate hrule' hcandidate => exact absurd hrule (not_group_of_candidate hrule' hcandidate)
    | known _ _ hrest => exact ih hrest
    | enter _ hnot => exact absurd hmem hnot
  | enter hrule hnot _ ih =>
    cases h' with
    | candidate hrule' hcandidate => exact absurd hrule (not_group_of_candidate hrule' hcandidate)
    | known _ hmem => exact absurd hmem hnot
    | enter hrule' _ hrest =>
      obtain rfl := patterns_eq hrule hrule'
      exact ih hrest

/-! ### The traversal -/

/-- The groups of the table that have not been visited. -/
def unvisited (rules : Array Rule) (visited : List RuleId) : Finset RuleId :=
  Finset.range rules.size \ visited.toFinset

theorem Traverses.subset (h : Traverses rules visited ids met visited') : visited ⊆ visited' := by
  induction h with
  | nil => exact List.Subset.refl _
  | candidate _ _ _ ih => exact ih
  | known _ _ _ ih => exact ih
  | enter _ _ _ _ ihinside ihrest =>
    exact fun i hi => ihrest (ihinside (List.mem_cons_of_mem _ hi))

theorem card_unvisited_lt (hlt : id < rules.size) (hid : id ∉ visited)
    (hsub : id :: visited ⊆ visited') :
    (unvisited rules visited').card < (unvisited rules visited).card := by
  refine Finset.card_lt_card ⟨fun i hi => ?_, fun h => ?_⟩
  · simp only [unvisited, Finset.mem_sdiff, List.mem_toFinset] at hi ⊢
    exact ⟨hi.1, fun hmem => hi.2 (hsub (List.mem_cons_of_mem _ hmem))⟩
  · have hmem : id ∈ unvisited rules visited := by simp [unvisited, hlt, hid]
    have hnot := (Finset.mem_sdiff.1 (h hmem)).2
    exact hnot (List.mem_toFinset.2 (hsub List.mem_cons_self))

/-- The traversal comes to an end: a group is expanded only while it is among those that have not
been visited. -/
theorem exists_traverses (hinside : Inside rules) (visited ids : List RuleId)
    (hids : ∀ id ∈ ids, id < rules.size) :
    ∃ met visited', Traverses rules visited ids met visited' := by
  induction hn : (unvisited rules visited).card using Nat.strong_induction_on
    generalizing visited ids with
  | _ n ihn =>
  induction ids with
  | nil => exact ⟨[], visited, .nil visited⟩
  | cons id ids ih =>
    obtain ⟨hid, hrest⟩ := List.forall_mem_cons.1 hids
    rcases exists_group_or_candidate hid with ⟨patterns, hrule⟩ | ⟨rule, hrule, hcandidate⟩
    · by_cases hmem : id ∈ visited
      · obtain ⟨met, visited', h⟩ := ih hrest
        exact ⟨met, visited', .known hrule hmem h⟩
      · -- what is in the group first, and then the rest, with fewer groups left for both
        have hlt := card_unvisited_lt hid hmem (List.Subset.refl _)
        obtain ⟨inner, visited₁, hinner⟩ := ihn _ (hn ▸ hlt) (id :: visited) patterns
          (hinside.of_group hrule) rfl
        have hlt₁ := card_unvisited_lt hid hmem hinner.subset
        obtain ⟨met, visited₂, h⟩ := ihn _ (hn ▸ hlt₁) visited₁ ids hrest rfl
        exact ⟨inner ++ met, visited₂, .enter hrule hmem hinner h⟩
    · obtain ⟨met, visited', h⟩ := ih hrest
      exact ⟨id :: met, visited', .candidate hrule hcandidate h⟩

/-- The loop does what the traversal does, and then goes on with what is to do. -/
theorem Traverses.runs (h : Traverses rules visited ids met visited') {toDo : List RuleId}
    (hrest : Runs rules toDo visited' (met.foldl Text.appendNew found) answer) :
    Runs rules (ids ++ toDo) visited found answer := by
  induction h generalizing found toDo with
  | nil => exact hrest
  | candidate hrule hcandidate _ ih => exact .candidate hrule hcandidate (ih hrest)
  | known hrule hmem _ ih => exact .known hrule hmem (ih hrest)
  | enter hrule hnot _ _ ihinside ihrest =>
    rw [List.foldl_append] at hrest
    exact .enter hrule hnot (ihinside (ihrest hrest))

/-! ### What is met -/

theorem Traverses.reached (h : Traverses rules visited ids met visited') (hid : id ∈ met) :
    Reached rules ids id ∧ ∃ rule, rules[id]? = some rule ∧ rule.IsCandidate := by
  induction h with
  | nil => exact absurd hid List.not_mem_nil
  | candidate hrule hcandidate _ ih =>
    rcases List.mem_cons.1 hid with rfl | hid
    · exact ⟨.of_mem List.mem_cons_self, _, hrule, hcandidate⟩
    · exact (ih hid).imp_left fun hreached => hreached.mono (List.subset_cons_self _ _)
  | known _ _ _ ih =>
    exact (ih hid).imp_left fun hreached => hreached.mono (List.subset_cons_self _ _)
  | enter hrule _ _ _ ihinside ihrest =>
    rcases List.mem_append.1 hid with hid | hid
    · exact (ihinside hid).imp_left fun hreached => hreached.of_group hrule List.mem_cons_self
    · exact (ihrest hid).imp_left fun hreached => hreached.mono (List.subset_cons_self _ _)

/-- A rule has been met, or it is a group that has been expanded. -/
def Handled (rules : Array Rule) (met visited : List RuleId) (id : RuleId) : Prop :=
  id ∈ met ∨ id ∈ visited ∧ ∃ patterns, rules[id]? = some (.group patterns)

theorem Handled.mono {met₁ met₂ visited₁ visited₂ : List RuleId}
    (h : Handled rules met₁ visited₁ id) (hmet : met₁ ⊆ met₂) (hvisited : visited₁ ⊆ visited₂) :
    Handled rules met₂ visited₂ id :=
  h.imp (fun hmem => hmet hmem) fun ⟨hmem, hgroup⟩ => ⟨hvisited hmem, hgroup⟩

/-- A traversal handles the rules of its list, and what is in the groups that it expands. -/
theorem Traverses.handled (h : Traverses rules visited ids met visited') :
    (∀ id ∈ ids, Handled rules met visited' id) ∧
      ∀ group ∈ visited', group ∉ visited → ∀ patterns, rules[group]? = some (.group patterns) →
        ∀ id ∈ patterns, Handled rules met visited' id := by
  induction h with
  | nil visited => exact ⟨fun _ h => absurd h List.not_mem_nil, fun _ h hnot => absurd h hnot⟩
  | candidate _ _ _ ih =>
    refine ⟨List.forall_mem_cons.2 ⟨.inl List.mem_cons_self, fun i hi => ?_⟩,
      fun group hgroup hnot patterns hrule i hi => ?_⟩
    · exact (ih.1 i hi).mono (List.subset_cons_self _ _) (List.Subset.refl _)
    · exact (ih.2 group hgroup hnot patterns hrule i hi).mono (List.subset_cons_self _ _)
        (List.Subset.refl _)
  | known hrule hmem hrest ih =>
    exact ⟨List.forall_mem_cons.2 ⟨.inr ⟨hrest.subset hmem, _, hrule⟩, ih.1⟩, ih.2⟩
  | @enter id visited ids inner met visited₁ visited₂ patterns hrule hnot hinside hrest ihinside
      ihrest =>
    have hinner : ∀ i, Handled rules inner visited₁ i → Handled rules (inner ++ met) visited₂ i :=
      fun i hi => hi.mono (List.subset_append_left _ _) hrest.subset
    have hmet : ∀ i, Handled rules met visited₂ i → Handled rules (inner ++ met) visited₂ i :=
      fun i hi => hi.mono (List.subset_append_right _ _) (List.Subset.refl _)
    have hid : id ∈ visited₁ := hinside.subset List.mem_cons_self
    refine ⟨List.forall_mem_cons.2 ⟨.inr ⟨hrest.subset hid, _, hrule⟩, fun i hi => ?_⟩,
      fun group hgroup hgroup' patterns' hrule' i hi => ?_⟩
    · exact hmet i (ihrest.1 i hi)
    · by_cases hmem : group ∈ visited₁
      · by_cases heq : group = id
        · -- the group that has been expanded first
          subst heq
          obtain rfl := patterns_eq hrule hrule'
          exact hinner i (ihinside.1 i hi)
        · have hnew : group ∉ id :: visited := fun h => (List.mem_cons.1 h).elim heq hgroup'
          exact hinner i (ihinside.2 group hmem hnew patterns' hrule' i hi)
      · exact hmet i (ihrest.2 group hgroup hmem patterns' hrule' i hi)

/-- A traversal that begins inside a rule handles all that is reached from it. -/
theorem Traverses.handled_of_reached {rule : Rule} {root : RuleId}
    (hroot : rules[root]? = some rule) (h : Traverses rules [root] rule.patterns met visited')
    (hid : Reached rules rule.patterns id) : Handled rules met visited' id := by
  obtain ⟨hids, hgroups⟩ := h.handled
  obtain ⟨first, hfirst, hpath⟩ := hid
  induction hpath with
  | refl => exact hids first hfirst
  | @tail group next _ hlists ih =>
    obtain ⟨patterns, hrule, hnext⟩ := hlists
    rcases ih with hmet | ⟨hvisited, -⟩
    · -- what is met is no group, and so it lists nothing
      obtain ⟨-, r, hr, hcandidate⟩ := h.reached hmet
      exact absurd hrule (not_group_of_candidate hr hcandidate)
    · by_cases heq : group = root
      · subst heq
        obtain rfl := Option.some.inj (hroot.symm.trans hrule)
        exact hids next hnext
      · exact hgroups group hvisited (by simpa using heq) patterns hrule next hnext

/-- A traversal that begins inside a rule meets just the candidates that are reached from it. -/
theorem Traverses.mem_iff {rule : Rule} {root : RuleId} (hroot : rules[root]? = some rule)
    (h : Traverses rules [root] rule.patterns met visited') :
    id ∈ met ↔ Reached rules rule.patterns id ∧ ∃ r, rules[id]? = some r ∧ r.IsCandidate := by
  refine ⟨h.reached, ?_⟩
  rintro ⟨hreached, r, hr, hcandidate⟩
  rcases h.handled_of_reached hroot hreached with hmem | ⟨-, patterns, hrule⟩
  · exact hmem
  · exact absurd hrule (not_group_of_candidate hr hcandidate)

/-! ### Groups that form no cycle -/

open Classical in
/-- The rules of the table that are reached from a list. -/
noncomputable def reach (rules : Array Rule) (ids : List RuleId) : Finset RuleId :=
  (Finset.range rules.size).filter (Reached rules ids)

theorem mem_reach : id ∈ reach rules ids ↔ id < rules.size ∧ Reached rules ids id := by
  simp [reach]

theorem card_reach_le {ids' : List RuleId} (h : ids ⊆ ids') :
    (reach rules ids).card ≤ (reach rules ids').card := by
  refine Finset.card_le_card fun i hi => ?_
  obtain ⟨hlt, hreached⟩ := mem_reach.1 hi
  exact mem_reach.2 ⟨hlt, hreached.mono h⟩

/-- A group that is not in itself leads to less than a list that it is in. -/
theorem card_reach_lt {patterns : List RuleId} (hrule : rules[id]? = some (.group patterns))
    (hmem : id ∈ ids) (hacyclic : Acyclic rules ids) :
    (reach rules patterns).card < (reach rules ids).card := by
  refine Finset.card_lt_card ⟨fun i hi => ?_, fun h => ?_⟩
  · obtain ⟨hlt, hreached⟩ := mem_reach.1 hi
    exact mem_reach.2 ⟨hlt, hreached.of_group hrule hmem⟩
  · have hid : id ∈ reach rules ids :=
      mem_reach.2 ⟨(Array.getElem?_eq_some_iff.1 hrule).1, .of_mem hmem⟩
    exact hacyclic id (.of_mem hmem) ((mem_reach.1 (h hid)).2.transGen hrule)

/-- Where no group is in itself, replacing groups comes to an end. -/
theorem exists_expands (hinside : Inside rules) (ids : List RuleId)
    (hids : ∀ id ∈ ids, id < rules.size) (hacyclic : Acyclic rules ids) :
    ∃ all, Expands rules ids all := by
  induction hn : (reach rules ids).card using Nat.strong_induction_on generalizing ids with
  | _ n ihn =>
  have hcard := hn.le
  clear hn
  induction ids with
  | nil => exact ⟨[], .nil⟩
  | cons id ids ih =>
    obtain ⟨hid, hrest⟩ := List.forall_mem_cons.1 hids
    have hsub := List.subset_cons_self id ids
    obtain ⟨all, hall⟩ := ih hrest (hacyclic.mono fun _ h => h.mono hsub)
      ((card_reach_le hsub).trans hcard)
    rcases exists_group_or_candidate hid with ⟨patterns, hrule⟩ | ⟨rule, hrule, hcandidate⟩
    · have hlt := card_reach_lt hrule List.mem_cons_self hacyclic
      obtain ⟨inner, hinner⟩ := ihn _ (hlt.trans_le hcard) patterns (hinside.of_group hrule)
        (hacyclic.mono fun _ h => h.of_group hrule List.mem_cons_self) rfl
      exact ⟨inner ++ all, .group hrule hinner hall⟩
    · exact ⟨id :: all, .candidate hrule hcandidate hall⟩

theorem Expands.unique {all all' : List RuleId} (h : Expands rules ids all)
    (h' : Expands rules ids all') : all = all' := by
  induction h generalizing all' with
  | nil =>
    cases h'
    rfl
  | candidate hrule hcandidate _ ih =>
    cases h' with
    | candidate _ _ hrest => rw [ih hrest]
    | group hrule' => exact absurd hrule' (not_group_of_candidate hrule hcandidate)
  | group hrule _ _ ihinside ihrest =>
    cases h' with
    | candidate hrule' hcandidate => exact absurd hrule (not_group_of_candidate hrule' hcandidate)
    | group hrule' hinside' hrest' =>
      obtain rfl := patterns_eq hrule hrule'
      rw [ihinside hinside', ihrest hrest']

/-- All that is in a group has been found. -/
def Exhausted (rules : Array Rule) (found : List RuleId) (group : RuleId) : Prop :=
  ∀ patterns inner, rules[group]? = some (.group patterns) → Expands rules patterns inner →
    inner ⊆ found

theorem subset_foldl_appendNew (found ids : List RuleId) :
    found ⊆ ids.foldl Text.appendNew found :=
  fun _ hi => Text.mem_foldl_appendNew.2 (.inl hi)

theorem Exhausted.mono {found' : List RuleId} (h : Exhausted rules found id)
    (hsub : found ⊆ found') : Exhausted rules found' id :=
  fun patterns inner hrule hinner _ hi => hsub (h patterns inner hrule hinner hi)

/-- **Where no group is in itself, what a traversal leaves out has been found already.**  The groups
that have been visited and are met again are exhausted, since the traversal is not inside them. -/
theorem Traverses.foldl_eq (h : Traverses rules visited ids met visited') {all : List RuleId}
    (hall : Expands rules ids all) (hacyclic : Acyclic rules ids)
    (hvisited : ∀ group ∈ visited, Reached rules ids group → Exhausted rules found group) :
    met.foldl Text.appendNew found = all.foldl Text.appendNew found ∧
      ∀ group ∈ visited', group ∈ visited ∨
        Exhausted rules (all.foldl Text.appendNew found) group := by
  induction h generalizing all found with
  | nil =>
    cases hall
    exact ⟨rfl, fun group hgroup => .inl hgroup⟩
  | @candidate id visited ids met visited' rule hrule hcandidate _ ih =>
    cases hall with
    | group hrule' => exact absurd hrule' (not_group_of_candidate hrule hcandidate)
    | @candidate _ _ all _ _ _ hrest =>
      refine ih hrest (hacyclic.mono fun _ h => h.mono (List.subset_cons_self _ _))
        fun group hgroup hreached => ?_
      exact (hvisited group hgroup (hreached.mono (List.subset_cons_self _ _))).mono
        fun i hi => Text.mem_appendNew_iff.2 (.inl hi)
  | @known id visited ids met visited' patterns hrule hmem _ ih =>
    cases hall with
    | candidate hrule' hcandidate => exact absurd hrule (not_group_of_candidate hrule' hcandidate)
    | @group _ _ inner all patterns' hrule' hinner hrest =>
      have hfound : inner ⊆ found :=
        hvisited id hmem (.of_mem List.mem_cons_self) patterns' inner hrule' hinner
      rw [List.foldl_append, Text.foldl_appendNew_of_subset hfound]
      exact ih hrest (hacyclic.mono fun _ h => h.mono (List.subset_cons_self _ _))
        fun group hgroup hreached =>
          hvisited group hgroup (hreached.mono (List.subset_cons_self _ _))
  | @enter id visited ids met₁ met₂ visited₁ visited₂ patterns hrule hnot _ _ ihinside ihrest =>
    cases hall with
    | candidate hrule' hcandidate => exact absurd hrule (not_group_of_candidate hrule' hcandidate)
    | @group _ _ inner all patterns' hrule' hinner hrest =>
      obtain rfl := patterns_eq hrule hrule'
      have hself : ¬Reached rules patterns id := fun h =>
        hacyclic id (.of_mem List.mem_cons_self) (h.transGen hrule)
      obtain ⟨heq₁, hnew₁⟩ : met₁.foldl Text.appendNew found = inner.foldl Text.appendNew found ∧
          ∀ group ∈ visited₁, group ∈ id :: visited ∨
            Exhausted rules (inner.foldl Text.appendNew found) group := by
        refine ihinside hinner (hacyclic.mono fun _ h => h.of_group hrule List.mem_cons_self) ?_
        intro group hgroup hreached
        rcases List.mem_cons.1 hgroup with rfl | hgroup
        · exact absurd hreached hself
        · exact hvisited group hgroup (hreached.of_group hrule List.mem_cons_self)
      -- now the group itself is exhausted, and so is what was visited in it
      have hexhausted : Exhausted rules (inner.foldl Text.appendNew found) id := by
        intro patterns' inner' hrule'' hinner' i hi
        obtain rfl := patterns_eq hrule hrule''
        obtain rfl := hinner.unique hinner'
        exact Text.mem_foldl_appendNew.2 (.inr hi)
      have hvisited₁ : ∀ group ∈ visited₁, group ∈ visited ∨
          Exhausted rules (inner.foldl Text.appendNew found) group := by
        intro group hgroup
        rcases hnew₁ group hgroup with hmem | hdone
        · rcases List.mem_cons.1 hmem with rfl | hmem
          · exact .inr hexhausted
          · exact .inl hmem
        · exact .inr hdone
      obtain ⟨heq₂, hnew₂⟩ : met₂.foldl Text.appendNew (inner.foldl Text.appendNew found) =
            all.foldl Text.appendNew (inner.foldl Text.appendNew found) ∧
          ∀ group ∈ visited₂, group ∈ visited₁ ∨ Exhausted rules
            (all.foldl Text.appendNew (inner.foldl Text.appendNew found)) group := by
        refine ihrest hrest (hacyclic.mono fun _ h => h.mono (List.subset_cons_self _ _)) ?_
        intro group hgroup hreached
        rcases hvisited₁ group hgroup with hmem | hdone
        · exact (hvisited group hmem (hreached.mono (List.subset_cons_self _ _))).mono
            (subset_foldl_appendNew _ _)
        · exact hdone
      rw [List.foldl_append, List.foldl_append, heq₁, heq₂]
      refine ⟨rfl, fun group hgroup => ?_⟩
      rcases hnew₂ group hgroup with hmem | hdone
      · exact (hvisited₁ group hmem).imp_right fun h => h.mono (subset_foldl_appendNew _ _)
      · exact .inr hdone

/-! ### The candidates of a rule -/

/-- **The candidates of a rule are the rules to look for that are reached from its patterns through
groups, each once and where the traversal meets it first.**  Finding them comes to an end, also
where groups are in themselves; where none is, they are what is left of the whole expansion without
repetitions. -/
theorem flatten_firstMet (hinside : Inside rules) {rule : Rule} (hrule : rules[id]? = some rule) :
    Runs rules rule.patterns [id] [] (flatten rules id) ∧
      (flatten rules id).Nodup ∧
      (∀ x, x ∈ flatten rules id ↔
        Reached rules rule.patterns x ∧ ∃ r, rules[x]? = some r ∧ r.IsCandidate) ∧
      (∃ met visited, Traverses rules [id] rule.patterns met visited ∧
        flatten rules id = met.eraseDups) ∧
      (Acyclic rules rule.patterns → ∃ all, Expands rules rule.patterns all ∧
        flatten rules id = all.eraseDups) := by
  have hpatterns := hinside id rule hrule
  have hruns : Runs rules rule.patterns [id] [] (flatten rules id) := by
    rw [flatten, hrule]
    refine runs_flattenFrom hinside hpatterns ?_
    have hleft : left rules [] = rule.patterns.length + left rules [id] :=
      left_eq_add hrule List.not_mem_nil
    rw [left_nil] at hleft
    omega
  obtain ⟨met, visited, h⟩ := exists_traverses hinside [id] rule.patterns hpatterns
  have hmet : flatten rules id = met.foldl Text.appendNew [] := by
    refine hruns.unique ?_
    have hrest : Runs rules (rule.patterns ++ []) [id] [] (met.foldl Text.appendNew []) :=
      h.runs (.done visited _)
    rwa [List.append_nil] at hrest
  refine ⟨hruns, ?_, fun x => ?_, ⟨met, visited, h, ?_⟩, fun hacyclic => ?_⟩
  · rw [hmet]
    exact Text.nodup_foldl_appendNew .nil met
  · rw [hmet, Text.mem_foldl_appendNew, ← h.mem_iff hrule]
    simp
  · rw [hmet, Text.foldl_appendNew_nil]
  · obtain ⟨all, hall⟩ := exists_expands hinside rule.patterns hpatterns hacyclic
    refine ⟨all, hall, ?_⟩
    rw [hmet, ← Text.foldl_appendNew_nil]
    refine (h.foldl_eq hall hacyclic fun group hgroup hreached => ?_).1
    -- only the rule itself has been visited, and it is not in itself
    obtain rfl := List.mem_singleton.1 hgroup
    intro patterns inner hgroup' hinner
    obtain rfl := Option.some.inj (hrule.symm.trans hgroup')
    exact absurd (hreached.transGen hgroup') (hacyclic _ hreached)

/-- Two groups that list the same rules in different orders. -/
def diamond : Array Rule :=
  #[.group [1, 2], .group [3, 4], .group [4, 3], .matching default, .matching default]

theorem lt_of_mem_patternsOf_diamond :
    ∀ group < diamond.size, ∀ id ∈ patternsOf diamond group, group < id ∧ id < diamond.size := by
  decide

theorem inside_diamond : Inside diamond := by
  intro group rule hrule id hid
  have hlt : group < diamond.size := (Array.getElem?_eq_some_iff.1 hrule).1
  rw [← patternsOf_eq hrule] at hid
  exact (lt_of_mem_patternsOf_diamond group hlt id hid).2

/-- Groups list rules with greater numbers only. -/
theorem acyclic_diamond (ids : List RuleId) : Acyclic diamond ids := by
  have hless : ∀ group id, Lists diamond group id → group < id := by
    rintro group id ⟨patterns, hrule, hid⟩
    have hlt : group < diamond.size := (Array.getElem?_eq_some_iff.1 hrule).1
    rw [show patterns = (Rule.group patterns).patterns from rfl, ← patternsOf_eq hrule] at hid
    exact (lt_of_mem_patternsOf_diamond group hlt id hid).1
  intro id _ hcycle
  have hless' : TransGen (· < ·) id id := TransGen.mono hless _ _ hcycle
  rw [transGen_eq_self] at hless'
  exact Nat.lt_irrefl id hless'

/-- The candidates are met in both groups, and they stand where they are met in the first. -/
theorem flatten_firstMet_diamond :
    Inside diamond ∧ Acyclic diamond [1, 2] ∧ flatten diamond 0 = [3, 4] ∧
      Runs diamond [1, 2] [0] [] [3, 4] ∧ Reached diamond [1, 2] 4 ∧
      ∃ all, Expands diamond [1, 2] all ∧ [3, 4] = all.eraseDups := by
  have hflatten : flatten diamond 0 = [3, 4] := by decide
  have hrule : diamond[0]? = some (.group [1, 2]) := rfl
  obtain ⟨hruns, -, hmem, -, hexpands⟩ := flatten_firstMet inside_diamond hrule
  rw [hflatten] at hruns hmem hexpands
  have hreached : Reached diamond [1, 2] 4 := ((hmem 4).1 (by simp)).1
  exact ⟨inside_diamond, acyclic_diamond _, hflatten, hruns, hreached,
    hexpands (acyclic_diamond _)⟩

end Candidates

end Highlight
