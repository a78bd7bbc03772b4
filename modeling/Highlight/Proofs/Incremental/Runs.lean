import Highlight.Proofs.Incremental.Columns
import Mathlib.Data.List.Pairwise

/-!
# Runs of changed lines

The changed lines of a cache are answered in runs, each as its first line and the line behind its
last.  A scan over the marks carries the run that it has started (`LineCache.runs`); it ends a run
at a line that is not marked, or behind the last line.

The runs ascend with a gap between any two (`LineCache.pairwise_changedRuns`), and a line is in one
of them exactly if it is changed (`LineCache.isChanged_iff_exists_run`).  From this alone it follows
that they are the maximal runs (`LineCache.mem_changedRuns_iff`), whatever the cache.  Where they
begin depends on what has been done to it: in a cache that has its shape, no run begins before
`pending`, and so in every cache that can be reached (`LineCache.Reachable.changedRuns_maximal`).
-/

namespace Highlight.LineCache

variable {c : LineCache} {marks : List Bool} {started : Option Nat} {i j : Nat} {r s : Nat × Nat}

/-! ### The scan -/

/-- At a marked line the run that has been started goes on, or else one begins. -/
theorem lt_of_started (h : ∀ start, started = some start → start < i) :
    ∀ start, some (started.getD i) = some start → start < i + 1 := by
  intro start hstart
  obtain rfl := Option.some.inj hstart
  cases started with
  | none => exact Nat.lt_succ_self i
  | some start => exact Nat.lt_succ_of_lt (h start rfl)

/-- No run is empty, none begins before the one that has been started, or before the first mark if
none has been, and none reaches beyond the last mark. -/
theorem bounds_of_mem_runs (h : ∀ start, started = some start → start < i)
    (hr : r ∈ runs i started marks) :
    started.getD i ≤ r.1 ∧ r.1 < r.2 ∧ r.2 ≤ i + marks.length := by
  fun_induction runs i started marks with
  | case1 i start =>
    obtain rfl := List.mem_singleton.1 hr
    exact ⟨Nat.le_refl start, h start rfl, Nat.le_refl i⟩
  | case2 => exact absurd hr List.not_mem_nil
  | case3 i started marks ih =>
    obtain ⟨hstart, hlt, hstop⟩ := ih (lt_of_started h) hr
    rw [Nat.succ_add] at hstop
    exact ⟨hstart, hlt, hstop⟩
  | case4 i start marks ih =>
    have hlt : start < i := h start rfl
    rw [List.length_cons, Option.getD_some]
    rcases List.mem_cons.1 hr with rfl | hr
    · exact ⟨Nat.le_refl start, hlt, Nat.le_add_right i _⟩
    · obtain ⟨hstart, hlt', hstop⟩ := ih (by simp) hr
      rw [Option.getD_none] at hstart
      omega
  | case5 i marks ih =>
    obtain ⟨hstart, hlt, hstop⟩ := ih (by simp) hr
    rw [Option.getD_none] at hstart
    rw [List.length_cons, Option.getD_none]
    omega

/-- A run ends at a line that is not marked, and the next one begins behind that line. -/
theorem pairwise_runs (i : Nat) (started : Option Nat) (marks : List Bool) :
    (runs i started marks).Pairwise fun r s => r.2 < s.1 := by
  fun_induction runs i started marks with
  | case1 => exact List.pairwise_singleton _ _
  | case2 => exact .nil
  | case3 i started marks ih => exact ih
  | case4 i start marks ih => exact .cons (fun s hs => (bounds_of_mem_runs (by simp) hs).1) ih
  | case5 i marks ih => exact ih

/-- A mark is the first one, or it is among the others. -/
theorem exists_marked_cons (mark : Bool) :
    (∃ k, (mark :: marks)[k]? = some true ∧ i + k = j) ↔
      (mark = true ∧ i = j) ∨ ∃ k, marks[k]? = some true ∧ i + 1 + k = j := by
  constructor
  · rintro ⟨k, hk, rfl⟩
    cases k with
    | zero => exact .inl ⟨Option.some.inj hk, rfl⟩
    | succ k => exact .inr ⟨k, hk, by omega⟩
  · rintro (⟨rfl, rfl⟩ | ⟨k, hk, rfl⟩)
    · exact ⟨0, rfl, rfl⟩
    · exact ⟨k + 1, hk, by omega⟩

/-- The runs of a scan are made of the lines of the run that has been started and of those that are
marked. -/
theorem exists_mem_runs_iff (h : ∀ start, started = some start → start < i) :
    (∃ r ∈ runs i started marks, r.1 ≤ j ∧ j < r.2) ↔
      (∃ start, started = some start ∧ start ≤ j ∧ j < i) ∨
        ∃ k, marks[k]? = some true ∧ i + k = j := by
  fun_induction runs i started marks with
  | case1 i start => simp
  | case2 => simp
  | case3 i started marks ih =>
    rw [ih (lt_of_started h), exists_marked_cons, ← or_assoc]
    refine or_congr_left ?_
    -- the line itself is added to the run
    cases started with
    | none =>
      simp only [Option.getD_none, Option.some.injEq, exists_eq_left', reduceCtorEq, false_and,
        exists_false, false_or, true_and]
      omega
    | some start =>
      have hlt : start < i := h start rfl
      simp only [Option.getD_some, Option.some.injEq, exists_eq_left', true_and]
      omega
  | case4 i start marks ih =>
    rw [List.exists_mem_cons_iff, ih (by simp), exists_marked_cons]
    simp
  | case5 i marks ih =>
    rw [ih (by simp), exists_marked_cons]
    simp

/-! ### The runs of a cache -/

theorem getElem?_marks (c : LineCache) (i : Nat) :
    (c.entries.toList.map LineEntry.changed)[i]? = some true ↔ c.isChanged i = true := by
  rw [List.getElem?_map, Array.getElem?_toList, Option.map_eq_some_iff, isChanged_iff]

/-- No run is empty, and none reaches beyond the last line. -/
theorem bounds_of_mem_changedRuns (h : r ∈ c.changedRuns) : r.1 < r.2 ∧ r.2 ≤ c.size := by
  obtain ⟨-, hlt, hstop⟩ := bounds_of_mem_runs (by simp) h
  rw [Nat.zero_add, List.length_map, Array.length_toList] at hstop
  exact ⟨hlt, hstop⟩

/-- The runs ascend, and no two of them are adjacent. -/
theorem pairwise_changedRuns (c : LineCache) : c.changedRuns.Pairwise fun r s => r.2 < s.1 :=
  pairwise_runs 0 none _

/-- The lines of the runs are the changed ones. -/
theorem isChanged_iff_exists_run :
    c.isChanged i = true ↔ ∃ r ∈ c.changedRuns, r.1 ≤ i ∧ i < r.2 := by
  rw [changedRuns, exists_mem_runs_iff (by simp)]
  simp only [reduceCtorEq, false_and, exists_false, false_or, Nat.zero_add, getElem?_marks,
    exists_eq_right]

/-! ### Maximal runs -/

/-- A run of changed lines that neither the line before it nor the line behind it could join. -/
structure MaximalRun (c : LineCache) (r : Nat × Nat) : Prop where
  start_lt_stop : r.1 < r.2
  changed : ∀ i, r.1 ≤ i → i < r.2 → c.isChanged i = true
  before : ∀ i, i + 1 = r.1 → c.isChanged i = false
  behind : c.isChanged r.2 = false

/-- Of two maximal runs with a line in common, neither begins before the other. -/
theorem MaximalRun.start_le (hr : c.MaximalRun r) (hs : c.MaximalRun s) (hir : r.1 ≤ i ∧ i < r.2)
    (his : s.1 ≤ i ∧ i < s.2) : r.1 ≤ s.1 := by
  by_contra hlt
  obtain ⟨k, hk⟩ : ∃ k, k + 1 = r.1 := ⟨r.1 - 1, by omega⟩
  have hchanged : c.isChanged k = true := hs.changed k (by omega) (by omega)
  exact absurd (hchanged.symm.trans (hr.before k hk)) (by simp)

/-- Of two maximal runs with a line in common, neither reaches further than the other. -/
theorem MaximalRun.stop_le (hr : c.MaximalRun r) (hs : c.MaximalRun s) (hir : r.1 ≤ i ∧ i < r.2)
    (his : s.1 ≤ i ∧ i < s.2) : r.2 ≤ s.2 := by
  by_contra hlt
  have hchanged : c.isChanged s.2 = true := hr.changed s.2 (by omega) (by omega)
  exact absurd (hchanged.symm.trans hs.behind) (by simp)

/-- A line is in one maximal run at most. -/
theorem MaximalRun.unique (hr : c.MaximalRun r) (hs : c.MaximalRun s) (hir : r.1 ≤ i ∧ i < r.2)
    (his : s.1 ≤ i ∧ i < s.2) : r = s :=
  Prod.ext (Nat.le_antisymm (hr.start_le hs hir his) (hs.start_le hr his hir))
    (Nat.le_antisymm (hr.stop_le hs hir his) (hs.stop_le hr his hir))

/-- Between two of the runs of a cache there is a line. -/
theorem eq_or_apart_of_mem_changedRuns (hr : r ∈ c.changedRuns) (hs : s ∈ c.changedRuns) :
    r = s ∨ r.2 < s.1 ∨ s.2 < r.1 := by
  have hsymm : Std.Symm fun r s : Nat × Nat => r = s ∨ r.2 < s.1 ∨ s.2 < r.1 :=
    ⟨fun _ _ hrs => hrs.imp Eq.symm Or.symm⟩
  have hpairwise : c.changedRuns.Pairwise fun r s => r = s ∨ r.2 < s.1 ∨ s.2 < r.1 :=
    c.pairwise_changedRuns.imp fun hlt => .inr (.inl hlt)
  exact hpairwise.forall_of_forall (fun _ _ => .inl rfl) hr hs

theorem maximalRun_of_mem_changedRuns (hr : r ∈ c.changedRuns) : c.MaximalRun r := by
  have hlt : r.1 < r.2 := (bounds_of_mem_changedRuns hr).1
  -- a neighbour that is changed would be in one of the runs, but none of them comes that close
  have houtside {i : Nat} (hi : i + 1 = r.1 ∨ i = r.2) : c.isChanged i = false := by
    rw [Bool.eq_false_iff]
    intro hchanged
    obtain ⟨s, hs, his⟩ := isChanged_iff_exists_run.1 hchanged
    rcases eq_or_apart_of_mem_changedRuns hr hs with rfl | hapart
    · omega
    · omega
  exact ⟨hlt, fun i hle hi => isChanged_iff_exists_run.2 ⟨r, hr, hle, hi⟩,
    fun i hi => houtside (.inl hi), houtside (.inr rfl)⟩

/-- **The runs of a cache are its maximal runs.** -/
theorem mem_changedRuns_iff : r ∈ c.changedRuns ↔ c.MaximalRun r := by
  refine ⟨maximalRun_of_mem_changedRuns, fun hr => ?_⟩
  have hfirst : c.isChanged r.1 = true := hr.changed r.1 (Nat.le_refl _) hr.start_lt_stop
  obtain ⟨s, hs, his⟩ := isChanged_iff_exists_run.1 hfirst
  rw [hr.unique (maximalRun_of_mem_changedRuns hs) ⟨Nat.le_refl _, hr.start_lt_stop⟩ his]
  exact hs

/-! ### Where the runs begin -/

/-- No run begins before the first line to be tokenized. -/
theorem WellFormed.exists_pending_le_run (h : c.WellFormed) (hr : r ∈ c.changedRuns) :
    ∃ p, c.pending = some p ∧ p ≤ r.1 := by
  have hmaximal := maximalRun_of_mem_changedRuns hr
  exact h.exists_pending_le (hmaximal.changed r.1 (Nat.le_refl _) hmaximal.start_lt_stop)

/-- When nothing is to be tokenized, there are no runs. -/
theorem WellFormed.changedRuns_eq_nil (h : c.WellFormed) (hidle : c.pending = none) :
    c.changedRuns = [] := by
  refine List.eq_nil_iff_forall_not_mem.2 fun r hr => ?_
  obtain ⟨p, hp, -⟩ := h.exists_pending_le_run hr
  exact absurd (hidle.symm.trans hp) (by simp)

/-- **The runs of a cache that can be reached are the maximal runs of its changed lines**, in their
order and with a line between any two of them.  All of them begin at or after the first line to be
tokenized, and there are none when nothing is to be tokenized. -/
theorem Reachable.changedRuns_maximal (h : Reachable c) :
    (∀ r ∈ c.changedRuns, r.1 < r.2 ∧ r.2 ≤ c.size) ∧
      (c.changedRuns.Pairwise fun r s => r.2 < s.1) ∧
      (∀ i, c.isChanged i = true ↔ ∃ r ∈ c.changedRuns, r.1 ≤ i ∧ i < r.2) ∧
      (∀ r, r ∈ c.changedRuns ↔ c.MaximalRun r) ∧
      (∀ r ∈ c.changedRuns, ∃ p, c.pending = some p ∧ p ≤ r.1) ∧
      (c.pending = none → c.changedRuns = []) :=
  ⟨fun _ => bounds_of_mem_changedRuns, c.pairwise_changedRuns, fun _ => isChanged_iff_exists_run,
    fun _ => mem_changedRuns_iff, fun _ => h.wellFormed.exists_pending_le_run,
    h.wellFormed.changedRuns_eq_nil⟩

/-- An element is opened in a line, and the pass that begins there is stopped; then the first line
is edited. -/
def interrupted : IncrementalTokenizer :=
  let begun := ((IncrementalTokenizer.new Grammar.elements {} 6).advance
    #["x", "x", "x", "x", "x", "x"] 6).2
  let stopped := ((begun.follow (.line 2) 6).advance #["x", "x", "<a>", "x", "x", "x"] 2).2
  stopped.follow (.line 0) 6

/-- The line that the pass would have gone on at is a run of its own. -/
theorem changedRuns_maximal_interrupted :
    interrupted.cache.changedRuns = [(0, 1), (4, 5)] ∧ interrupted.cache.MaximalRun (4, 5) ∧
      ∃ p, interrupted.cache.pending = some p ∧ p ≤ 4 := by
  have hpossible : interrupted.Possible :=
    ((((IncrementalTokenizer.Possible.new _ _ 6).advance _ 6).follow _ 6).advance _ 2).follow _ 6
  have hruns : interrupted.cache.changedRuns = [(0, 1), (4, 5)] := by decide +kernel
  have hmem : (4, 5) ∈ interrupted.cache.changedRuns := by simp [hruns]
  obtain ⟨-, -, -, hmaximal, hpending, -⟩ := hpossible.reachable_cache.changedRuns_maximal
  exact ⟨hruns, (hmaximal (4, 5)).1 hmem, hpending (4, 5) hmem⟩

end Highlight.LineCache
