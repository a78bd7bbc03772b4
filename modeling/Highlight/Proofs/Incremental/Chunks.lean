import Highlight.Proofs.Incremental.Passes

/-!
# Passes in several parts

A pass may stop behind any line and go on later.  `IncrementalTokenizer.Visits` says which lines a
pass tokenizes, in their order, and what becomes of the tokenizer.  The lines of a pass ascend
(`IncrementalTokenizer.Visits.pairwise`), so it ends, and no line is tokenized twice.

The number of lines is brought up to date once (`IncrementalTokenizer.shapedFor`): after that, two
passes with a number of steps each are one pass with all of them (`IncrementalTokenizer.steps_add`),
and passes of any length that are repeated until nothing is left come to what one pass to the end
comes to (`IncrementalTokenizer.repeats_iff`).

All this holds of every incremental tokenizer and all lines, whatever it has been told before and
whether or not the lines are those that it knows.
-/

namespace Highlight.IncrementalTokenizer

variable {lines : Lines} {d d' : IncrementalTokenizer} {i : Nat} {is : List Nat}

/-! ### Visited lines -/

/-- The given lines are tokenized in turn, each of them as the first one that is pending. -/
inductive Visits (lines : Lines) :
    IncrementalTokenizer → List Nat → IncrementalTokenizer → Prop where
  | nil (d : IncrementalTokenizer) : Visits lines d [] d
  | cons {d d' : IncrementalTokenizer} {i : Nat} {is : List Nat}
    (pending_eq : d.cache.pending = some i) (rest : Visits lines (d.step lines i) is d') :
    Visits lines d (i :: is) d'

theorem Visits.size_eq (h : Visits lines d is d') : d'.cache.size = d.cache.size := by
  induction h with
  | nil => rfl
  | cons _ _ ih => exact ih.trans (size_step _ lines _)

/-- No line before the first one that is pending is visited. -/
theorem Visits.le_of_mem (h : Visits lines d is d') {p : Nat} (hp : d.cache.pending = some p)
    (hi : i ∈ is) : p ≤ i := by
  induction h generalizing p with
  | nil => exact absurd hi List.not_mem_nil
  | @cons d d' j is hpending hrest ih =>
    obtain rfl := Option.some.inj (hpending.symm.trans hp)
    rcases List.mem_cons.1 hi with rfl | hi
    · exact Nat.le_refl i
    · cases hnext : (d.step lines j).cache.pending with
      | none =>
        cases hrest with
        | nil => exact absurd hi List.not_mem_nil
        | cons hpending' => exact absurd (hnext.symm.trans hpending') (by simp)
      | some q => exact Nat.le_trans (Nat.le_of_lt (lt_of_pending_step hnext)) (ih hnext hi)

/-- **The lines of a pass ascend**, so none of them is visited twice. -/
theorem Visits.pairwise (h : Visits lines d is d') : is.Pairwise (· < ·) := by
  induction h with
  | nil => exact .nil
  | @cons d d' i is hpending hrest ih =>
    refine .cons (fun j hj => ?_) ih
    cases hrest with
    | nil => exact absurd hj List.not_mem_nil
    | @cons _ _ k js hnext hrest =>
      have hik : i < k := lt_of_pending_step hnext
      exact Nat.lt_of_lt_of_le hik ((Visits.cons hnext hrest).le_of_mem hnext hj)

/-- What is known of a line that is not visited stays what it is. -/
theorem Visits.result?_eq (h : Visits lines d is d') (hi : i ∉ is) :
    d'.cache.result? i = d.cache.result? i := by
  induction h with
  | nil => rfl
  | @cons d d' j is _ _ ih =>
    obtain ⟨hne, hi⟩ := not_or.1 (mt List.mem_cons.2 hi)
    obtain ⟨line, converged, hcache⟩ := d.exists_cache_step lines j
    rw [ih hi, hcache, LineCache.result?_settle]
    exact LineCache.result?_congr (LineCache.getElem?_store_of_ne (Ne.symm hne) line)

/-! ### Steps -/

/-- A number of steps visits as many lines as it answers. -/
theorem exists_visits_steps (lines : Lines) (budget : Nat) (d : IncrementalTokenizer) :
    ∃ is, Visits lines d is (steps lines budget d).2 ∧ is.length = (steps lines budget d).1 := by
  induction budget generalizing d with
  | zero => exact ⟨[], .nil d, rfl⟩
  | succ budget ih =>
    rw [steps]
    split
    · exact ⟨[], .nil d, rfl⟩
    · rename_i i hi
      obtain ⟨is, hvisits, hlength⟩ := ih (d.step lines i)
      exact ⟨i :: is, .cons hi hvisits, congrArg (· + 1) hlength⟩

/-- As many steps as a pass visits lines come to what it comes to. -/
theorem Visits.steps_eq (h : Visits lines d is d') :
    steps lines is.length d = (is.length, d') := by
  induction h with
  | nil => rfl
  | cons hpending _ ih =>
    rw [List.length_cons, steps, hpending]
    simp only [ih]

theorem size_steps (lines : Lines) (budget : Nat) (d : IncrementalTokenizer) :
    (steps lines budget d).2.cache.size = d.cache.size := by
  obtain ⟨is, hvisits, -⟩ := exists_visits_steps lines budget d
  exact hvisits.size_eq

/-- Where nothing is pending, there are no steps. -/
theorem steps_of_idle (h : d.cache.pending = none) (lines : Lines) (budget : Nat) :
    steps lines budget d = (0, d) := by
  cases budget with
  | zero => rfl
  | succ budget => rw [steps, h]

/-- Steps may be made in two parts. -/
theorem steps_add (lines : Lines) (a b : Nat) (d : IncrementalTokenizer) :
    steps lines (a + b) d =
      ((steps lines a d).1 + (steps lines b (steps lines a d).2).1,
        (steps lines b (steps lines a d).2).2) := by
  induction a generalizing d with
  | zero => rw [Nat.zero_add, steps, Nat.zero_add]
  | succ a ih =>
    cases hp : d.cache.pending with
    | none => simp only [steps_of_idle hp, Nat.add_zero]
    | some i =>
      rw [Nat.succ_add, steps, hp, steps, hp]
      simp only [ih (d.step lines i)]
      rw [Nat.add_right_comm]

/-- Every step takes what is pending at least one line further, and not beyond the last one. -/
theorem pending_steps {budget q : Nat} (h : (steps lines budget d).2.cache.pending = some q) :
    ∃ p, d.cache.pending = some p ∧ p + budget ≤ q ∧ (0 < budget → q < d.cache.size) := by
  induction budget generalizing d with
  | zero => exact ⟨q, h, Nat.le_refl q, fun hpos => absurd hpos (Nat.lt_irrefl 0)⟩
  | succ budget ih =>
    rw [steps] at h
    split at h
    · rename_i hnone
      exact absurd (hnone.symm.trans h) (by simp)
    · rename_i p hp
      obtain ⟨r, hr, hle, hlt⟩ := ih h
      obtain ⟨line, converged, hcache⟩ := d.exists_cache_step lines p
      have hsettle := hr
      rw [hcache] at hsettle
      obtain ⟨hpr, hrsize⟩ := LineCache.lt_of_pending_settle hsettle
      rw [LineCache.size_store] at hrsize
      rw [size_step] at hlt
      refine ⟨p, hp, by omega, fun _ => ?_⟩
      cases budget with
      | zero =>
        obtain rfl := Option.some.inj (hr.symm.trans h)
        exact hrsize
      | succ budget => exact hlt (Nat.succ_pos budget)

/-- As many steps as there are lines leave nothing pending. -/
theorem idle_steps_size (lines : Lines) {budget : Nat} (hpos : 0 < budget)
    (hsize : d.cache.size ≤ budget) : (steps lines budget d).2.cache.pending = none := by
  refine Option.eq_none_iff_forall_ne_some.2 fun q hq => ?_
  obtain ⟨p, -, hle, hlt⟩ := pending_steps hq
  have := hlt hpos
  omega

/-- Where two numbers of steps leave nothing pending, they come to the same. -/
theorem steps_eq_of_idle {a b : Nat} (ha : (steps lines a d).2.cache.pending = none)
    (hb : (steps lines b d).2.cache.pending = none) : steps lines a d = steps lines b d := by
  -- steps beyond those that leave nothing pending add nothing
  have hmore {a b : Nat} (hle : a ≤ b) (ha : (steps lines a d).2.cache.pending = none) :
      steps lines b d = steps lines a d := by
    obtain ⟨c, rfl⟩ := Nat.exists_eq_add_of_le hle
    rw [steps_add, steps_of_idle ha, Nat.add_zero]
  rcases Nat.le_total a b with hle | hle
  · exact (hmore hle ha).symm
  · exact hmore hle hb

/-! ### Passes -/

/-- The tokenizer with the number of lines brought up to date. -/
def shapedFor (d : IncrementalTokenizer) (lines : Lines) : IncrementalTokenizer :=
  { d with cache := d.cache.resize lines.count }

theorem count_pos (lines : Lines) : 0 < lines.count :=
  Nat.lt_of_lt_of_le Nat.one_pos (Nat.le_max_right _ 1)

theorem size_shapedFor (d : IncrementalTokenizer) (lines : Lines) :
    (d.shapedFor lines).cache.size = lines.count :=
  (d.cache.size_resize lines.count).trans (Nat.max_eq_left (count_pos lines))

/-- A tokenizer with the right number of lines is left as it is. -/
theorem shapedFor_eq_self (h : d.cache.size = lines.count) : d.shapedFor lines = d := by
  rw [shapedFor, LineCache.resize_eq_self (h.trans (Nat.max_eq_left (count_pos lines)).symm)]

theorem advance_eq (d : IncrementalTokenizer) (lines : Lines) (budget : Nat) :
    d.advance lines budget =
      (⟨(steps lines budget (d.shapedFor lines)).1,
          (steps lines budget (d.shapedFor lines)).2.cache.pending⟩,
        (steps lines budget (d.shapedFor lines)).2) := rfl

theorem finish_eq (d : IncrementalTokenizer) (lines : Lines) :
    d.finish lines = steps lines lines.count (d.shapedFor lines) := rfl

/-- After a pass the number of lines is up to date. -/
theorem shapedFor_advance (d : IncrementalTokenizer) (lines : Lines) (budget : Nat) :
    (d.advance lines budget).2.shapedFor lines = (d.advance lines budget).2 :=
  shapedFor_eq_self ((size_steps lines budget _).trans (d.size_shapedFor lines))

/-- **Two passes are one pass with the steps of both.** -/
theorem advance_add (d : IncrementalTokenizer) (lines : Lines) (a b : Nat) :
    ((d.advance lines a).2.advance lines b).2 = (d.advance lines (a + b)).2 ∧
      (d.advance lines a).1.visited + ((d.advance lines a).2.advance lines b).1.visited =
        (d.advance lines (a + b)).1.visited := by
  have hadd := steps_add lines a b (d.shapedFor lines)
  rw [advance_eq (d.advance lines a).2, shapedFor_advance, advance_eq, advance_eq, hadd]
  exact ⟨rfl, rfl⟩

/-- **A pass to the end leaves nothing pending.** -/
theorem idle_finish (d : IncrementalTokenizer) (lines : Lines) :
    (d.finish lines).2.cache.pending = none :=
  idle_steps_size lines (count_pos lines) (Nat.le_of_eq (d.size_shapedFor lines))

theorem finish_of_idle_advance {budget : Nat}
    (h : (d.advance lines budget).2.cache.pending = none) :
    d.finish lines = ((d.advance lines budget).1.visited, (d.advance lines budget).2) :=
  steps_eq_of_idle (d.idle_finish lines) h

/-- A pass to the end may begin with any number of steps. -/
theorem finish_advance (d : IncrementalTokenizer) (lines : Lines) (budget : Nat) :
    d.finish lines =
      ((d.advance lines budget).1.visited + ((d.advance lines budget).2.finish lines).1,
        ((d.advance lines budget).2.finish lines).2) := by
  have hidle := (d.advance lines budget).2.idle_finish lines
  have hrest := (d.advance lines budget).2.finish_eq lines
  rw [shapedFor_advance] at hrest
  rw [hrest] at hidle ⊢
  have hadd := steps_add lines budget lines.count (d.shapedFor lines)
  have hboth : (steps lines (budget + lines.count) (d.shapedFor lines)).2.cache.pending = none := by
    rw [hadd]
    exact hidle
  exact (steps_eq_of_idle (d.idle_finish lines) hboth).trans hadd

/-! ### Repeated passes -/

/-- A pass is repeated until it leaves nothing pending; how many lines have been tokenized in
all. -/
inductive Repeats (pass : IncrementalTokenizer → Progress × IncrementalTokenizer) :
    IncrementalTokenizer → Nat → IncrementalTokenizer → Prop where
  | idle {d : IncrementalTokenizer} (isIdle : (pass d).1.isIdle = true) :
    Repeats pass d (pass d).1.visited (pass d).2
  | again {d d' : IncrementalTokenizer} {n : Nat} (not_isIdle : (pass d).1.isIdle = false)
    (rest : Repeats pass (pass d).2 n d') : Repeats pass d ((pass d).1.visited + n) d'

/-- No pass changes the configuration. -/
theorem config_steps (lines : Lines) (budget : Nat) (d : IncrementalTokenizer) :
    (steps lines budget d).2.config = d.config :=
  steps_induction (P := fun e => e.config = d.config) (fun _ _ he _ => he) budget rfl

section

variable {pass : IncrementalTokenizer → Progress × IncrementalTokenizer} {budget : Nat}
  {config : Config}

/-- Passes that are repeated come to what a pass to the end comes to. -/
theorem Repeats.finish_eq (hpass : ∀ e, e.config = config → pass e = e.advance lines budget)
    (hconfig : d.config = config) {n : Nat} (h : Repeats pass d n d') :
    d.finish lines = (n, d') := by
  induction h with
  | @idle d hidle =>
    rw [hpass d hconfig] at hidle ⊢
    exact finish_of_idle_advance (Option.isNone_iff_eq_none.1 hidle)
  | @again d d' n _ _ ih =>
    rw [hpass d hconfig] at ih ⊢
    rw [finish_advance d lines budget, ih ((config_steps lines budget _).trans hconfig)]

/-- Passes that are repeated come to an end, as each of them takes what is pending further. -/
theorem exists_repeats (hpass : ∀ e, e.config = config → pass e = e.advance lines budget)
    (hpos : 0 < budget) {k : Nat} (hconfig : d.config = config)
    (hk : ∀ p, (d.shapedFor lines).cache.pending = some p → lines.count ≤ p + k) :
    ∃ n d', Repeats pass d n d' := by
  induction k generalizing d with
  | zero =>
    refine ⟨_, _, .idle ?_⟩
    rw [hpass d hconfig]
    refine Option.isNone_iff_eq_none.2 (Option.eq_none_iff_forall_ne_some.2 fun q hq => ?_)
    obtain ⟨p, hp, hle, hlt⟩ := pending_steps hq
    have hcount := hk p hp
    have hsize := size_shapedFor d lines ▸ hlt hpos
    omega
  | succ k ih =>
    cases hidle : (pass d).1.isIdle with
    | true => exact ⟨_, _, .idle hidle⟩
    | false =>
      have hnext : (pass d).2.config = config ∧ ∀ q,
          ((pass d).2.shapedFor lines).cache.pending = some q → lines.count ≤ q + k := by
        rw [hpass d hconfig, shapedFor_advance]
        refine ⟨(config_steps lines budget _).trans hconfig, fun q hq => ?_⟩
        obtain ⟨p, hp, hle, -⟩ := pending_steps hq
        have hcount := hk p hp
        omega
      obtain ⟨n, d', hrest⟩ := ih hnext.1 hnext.2
      exact ⟨_, d', .again hidle hrest⟩

/-- **Repeated passes come to an end, and to what a pass to the end comes to.** -/
theorem repeats_iff (hpass : ∀ e, e.config = config → pass e = e.advance lines budget)
    (hpos : 0 < budget) (hconfig : d.config = config) {n : Nat} :
    Repeats pass d n d' ↔ d.finish lines = (n, d') := by
  refine ⟨fun h => h.finish_eq hpass hconfig, fun h => ?_⟩
  obtain ⟨m, e, hrepeats⟩ := exists_repeats hpass hpos (k := lines.count) hconfig
    fun p _ => Nat.le_add_left _ p
  obtain ⟨rfl, rfl⟩ := Prod.mk.inj ((hrepeats.finish_eq hpass hconfig).symm.trans h)
  exact hrepeats

end

/-! ### Lines up to a given one -/

/-- The steps up to a line visit no line behind it. -/
theorem exists_visits_stepsTo (lines : Lines) (i n : Nat) (d : IncrementalTokenizer) :
    ∃ is, Visits lines d is (stepsTo lines i n d) ∧ ∀ j ∈ is, j ≤ i := by
  induction n generalizing d with
  | zero => exact ⟨[], .nil d, fun j hj => absurd hj List.not_mem_nil⟩
  | succ n ih =>
    rw [stepsTo]
    split
    · exact ⟨[], .nil d, fun j hj => absurd hj List.not_mem_nil⟩
    · rename_i p hp
      split
      · exact ⟨[], .nil d, fun j hj => absurd hj List.not_mem_nil⟩
      · rename_i hle
        obtain ⟨is, hvisits, hbound⟩ := ih (d.step lines p)
        exact ⟨p :: is, .cons hp hvisits, List.forall_mem_cons.2 ⟨Nat.le_of_not_lt hle, hbound⟩⟩

theorem exists_visits_tokens (d : IncrementalTokenizer) (lines : Lines) (i : Nat) :
    ∃ is, Visits lines (d.shapedFor lines) is (d.tokens lines i).2 ∧ ∀ j ∈ is, j ≤ i := by
  simp only [tokens]
  split
  · exact ⟨[], .nil _, fun j hj => absurd hj List.not_mem_nil⟩
  · exact exists_visits_stepsTo lines i (i + 1) (d.shapedFor lines)

/-! ### Any division into passes -/

/-- **How the lines are divided into passes does not matter, and passes come to an end.**  Every
step leads further on or leaves nothing pending; a pass to the end leaves nothing pending and visits
no line twice; two passes are one with the steps of both, and passes that are repeated until nothing
is left, of any length or as long as they are made at a time, come to what the pass to the end comes
to; and for the tokens of a line no line behind it is visited. -/
theorem passes_divisible (d : IncrementalTokenizer) (lines : Lines) :
    (∀ i p, d.cache.pending = some i → (d.step lines i).cache.pending = some p → i < p) ∧
      ((d.finish lines).2.cache.pending = none ∧
        ∃ is, Visits lines (d.shapedFor lines) is (d.finish lines).2 ∧
          is.length = (d.finish lines).1 ∧ is.Pairwise (· < ·)) ∧
      (∀ a b, ((d.advance lines a).2.advance lines b).2 = (d.advance lines (a + b)).2 ∧
        (d.advance lines a).1.visited + ((d.advance lines a).2.advance lines b).1.visited =
          (d.advance lines (a + b)).1.visited) ∧
      (∀ budget, 0 < budget → ∀ n d',
        Repeats (fun e => e.advance lines budget) d n d' ↔ d.finish lines = (n, d')) ∧
      (∀ n d', Repeats (fun e => e.advanceSome lines) d n d' ↔ d.finish lines = (n, d')) ∧
      ∀ i, ∃ is, Visits lines (d.shapedFor lines) is (d.tokens lines i).2 ∧ ∀ j ∈ is, j ≤ i := by
  refine ⟨fun i p _ hp => lt_of_pending_step hp, ⟨d.idle_finish lines, ?_⟩, d.advance_add lines,
    fun budget hpos n d' => ?_, fun n d' => ?_, d.exists_visits_tokens lines⟩
  · obtain ⟨is, hvisits, hlength⟩ := exists_visits_steps lines lines.count (d.shapedFor lines)
    exact ⟨is, hvisits, hlength, hvisits.pairwise⟩
  · exact repeats_iff (fun _ _ => rfl) hpos rfl
  · have hsome (e : IncrementalTokenizer) (he : e.config = d.config) :
        e.advanceSome lines = e.advance lines (max d.config.propagationChunkLines 1) := by
      rw [advanceSome, he]
    exact repeats_iff hsome (by omega) rfl

end Highlight.IncrementalTokenizer
