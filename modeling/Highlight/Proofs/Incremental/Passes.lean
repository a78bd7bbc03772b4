import Highlight.Incremental.Tokenizer
import Highlight.Proofs.Incremental.Replacement

/-!
# Passes over the lines

A pass tokenizes one line after the other, always the first one that is pending.  What a step keeps
is kept by a pass (`IncrementalTokenizer.steps_induction`,
`IncrementalTokenizer.stepsTo_induction`), and every step leads further on
(`IncrementalTokenizer.lt_of_pending_step`), so a pass up to some line takes no more steps than
there are lines up to it (`IncrementalTokenizer.lt_of_pending_stepsTo`).  None of this depends on
what the lines are or on what is known of them.
-/

namespace Highlight.IncrementalTokenizer

variable {lines : Lines} {d : IncrementalTokenizer} {P : IncrementalTokenizer → Prop}

/-! ### Steps -/

/-- A step puts in a result and goes on behind the line. -/
theorem exists_cache_step (d : IncrementalTokenizer) (lines : Lines) (i : Nat) :
    ∃ line converged, (d.step lines i).cache = (d.cache.store i line).settle i converged := by
  simp only [step]
  rcases d.tokenizer.tokenize (lines.text i) (d.cache.incoming i) with ⟨result, tokenizer⟩
  exact ⟨_, _, rfl⟩

/-- A step leads further on. -/
theorem lt_of_pending_step {i p : Nat} (h : (d.step lines i).cache.pending = some p) : i < p := by
  obtain ⟨line, converged, hcache⟩ := d.exists_cache_step lines i
  rw [hcache] at h
  exact (LineCache.lt_of_pending_settle h).1

theorem size_step (d : IncrementalTokenizer) (lines : Lines) (i : Nat) :
    (d.step lines i).cache.size = d.cache.size := by
  obtain ⟨line, converged, hcache⟩ := d.exists_cache_step lines i
  rw [hcache]
  exact LineCache.size_store d.cache i line

theorem wellFormed_step (h : d.cache.WellFormed) {i : Nat} (hi : d.cache.pending = some i)
    (lines : Lines) : (d.step lines i).cache.WellFormed := by
  obtain ⟨line, converged, hcache⟩ := d.exists_cache_step lines i
  rw [hcache]
  exact h.settle_store hi line converged

/-! ### Passes -/

/-- What every step keeps is kept by a number of steps. -/
theorem steps_induction
    (hstep : ∀ d i, P d → d.cache.pending = some i → P (d.step lines i)) (budget : Nat)
    (h : P d) : P (steps lines budget d).2 := by
  induction budget generalizing d with
  | zero => exact h
  | succ budget ih =>
    rw [steps]
    split
    · exact h
    · exact ih (hstep _ _ h ‹_›)

/-- What every step keeps is kept by the steps up to a line. -/
theorem stepsTo_induction
    (hstep : ∀ d i, P d → d.cache.pending = some i → P (d.step lines i)) (i n : Nat)
    (h : P d) : P (stepsTo lines i n d) := by
  induction n generalizing d with
  | zero => exact h
  | succ n ih =>
    rw [stepsTo]
    split
    · exact h
    · split
      · exact h
      · exact ih (hstep _ _ h ‹_›)

/-- A line is passed after as many steps as there are lines up to it. -/
theorem lt_of_pending_stepsTo {i n : Nat} (hn : ∀ p, d.cache.pending = some p → i < p + n) :
    ∀ p, (stepsTo lines i n d).cache.pending = some p → i < p := by
  induction n generalizing d with
  | zero => exact hn
  | succ n ih =>
    intro p hp
    rw [stepsTo] at hp
    split at hp
    · rename_i hnone
      exact absurd (hnone.symm.trans hp) (by simp)
    · rename_i q hq
      split at hp
      · rename_i hlt
        obtain rfl := Option.some.inj (hq.symm.trans hp)
        exact hlt
      · -- a step takes at least one line off those that are left up to the given one
        refine ih (fun r hr => ?_) p hp
        have hle := hn q hq
        have hfurther := lt_of_pending_step hr
        omega

end Highlight.IncrementalTokenizer
