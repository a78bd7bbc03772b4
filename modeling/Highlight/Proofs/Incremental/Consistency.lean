import Highlight.Proofs.Document.Edit
import Highlight.Proofs.Incremental.Document
import Highlight.Proofs.Incremental.Replacement

/-!
# Results that fit the document

Results of a cache may be outdated, but not without a mark.  A cache fits a document
(`LineCache.Consistent`) if every line that is not due to be tokenized has the outcome of its text
after the rules open after the line before it, as far as those are known.  Which results are
outdated is not said: a line may have the right outcome after an outdated one, and be found wrong
only when that has been replaced.

Lines before `pending` then have the outcomes of the document (`LineCache.Consistent.result?_eq`).
Tokenizing a line keeps a cache fitting (`LineCache.Consistent.put`), also where the lines behind it
are passed over, and so does following an accurate event (`LineCache.Consistent.replaceLines`).
-/

namespace Highlight.LineCache

variable {g : Grammar} {config : Config} {lines : Lines} {c d : LineCache} {i j : Nat}

/-- A line is due if tokenizing begins at it or it is changed. -/
def Due (c : LineCache) (i : Nat) : Prop := c.pending = some i ∨ c.isChanged i = true

/-- The rules open before a line, if they are known. -/
def before? (c : LineCache) : Nat → Option OpenRules
  | 0 => some []
  | i + 1 => (c.result? i).map CachedLine.endState

/-- Every line that is not due has the outcome of its text after what is known to be open before it.
The rules that are noted as open have the scope paths that they lead to, so those that agree are
equal. -/
structure Consistent (g : Grammar) (config : Config) (lines : Lines) (c : LineCache) : Prop where
  wellFormed : c.WellFormed
  size_eq : c.size = lines.count
  scoped_endState : ∀ i line, c.result? i = some line → line.endState.Scoped g
  settled : ∀ i < c.size, ¬ c.Due i → ∀ state, c.before? i = some state →
    c.result? i = some (Tokenizer.outcome g config (lines.text i) state)

/-- A cache without results fits every document with as many lines: all of them are due. -/
theorem WellFormed.consistent_of_blank (h : c.WellFormed) (hsize : c.size = lines.count)
    (hblank : ∀ i, c.result? i = none) : c.Consistent g config lines where
  wellFormed := h
  size_eq := hsize
  scoped_endState i line hline := by
    rw [hblank] at hline
    exact absurd hline (by simp)
  settled i hi hdue := absurd (.inr (h.changed_of_none i hi (hblank i))) hdue

/-- When a line is reached, the rules that it is tokenized with are the known ones. -/
theorem incoming_eq {state : OpenRules} (h : c.before? i = some state) : c.incoming i = state := by
  cases i with
  | zero => exact Option.some.inj h
  | succ i =>
    obtain ⟨line, hline, rfl⟩ := Option.map_eq_some_iff.1 h
    rw [incoming, hline]

theorem before?_congr {j : Nat} (h : d.result? i = c.result? j) :
    d.before? (i + 1) = c.before? (j + 1) := by
  rw [before?, before?, h]

/-- Lines before `pending` are not due. -/
theorem WellFormed.not_due (h : c.WellFormed) (hi : ∀ p, c.pending = some p → i < p) :
    ¬ c.Due i := by
  rintro (hp | hchanged)
  · exact absurd (hi i hp) (Nat.lt_irrefl i)
  · obtain ⟨p, hp, hle⟩ := h.exists_pending_le hchanged
    exact absurd (hi p hp) (Nat.not_lt_of_le hle)

/-! ### Lines that have been passed -/

/-- Up to `pending`, what is known to be open before a line is open before it. -/
theorem Consistent.before?_eq (h : c.Consistent g config lines) (hi : i ≤ c.size)
    (hpassed : ∀ p, c.pending = some p → i ≤ p) :
    c.before? i = some (stateBefore g config lines i) := by
  induction i with
  | zero => rfl
  | succ i ih =>
    have hbefore := ih (by omega) fun p hp => Nat.le_of_succ_le (hpassed p hp)
    have hresult := h.settled i hi (h.wellFormed.not_due hpassed) _ hbefore
    rw [before?, hresult]
    rfl

/-- **Lines before `pending` have the outcomes of the document.** -/
theorem Consistent.result?_eq (h : c.Consistent g config lines) (hi : i < c.size)
    (hpassed : ∀ p, c.pending = some p → i < p) :
    c.result? i = some (outcomeAt g config lines i) :=
  h.settled i hi (h.wellFormed.not_due hpassed) _
    (h.before?_eq (Nat.le_of_lt hi) fun p hp => Nat.le_of_lt (hpassed p hp))

/-! ### Tokenizing a line -/

/-- Puts in the result for a line, and goes on behind it. -/
def put (c : LineCache) (i : Nat) (line : CachedLine) : LineCache :=
  (c.store i line).settle i ((c.result? i).any fun old => old.endState.agrees line.endState)

theorem result?_put_self (hi : i < c.size) (line : CachedLine) :
    (c.put i line).result? i = some line := result?_store_self hi line

theorem result?_put_of_ne (h : i ≠ j) (line : CachedLine) :
    (c.put i line).result? j = c.result? j := result?_congr (getElem?_store_of_ne h line)

theorem before?_put (h : i + 1 ≠ j) (line : CachedLine) :
    (c.put i line).before? j = c.before? j := by
  cases j with
  | zero => rfl
  | succ j => exact before?_congr (result?_put_of_ne (by omega) line)

theorem not_due_of_not_due_put (hi : c.pending = some i) (h : i ≠ j) {line : CachedLine}
    (hj : ¬ (c.put i line).Due j) : ¬ c.Due j := by
  rintro (hp | hchanged)
  · exact h (Option.some.inj (hi.symm.trans hp))
  · refine hj (.inr ?_)
    rw [put, isChanged_settle, isChanged_congr (getElem?_store_of_ne h line)]
    exact hchanged

/-- When the line behind a line that has been tokenized is passed over, there were rules known to be
open before it, and they agree with those that are open now. -/
theorem exists_agrees_of_not_due_put (hi : i + 1 < c.size) {line : CachedLine}
    (h : ¬ (c.put i line).Due (i + 1)) :
    ∃ old, c.result? i = some old ∧ old.endState.agrees line.endState = true := by
  cases hany : (c.result? i).any fun old => old.endState.agrees line.endState with
  | true => exact (Option.any_eq_true _ _).1 hany
  | false =>
    refine absurd (.inl ?_) h
    rw [put, hany]
    simp only [settle, size_store]
    rw [if_neg (by omega)]
    rfl

/-- **Tokenizing the first line that is due keeps a cache fitting.** -/
theorem Consistent.put (h : c.Consistent g config lines) (hi : c.pending = some i) :
    (c.put i (Tokenizer.outcome g config (lines.text i) (c.incoming i))).Consistent
      g config lines := by
  have hlt : i < c.size := h.wellFormed.pending_lt i hi
  have hbefore : c.before? i = some (stateBefore g config lines i) :=
    h.before?_eq (Nat.le_of_lt hlt) fun p hp =>
      Nat.le_of_eq (Option.some.inj (hi.symm.trans hp))
  rw [incoming_eq hbefore]
  set line := Tokenizer.outcome g config (lines.text i) (stateBefore g config lines i) with hline
  have hscoped : line.endState.Scoped g :=
    Tokenizer.scoped_outcome config (lines.text i) (scoped_stateBefore g config lines i)
  have hsize : (c.put i line).size = c.size := size_store c i line
  constructor
  case wellFormed => exact h.wellFormed.settle_store hi line _
  case size_eq => exact hsize.trans h.size_eq
  case scoped_endState =>
    intro j other hother
    by_cases hij : i = j
    · subst hij
      rw [result?_put_self hlt] at hother
      rw [← Option.some.inj hother]
      exact hscoped
    · rw [result?_put_of_ne hij] at hother
      exact h.scoped_endState j other hother
  case settled =>
    intro j hj hdue state hstate
    rw [hsize] at hj
    by_cases hij : i = j
    · -- the line itself has its outcome
      subst hij
      rw [before?_put (Nat.succ_ne_self i), hbefore] at hstate
      rw [result?_put_self hlt, hline, Option.some.inj hstate]
    · rw [result?_put_of_ne hij]
      refine h.settled j hj (not_due_of_not_due_put hi hij hdue) state ?_
      by_cases hnext : i + 1 = j
      · -- the line behind it is only passed over if the same rules are open before it as were
        subst hnext
        obtain ⟨old, hold, hagrees⟩ := exists_agrees_of_not_due_put hj hdue
        have hsame : old.endState = line.endState :=
          (h.scoped_endState i old hold).eq_of_agrees hscoped hagrees
        rw [before?, result?_put_self hlt, Option.map_some] at hstate
        rw [before?, hold, Option.map_some, hsame, hstate]
      · rw [before?_put hnext] at hstate
        exact hstate

/-! ### Following an event -/

/-- A cache knows the same results as another one, and what is due there is due here. -/
structure Keeps (c d : LineCache) : Prop where
  size_eq : d.size = c.size
  result_eq : ∀ i, d.result? i = c.result? i
  due : ∀ i, c.Due i → d.Due i

theorem Keeps.trans {b : LineCache} (h : b.Keeps c) (h' : c.Keeps d) : b.Keeps d :=
  ⟨h'.size_eq.trans h.size_eq, fun i => (h'.result_eq i).trans (h.result_eq i),
    fun i hi => h'.due i (h.due i hi)⟩

theorem keeps_touch (c : LineCache) (j : Nat) : c.Keeps (c.touch j) := by
  refine ⟨size_touch c j, result?_touch c j, fun i hi => ?_⟩
  rcases hi with hp | hchanged
  · exact .inl hp
  · exact .inr (isChanged_touch hchanged j)

/-- The line that tokenizing no longer begins at is changed instead. -/
theorem keeps_beginAt (hlt : ∀ p, c.pending = some p → p < c.size) (start : Nat) :
    c.Keeps (c.beginAt start) := by
  refine ⟨size_beginAt c start, result?_beginAt c start, fun i hi => ?_⟩
  rcases hi with hp | hchanged
  · unfold beginAt
    rw [hp]
    split
    · exact .inl hp
    · simp only
      split
      · exact .inl hp
      · exact .inr (isChanged_touch_self (hlt i hp))
  · exact .inr (isChanged_beginAt hchanged start)

/-- A cache with the lines of an event replaced: the other lines have the results they had, each in
its new place, and are due if they were.  The new lines are due, and the last of them has at most
the result of the last line replaced. -/
structure Follows (e : LineChange) (c d : LineCache) : Prop where
  size_eq : d.size = c.size - (e.endLine - e.startLine) + e.newLineCount
  result_before : ∀ i < e.startLine, d.result? i = c.result? i
  result_new : ∀ k < e.newLineCount, ∀ line, d.result? (e.startLine + k) = some line →
    e.startLine < e.endLine ∧ c.result? (e.endLine - 1) = some line
  result_after : ∀ k, d.result? (e.startLine + e.newLineCount + k) = c.result? (e.endLine + k)
  due_before : ∀ i < e.startLine, c.Due i → d.Due i
  due_new : ∀ k < e.newLineCount, d.Due (e.startLine + k)
  due_after : ∀ k, c.Due (e.endLine + k) → d.Due (e.startLine + e.newLineCount + k)

theorem Follows.of_keeps {b : LineCache} {e : LineChange} (h : Follows e b c) (h' : c.Keeps d) :
    Follows e b d where
  size_eq := h'.size_eq.trans h.size_eq
  result_before i hi := (h'.result_eq i).trans (h.result_before i hi)
  result_new k hk line hline := h.result_new k hk line ((h'.result_eq _).symm.trans hline)
  result_after k := (h'.result_eq _).trans (h.result_after k)
  due_before i hi hdue := h'.due i (h.due_before i hi hdue)
  due_new k hk := h'.due _ (h.due_new k hk)
  due_after k hdue := h'.due _ (h.due_after k hdue)

theorem Follows.before?_of_le {e : LineChange} (h : Follows e c d) (hi : i ≤ e.startLine) :
    d.before? i = c.before? i := by
  cases i with
  | zero => rfl
  | succ i => exact before?_congr (h.result_before i hi)

/-- What is known to be open before a line behind the new ones was known before: it is what was open
after the line before it, or after the last line replaced. -/
theorem Follows.before?_add {e : LineChange} (h : Follows e c d) {k : Nat} {state : OpenRules}
    (hpos : 0 < e.newLineCount + k)
    (hstate : d.before? (e.startLine + e.newLineCount + k) = some state) :
    c.before? (e.endLine + k) = some state := by
  cases k with
  | succ k =>
    -- the line before it is behind the new ones too
    rw [← Nat.add_assoc] at hstate ⊢
    rw [← before?_congr (h.result_after k)]
    exact hstate
  | zero =>
    -- the line before it is the last of the new ones
    obtain ⟨n, hn⟩ : ∃ n, e.newLineCount = n + 1 := ⟨e.newLineCount - 1, by omega⟩
    rw [Nat.add_zero, hn, ← Nat.add_assoc] at hstate
    obtain ⟨line, hline, hend⟩ := Option.map_eq_some_iff.1 hstate
    obtain ⟨hlt, hlast⟩ := h.result_new n (by omega) line hline
    have hstop : e.endLine + 0 = e.endLine - 1 + 1 := by omega
    rw [hstop, before?, hlast, Option.map_some, hend]

/-- A cache with its lines replaced follows the event, wherever tokenizing was to begin. -/
theorem WellFormed.follows_spliced (h : c.WellFormed) {e : LineChange} (hfits : c.Fits e) :
    Follows e c (c.spliced e) := by
  have hsize := hfits.size_spliced
  have hstart := hfits.start_le
  have hstop := hfits.end_le
  constructor
  case size_eq => exact hsize
  case result_before => exact fun i hi => result?_congr (hfits.getElem?_spliced_of_lt hi)
  case result_new =>
    intro k hk line hline
    obtain ⟨baseline, hentry, hbaseline⟩ := hfits.getElem?_spliced_new hk
    rw [result?, hentry] at hline
    exact hbaseline line hline
  case result_after => exact fun k => result?_congr (hfits.getElem?_spliced_add k)
  case due_before =>
    rintro i hi (hp | hchanged)
    · left
      have hlt : i < c.size := h.pending_lt i hp
      have hlt' : i < (c.spliced e).size := by omega
      rw [LineCache.spliced, hp]
      exact shifted_of_lt hstart hi hlt'
    · exact .inr ((isChanged_congr (hfits.getElem?_spliced_of_lt hi)).trans hchanged)
  case due_new =>
    intro k hk
    obtain ⟨baseline, hentry, -⟩ := hfits.getElem?_spliced_new hk
    right
    rw [isChanged, hentry]
    rfl
  case due_after =>
    rintro k (hp | hchanged)
    · left
      have hlt : e.endLine + k < c.size := h.pending_lt _ hp
      have hlt' : e.startLine + e.newLineCount + k < (c.spliced e).size := by omega
      rw [LineCache.spliced, hp]
      exact shifted_add hlt'
    · exact .inr ((isChanged_congr (hfits.getElem?_spliced_add k)).trans hchanged)

/-- A cache that is told of an event that fits it follows the event, and the line at which the new
lines begin is due, also when there are none. -/
theorem WellFormed.follows_replaceLines (h : c.WellFormed) {e : LineChange} (hfits : c.Fits e)
    {lineCount : Nat} (hcount : lineCount = c.size - (e.endLine - e.startLine) + e.newLineCount) :
    Follows e c (c.replaceLines e lineCount) ∧
      (e.startLine < lineCount → (c.replaceLines e lineCount).Due e.startLine) := by
  have hshaped := (h.spliced hfits).touch (Nat.le_refl e.startLine)
  have hbegins := keeps_beginAt hshaped.pending_lt e.startLine
  have hfollows := (h.follows_spliced hfits).of_keeps ((keeps_touch _ e.startLine).trans hbegins)
  have hpos := hfits.count_pos
  have hresize : (((c.spliced e).touch e.startLine).beginAt e.startLine).size =
      max lineCount 1 := by
    rw [hfollows.size_eq]
    omega
  rw [hfits.replaceLines_eq, resize_eq_self hresize]
  refine ⟨hfollows, fun hlt => hbegins.due _ (.inr (isChanged_touch_self ?_))⟩
  rw [hfits.size_spliced]
  exact Nat.lt_of_lt_of_eq hlt hcount

/-- An accurate event fits a cache that fits the document. -/
theorem Consistent.fits {old new : Lines} (h : c.Consistent g config old) {e : LineChange}
    (he : e.Describes old new) : c.Fits e := by
  have hpos : 0 < new.count := Nat.lt_of_lt_of_le Nat.one_pos (Nat.le_max_right _ 1)
  refine ⟨he.start_le, ?_, ?_⟩
  · rw [h.size_eq]
    exact he.end_le
  · rw [h.size_eq, ← he.count_eq]
    exact hpos

/-- **Following an accurate event keeps a cache fitting.** -/
theorem Consistent.replaceLines {old new : Lines} (h : c.Consistent g config old) {e : LineChange}
    (he : e.Describes old new) : (c.replaceLines e new.count).Consistent g config new := by
  have hfits := h.fits he
  have hcount : new.count = c.size - (e.endLine - e.startLine) + e.newLineCount := by
    rw [h.size_eq, he.count_eq]
  obtain ⟨hfollows, hbegins⟩ := h.wellFormed.follows_replaceLines hfits hcount
  have hsize : (c.replaceLines e new.count).size = new.count := hfollows.size_eq.trans hcount.symm
  constructor
  case wellFormed => exact h.wellFormed.replaceLines e new.count
  case size_eq => exact hsize
  case scoped_endState =>
    intro i line hline
    obtain ⟨j, hj⟩ := exists_result?_of_replaceLines hline
    exact h.scoped_endState j line hj
  case settled =>
    intro i hi hdue state hstate
    rw [hsize] at hi
    have hstart := hfits.start_le
    have hstop := hfits.end_le
    rcases lt_or_new_or_add i e.startLine e.newLineCount with hi' | ⟨k, hk, rfl⟩ | ⟨k, rfl⟩
    · rw [hfollows.before?_of_le (Nat.le_of_lt hi')] at hstate
      rw [hfollows.result_before i hi', he.before i hi']
      exact h.settled i (by omega) (fun hold => hdue (hfollows.due_before i hi' hold)) state hstate
    · -- new lines are due
      exact absurd (hfollows.due_new k hk) hdue
    · -- the first line behind removed ones is due if nothing takes their place
      have hpos : 0 < e.newLineCount + k := by
        refine Nat.pos_of_ne_zero fun hzero => hdue ?_
        have hline : e.startLine + e.newLineCount + k = e.startLine := by omega
        rw [hline] at hi ⊢
        exact hbegins hi
      rw [hfollows.result_after k, he.after k]
      exact h.settled _ (by omega) (fun hold => hdue (hfollows.due_after k hold)) state
        (hfollows.before?_add hpos hstate)

end Highlight.LineCache
