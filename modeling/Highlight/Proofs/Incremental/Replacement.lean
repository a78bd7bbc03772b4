import Highlight.Proofs.Incremental.Cache

/-!
# Lines of a cache that are replaced

An event that fits a cache replaces the entries of the lines that it names, and the line at which
the new ones begin is changed (`LineCache.Fits.replaceLines_eq`); any other makes the cache forget
everything (`LineCache.replaceLines_of_not_fits`).  No event, accurate or not, spoils the shape of
the cache (`LineCache.WellFormed.replaceLines`), and so a cache has its shape after any history
(`LineCache.Reachable.wellFormed`).
-/

namespace Highlight.LineCache

variable {c : LineCache} {e : LineChange} {i : Nat}

/-! ### Entries -/

theorem size_splice (entries new : Array LineEntry) {start stop : Nat} (hle : start ≤ stop)
    (hstop : stop ≤ entries.size) :
    (splice entries start stop new).size = start + new.size + (entries.size - stop) := by
  simp only [splice, Array.size_append, Array.size_extract]
  omega

/-- Lines before the replaced ones stay where they are. -/
theorem getElem?_splice_of_lt (entries new : Array LineEntry) {start stop : Nat}
    (hle : start ≤ stop) (hstop : stop ≤ entries.size) (hi : i < start) :
    (splice entries start stop new)[i]? = entries[i]? := by
  have hfront : i < (entries.extract 0 start).size := by
    rw [Array.size_extract]
    omega
  rw [splice, Array.append_assoc, Array.getElem?_append_left hfront, Array.getElem?_extract,
    Nat.zero_add, if_pos (by omega)]

/-- The new lines stand where the replaced ones began. -/
theorem getElem?_splice_new (entries new : Array LineEntry) {start stop : Nat} (hle : start ≤ stop)
    (hstop : stop ≤ entries.size) (hi : i < new.size) :
    (splice entries start stop new)[start + i]? = new[i]? := by
  have hfront : (entries.extract 0 start).size = start := by
    rw [Array.size_extract]
    omega
  rw [splice, Array.append_assoc, Array.getElem?_append_right (by omega), hfront,
    Nat.add_sub_cancel_left, Array.getElem?_append_left hi]

/-- Lines behind the replaced ones are moved. -/
theorem getElem?_splice_add (entries new : Array LineEntry) {start stop : Nat} (hle : start ≤ stop)
    (hstop : stop ≤ entries.size) (k : Nat) :
    (splice entries start stop new)[start + new.size + k]? = entries[stop + k]? := by
  have hfront : (entries.extract 0 start ++ new).size = start + new.size := by
    rw [Array.size_append, Array.size_extract]
    omega
  rw [splice, Array.getElem?_append_right (by omega), hfront, Nat.add_sub_cancel_left,
    Array.getElem?_extract]
  split
  · rfl
  · exact (Array.getElem?_eq_none (by omega)).symm

/-- A line of a cache with lines replaced is one before them, one of the new ones, or one behind
them. -/
theorem lt_or_new_or_add (i start n : Nat) :
    i < start ∨ (∃ k < n, i = start + k) ∨ ∃ k, i = start + n + k := by
  rcases Nat.lt_or_ge i start with h | h
  · exact .inl h
  · rcases Nat.lt_or_ge i (start + n) with h' | h'
    · exact .inr (.inl ⟨i - start, by omega, by omega⟩)
    · exact .inr (.inr ⟨i - (start + n), by omega⟩)

@[simp] theorem size_newEntries (n : Nat) (baseline : Option CachedLine) :
    (newEntries n baseline).size = n := by
  rw [newEntries, Array.size_modify, Array.size_replicate]

/-- New lines are changed, and only the last of them has something to be compared with. -/
theorem getElem?_newEntries {n : Nat} (baseline : Option CachedLine) (hi : i < n) :
    (newEntries n baseline)[i]? = some ⟨if i + 1 = n then baseline else none, true⟩ := by
  rw [newEntries, Array.getElem?_modify, Array.getElem?_replicate, if_pos hi]
  by_cases h : i + 1 = n
  · rw [if_pos (by omega), if_pos h]
    rfl
  · rw [if_neg (by omega), if_neg h]

/-- Tokenizing begins at a line that there is. -/
theorem lt_of_shifted {start stop n total : Nat} {pending : Option Nat} {p : Nat}
    (h : shifted start stop n total pending = some p) : p < total :=
  of_decide_eq_true (Option.filter_eq_some_iff.1 h).2

/-- A line before the replaced ones stays the one to begin at. -/
theorem shifted_of_lt {start stop n total p : Nat} (hle : start ≤ stop) (hp : p < start)
    (htotal : p < total) : shifted start stop n total (some p) = some p := by
  rw [shifted, Option.map_some, if_neg (by omega), Nat.min_eq_left (by omega)]
  exact Option.filter_eq_some_iff.2 ⟨rfl, decide_eq_true htotal⟩

/-- A line to begin at that is behind the replaced ones is moved with the others. -/
theorem shifted_add {start stop n total k : Nat} (htotal : start + n + k < total) :
    shifted start stop n total (some (stop + k)) = some (start + n + k) := by
  rw [shifted, Option.map_some, if_pos (by omega)]
  have hmoved : stop + k - stop + start + n = start + n + k := by omega
  rw [hmoved]
  exact Option.filter_eq_some_iff.2 ⟨rfl, decide_eq_true htotal⟩

/-! ### Events -/

/-- An event fits a cache if the lines that it names are lines of the cache, and some line is left
or new. -/
structure Fits (c : LineCache) (e : LineChange) : Prop where
  start_le : e.startLine ≤ e.endLine
  end_le : e.endLine ≤ c.size
  count_pos : 0 < c.size - (e.endLine - e.startLine) + e.newLineCount

/-- The entries of the new lines of an event. -/
def replacement (c : LineCache) (e : LineChange) : Array LineEntry :=
  newEntries e.newLineCount (if e.startLine < e.endLine then c.result? (e.endLine - 1) else none)

/-- The cache with the lines that an event names replaced. -/
def spliced (c : LineCache) (e : LineChange) : LineCache :=
  ⟨splice c.entries e.startLine e.endLine (c.replacement e),
    shifted e.startLine e.endLine e.newLineCount
      (splice c.entries e.startLine e.endLine (c.replacement e)).size c.pending⟩

theorem Fits.size_spliced (h : c.Fits e) :
    (c.spliced e).size = c.size - (e.endLine - e.startLine) + e.newLineCount := by
  have hstart := h.start_le
  have hstop := h.end_le
  refine (size_splice c.entries (c.replacement e) hstart hstop).trans ?_
  rw [replacement, size_newEntries]
  show e.startLine + e.newLineCount + (c.size - e.endLine) = _
  omega

theorem Fits.getElem?_spliced_of_lt (h : c.Fits e) (hi : i < e.startLine) :
    (c.spliced e).entries[i]? = c.entries[i]? :=
  getElem?_splice_of_lt c.entries (c.replacement e) h.start_le h.end_le hi

/-- Every new line is changed, and the last of them has the result of the last line replaced. -/
theorem Fits.getElem?_spliced_add_start (h : c.Fits e) (hi : i < e.newLineCount) :
    (c.spliced e).entries[e.startLine + i]? = some ⟨if i + 1 = e.newLineCount then
      if e.startLine < e.endLine then c.result? (e.endLine - 1) else none else none, true⟩ := by
  refine (getElem?_splice_new c.entries (c.replacement e) h.start_le h.end_le ?_).trans
    (getElem?_newEntries _ hi)
  rwa [replacement, size_newEntries]

/-- Every new line is changed, and has at most the result of the last line replaced. -/
theorem Fits.getElem?_spliced_new (h : c.Fits e) (hi : i < e.newLineCount) :
    ∃ baseline, (c.spliced e).entries[e.startLine + i]? = some ⟨baseline, true⟩ ∧
      ∀ line, baseline = some line →
        e.startLine < e.endLine ∧ c.result? (e.endLine - 1) = some line := by
  refine ⟨_, h.getElem?_spliced_add_start hi, fun line hline => ?_⟩
  split at hline
  · split at hline
    · exact ⟨‹_›, hline⟩
    · exact absurd hline (by simp)
  · exact absurd hline (by simp)

theorem Fits.getElem?_spliced_add (h : c.Fits e) (k : Nat) :
    (c.spliced e).entries[e.startLine + e.newLineCount + k]? = c.entries[e.endLine + k]? := by
  have hk := getElem?_splice_add c.entries (c.replacement e) h.start_le h.end_le k
  rwa [replacement, size_newEntries] at hk

/-- What an event that fits makes of a cache.  The line at which the new lines begin is changed,
also when there are none. -/
theorem Fits.replaceLines_eq (h : c.Fits e) (lineCount : Nat) :
    c.replaceLines e lineCount =
      (((c.spliced e).touch e.startLine).beginAt e.startLine).resize lineCount := by
  have hsize := h.size_spliced
  have hpos := h.count_pos
  have hfits : ¬ (e.endLine < e.startLine ∨ c.size < e.endLine) := by
    have hstart := h.start_le
    have hstop := h.end_le
    omega
  simp only [replaceLines, Bool.or_eq_true, decide_eq_true_eq]
  rw [if_neg hfits]
  by_cases hn : e.newLineCount = 0
  · -- lines are only removed
    have hnone : c.replacement e = #[] := by rw [replacement, hn]; rfl
    rw [spliced, hnone, hn] at hsize ⊢
    have hnonempty : ¬ (splice c.entries e.startLine e.endLine #[]).isEmpty = true := by
      rw [Array.isEmpty, decide_eq_true_eq]
      change (splice c.entries e.startLine e.endLine #[]).size = _ at hsize
      omega
    rw [if_pos (beq_self_eq_true 0), if_neg hnonempty]
    split
    · rfl
    · rename_i hle
      have hle := Nat.le_of_not_lt hle
      rw [touch_eq_self fun hlt => absurd hlt (Nat.not_lt_of_le hle), beginAt_of_size_le hle]
  · -- the first of the new lines is changed anyway
    obtain ⟨baseline, hfirst, -⟩ := h.getElem?_spliced_new (Nat.pos_of_ne_zero hn)
    have hchanged : (c.spliced e).isChanged e.startLine = true := by
      rw [isChanged, ← Nat.add_zero e.startLine, hfirst]
      rfl
    rw [if_neg (by simpa using hn), touch_eq_self fun _ => hchanged]
    rfl

/-- An event that does not fit makes a cache forget everything. -/
theorem replaceLines_of_not_fits (h : ¬ c.Fits e) (lineCount : Nat) :
    c.replaceLines e lineCount = new lineCount := by
  simp only [replaceLines, Bool.or_eq_true, decide_eq_true_eq]
  by_cases hfits : e.endLine < e.startLine ∨ c.size < e.endLine
  · rw [if_pos hfits]
  · rw [not_or, Nat.not_lt, Nat.not_lt] at hfits
    obtain ⟨hstart, hstop⟩ := hfits
    have hcount : ¬ 0 < c.size - (e.endLine - e.startLine) + e.newLineCount :=
      fun hpos => h ⟨hstart, hstop, hpos⟩
    have hempty : (splice c.entries e.startLine e.endLine #[]).isEmpty = true := by
      have hsize := size_splice c.entries #[] hstart hstop
      change _ = e.startLine + 0 + (c.size - e.endLine) at hsize
      rw [Array.isEmpty, decide_eq_true_eq]
      omega
    rw [if_neg (by omega), if_pos (by rw [beq_iff_eq]; omega), if_pos hempty]

/-! ### The shape -/

/-- Replacing lines keeps the shape up to where the new ones begin. -/
theorem WellFormed.spliced (h : c.WellFormed) (hfits : c.Fits e) :
    ShapedFrom e.startLine (c.spliced e) := by
  have hsize := hfits.size_spliced
  constructor
  case size_pos => exact Nat.lt_of_lt_of_eq hfits.count_pos hsize.symm
  case pending_lt => exact fun p hp => lt_of_shifted hp
  case pending_le =>
    intro i hi hchanged
    have hlt : i < (c.spliced e).size := lt_size_of_isChanged hchanged
    rw [isChanged_congr (hfits.getElem?_spliced_of_lt hi)] at hchanged
    obtain ⟨p, hp, hpi⟩ := h.exists_pending_le hchanged
    refine ⟨p, ?_, hpi⟩
    rw [LineCache.spliced, hp]
    exact shifted_of_lt hfits.start_le (Nat.lt_of_le_of_lt hpi hi) (Nat.lt_of_le_of_lt hpi hlt)
  case changed_of_none =>
    intro i hi hnone
    rw [hsize] at hi
    have hstart := hfits.start_le
    have hstop := hfits.end_le
    rcases lt_or_new_or_add i e.startLine e.newLineCount with hi' | ⟨k, hk, rfl⟩ | ⟨k, rfl⟩
    · have hentry := hfits.getElem?_spliced_of_lt hi'
      rw [isChanged_congr hentry]
      rw [result?_congr hentry] at hnone
      exact h.changed_of_none i (by omega) hnone
    · obtain ⟨baseline, hentry, -⟩ := hfits.getElem?_spliced_new hk
      rw [isChanged, hentry]
      rfl
    · have hentry := hfits.getElem?_spliced_add k
      rw [isChanged_congr hentry]
      rw [result?_congr hentry] at hnone
      exact h.changed_of_none _ (by omega) hnone

/-- No result is new when lines are replaced. -/
theorem exists_result?_of_replaceLines {lineCount : Nat} {line : CachedLine}
    (h : (c.replaceLines e lineCount).result? i = some line) : ∃ j, c.result? j = some line := by
  by_cases hfits : c.Fits e
  · rw [hfits.replaceLines_eq] at h
    have h := result?_of_resize h
    rw [result?_beginAt, result?_touch] at h
    rcases lt_or_new_or_add i e.startLine e.newLineCount with hi | ⟨k, hk, rfl⟩ | ⟨k, rfl⟩
    · exact ⟨i, (result?_congr (hfits.getElem?_spliced_of_lt hi)).symm.trans h⟩
    · obtain ⟨baseline, hentry, hbaseline⟩ := hfits.getElem?_spliced_new hk
      rw [result?, hentry] at h
      exact ⟨e.endLine - 1, (hbaseline line h).2⟩
    · exact ⟨e.endLine + k, (result?_congr (hfits.getElem?_spliced_add k)).symm.trans h⟩
  · rw [replaceLines_of_not_fits hfits, result?_new] at h
    exact absurd h (by simp)

/-- **A cache keeps its shape whatever event it is told of.** -/
theorem WellFormed.replaceLines (h : c.WellFormed) (e : LineChange) (lineCount : Nat) :
    (c.replaceLines e lineCount).WellFormed := by
  by_cases hfits : c.Fits e
  · rw [hfits.replaceLines_eq]
    exact ((h.spliced hfits).touch (Nat.le_refl _)).beginAt.resize lineCount
  · rw [replaceLines_of_not_fits hfits]
    exact wellFormed_new lineCount

/-! ### Any history -/

/-- What a line cache can come to.  Events need not fit, numbers of lines may be any, and a result
may be put in for any line.  One goes on behind a line when no line up to it is changed any more;
otherwise the cache would lose its shape (`LineCache.WellFormed.settle_iff`). -/
inductive Reachable : LineCache → Prop where
  | new (lineCount : Nat) : Reachable (new lineCount)
  | replaceLines {c : LineCache} (e : LineChange) (lineCount : Nat) :
    Reachable c → Reachable (c.replaceLines e lineCount)
  | resize {c : LineCache} (lineCount : Nat) : Reachable c → Reachable (c.resize lineCount)
  | store {c : LineCache} (i : Nat) (line : CachedLine) : Reachable c → Reachable (c.store i line)
  | settle {c : LineCache} {i : Nat} (converged : Bool) :
    Reachable c → (∀ j ≤ i, c.isChanged j = false) → Reachable (c.settle i converged)

theorem Reachable.wellFormed (h : Reachable c) : c.WellFormed := by
  induction h with
  | new lineCount => exact wellFormed_new lineCount
  | replaceLines e lineCount _ ih => exact ih.replaceLines e lineCount
  | resize lineCount _ ih => exact ih.resize lineCount
  | store i line _ ih => exact ih.store i line
  | settle converged _ hpassed ih => exact (ih.settle_iff _ converged).2 hpassed

/-- The first line to be tokenized may be given any result, and then passed. -/
theorem Reachable.settle_store (h : Reachable c) (hi : c.pending = some i) (line : CachedLine)
    (converged : Bool) : Reachable ((c.store i line).settle i converged) :=
  (h.store i line).settle converged fun _ hj => h.wellFormed.isChanged_store_of_le hi line hj

end Highlight.LineCache
