import Highlight.Incremental.Cache
import Mathlib.Data.Nat.Basic

/-!
# The shape of a line cache

Whatever happens to a line cache, lines before `pending` are not changed, and a line without a
result is changed (`LineCache.WellFormed`).  So tokenizing from `pending` on reaches every line that
needs it.  Line counts that do not fit the cache keep this shape (`LineCache.WellFormed.resize`),
and so do results of any kind (`LineCache.WellFormed.store`).  Going on behind a line keeps it
exactly if no line up to that one is changed (`LineCache.WellFormed.settle_iff`), as is the case
once the first line to be tokenized has a new result (`LineCache.WellFormed.settle_store`).

While the entries of a cache are moved, changed lines may stand before `pending`, but only from some
line on (`LineCache.ShapedFrom`), and `LineCache.beginAt` is called for that line.
-/

namespace Highlight.LineCache

/-- Whether a line is changed. -/
def isChanged (c : LineCache) (i : Nat) : Bool := c.entries[i]?.any LineEntry.changed

/-- Lines before the given one are changed only from `pending` on, a line without a result is
changed, and `pending` is a line of the cache. -/
structure ShapedFrom (start : Nat) (c : LineCache) : Prop where
  size_pos : 0 < c.size
  pending_lt : ∀ p, c.pending = some p → p < c.size
  pending_le : ∀ i < start, c.isChanged i = true → ∃ p, c.pending = some p ∧ p ≤ i
  changed_of_none : ∀ i < c.size, c.result? i = none → c.isChanged i = true

/-- All changed lines stand at or after `pending`, a line without a result is changed, and `pending`
is a line of the cache. -/
abbrev WellFormed (c : LineCache) : Prop := ShapedFrom c.size c

/-! ### Looking up lines -/

variable {c d : LineCache} {i j : Nat}

theorem isChanged_iff : c.isChanged i = true ↔ ∃ e, c.entries[i]? = some e ∧ e.changed = true := by
  unfold isChanged
  cases c.entries[i]? with
  | none => simp
  | some e => simp

theorem lt_size_of_isChanged (h : c.isChanged i = true) : i < c.size := by
  obtain ⟨e, he, -⟩ := isChanged_iff.1 h
  exact (Array.getElem?_eq_some_iff.1 he).1

theorem lt_size_of_result? {line : CachedLine} (h : c.result? i = some line) : i < c.size := by
  obtain ⟨e, he, -⟩ := Option.bind_eq_some_iff.1 h
  exact (Array.getElem?_eq_some_iff.1 he).1

theorem WellFormed.exists_pending_le (h : c.WellFormed) (hi : c.isChanged i = true) :
    ∃ p, c.pending = some p ∧ p ≤ i := h.pending_le i (lt_size_of_isChanged hi) hi

/-- What is known of a line depends on its entry alone. -/
theorem isChanged_congr (h : d.entries[i]? = c.entries[j]?) : d.isChanged i = c.isChanged j := by
  rw [isChanged, isChanged, h]

theorem result?_congr (h : d.entries[i]? = c.entries[j]?) : d.result? i = c.result? j := by
  rw [result?, result?, h]

@[simp] theorem size_touch (c : LineCache) (j : Nat) : (c.touch j).size = c.size :=
  Array.size_modify

theorem getElem?_touch (c : LineCache) (j i : Nat) :
    (c.touch j).entries[i]? =
      if j = i then c.entries[i]?.map fun e => { e with changed := true } else c.entries[i]? :=
  Array.getElem?_modify

@[simp] theorem result?_touch (c : LineCache) (j i : Nat) :
    (c.touch j).result? i = c.result? i := by
  rw [result?, result?, getElem?_touch]
  split
  · cases c.entries[i]? <;> rfl
  · rfl

theorem isChanged_touch_self (h : j < c.size) : (c.touch j).isChanged j = true := by
  have hj : c.entries[j]? = some c.entries[j] := Array.getElem?_eq_getElem h
  rw [isChanged, getElem?_touch, if_pos rfl, hj]
  rfl

theorem isChanged_touch_of_ne (h : j ≠ i) : (c.touch j).isChanged i = c.isChanged i :=
  isChanged_congr (by rw [getElem?_touch, if_neg h])

theorem isChanged_touch (h : c.isChanged i = true) (j : Nat) :
    (c.touch j).isChanged i = true := by
  by_cases hj : j = i
  · rw [hj]
    exact isChanged_touch_self (lt_size_of_isChanged h)
  · rwa [isChanged_touch_of_ne hj]

/-- A changed line can be noted as changed once more, and beyond the last line there is nothing to
note. -/
theorem touch_eq_self (h : j < c.size → c.isChanged j = true) : c.touch j = c := by
  have hentries : c.entries.modify j (fun e => { e with changed := true }) = c.entries := by
    ext i hi hi'
    · exact Array.size_modify
    · rw [Array.getElem_modify]
      split
      · rename_i hij
        subst hij
        obtain ⟨e, he, hchanged⟩ := isChanged_iff.1 (h hi')
        rw [(Array.getElem?_eq_some_iff.1 he).2, ← hchanged]
      · rfl
  rw [touch, hentries]

/-! ### Where tokenizing begins -/

theorem beginAt_of_size_le (h : c.size ≤ j) : c.beginAt j = c := by
  rw [beginAt, if_pos h]

@[simp] theorem size_beginAt (c : LineCache) (start : Nat) : (c.beginAt start).size = c.size := by
  unfold beginAt
  split
  · rfl
  · split
    · rfl
    · split
      · rfl
      · exact size_touch c _

@[simp] theorem result?_beginAt (c : LineCache) (start i : Nat) :
    (c.beginAt start).result? i = c.result? i := by
  unfold beginAt
  split
  · rfl
  · split
    · rfl
    · split
      · rfl
      · exact result?_touch c _ i

theorem isChanged_beginAt (h : c.isChanged i = true) (start : Nat) :
    (c.beginAt start).isChanged i = true := by
  unfold beginAt
  split
  · exact h
  · split
    · exact h
    · split
      · exact h
      · exact isChanged_touch h _

/-- When all lines are covered, nothing is left to repair. -/
theorem ShapedFrom.wellFormed {start : Nat} (h : ShapedFrom start c) (hsize : c.size ≤ start) :
    c.WellFormed :=
  ⟨h.size_pos, h.pending_lt, fun i hi => h.pending_le i (Nat.lt_of_lt_of_le hi hsize),
    h.changed_of_none⟩

/-- Beginning where the changed lines may begin repairs the shape. -/
theorem ShapedFrom.beginAt {start : Nat} (h : ShapedFrom start c) :
    (c.beginAt start).WellFormed := by
  unfold LineCache.beginAt
  split
  · exact h.wellFormed ‹_›
  · rename_i hlt
    have hlt : start < c.size := Nat.lt_of_not_le hlt
    split
    · -- nothing was pending, so no line before `start` is changed
      rename_i hpending
      refine ⟨h.size_pos, fun p hp => ?_, fun i _ hi => ?_, h.changed_of_none⟩
      · obtain rfl : start = p := Option.some.inj hp
        exact hlt
      · refine ⟨start, rfl, Nat.le_of_not_lt fun hstart => ?_⟩
        obtain ⟨p, hp, -⟩ := h.pending_le i hstart hi
        rw [hpending] at hp
        exact absurd hp (by simp)
    · rename_i p hpending
      split
      · -- tokenizing begins early enough
        rename_i hp
        refine ⟨h.size_pos, h.pending_lt, fun i _ hi => ?_, h.changed_of_none⟩
        by_cases hi' : i < start
        · exact h.pending_le i hi' hi
        · exact ⟨p, hpending, by omega⟩
      · -- tokenizing was to begin behind `start`, and so no line before `start` is changed
        rename_i hp
        constructor
        case size_pos => exact Nat.lt_of_lt_of_eq h.size_pos (size_touch c p).symm
        case pending_lt =>
          intro q hq
          obtain rfl : start = q := Option.some.inj hq
          exact Nat.lt_of_lt_of_eq hlt (size_touch c p).symm
        case pending_le =>
          intro i _ hi
          refine ⟨start, rfl, Nat.le_of_not_lt fun hi' => ?_⟩
          have hne : p ≠ i := by omega
          have hchanged : c.isChanged i = true := (isChanged_touch_of_ne hne).symm.trans hi
          obtain ⟨q, hq, hle⟩ := h.pending_le i hi' hchanged
          obtain rfl : p = q := Option.some.inj (hpending.symm.trans hq)
          omega
        case changed_of_none =>
          intro i hi hnone
          have hi' : i < c.size := Nat.lt_of_lt_of_eq hi (size_touch c p)
          exact isChanged_touch (h.changed_of_none i hi' ((result?_touch c p i).symm.trans hnone)) p

/-- A line is noted as changed before tokenizing is made to begin there. -/
theorem ShapedFrom.touch {start : Nat} (h : ShapedFrom start c) (hj : start ≤ j) :
    ShapedFrom start (c.touch j) := by
  constructor
  case size_pos => exact Nat.lt_of_lt_of_eq h.size_pos (size_touch c j).symm
  case pending_lt =>
    exact fun p hp => Nat.lt_of_lt_of_eq (h.pending_lt p hp) (size_touch c j).symm
  case pending_le =>
    intro i hi hchanged
    rw [isChanged_touch_of_ne (by omega)] at hchanged
    exact h.pending_le i hi hchanged
  case changed_of_none =>
    intro i hi hnone
    rw [size_touch] at hi
    rw [result?_touch] at hnone
    exact isChanged_touch (h.changed_of_none i hi hnone) j

theorem wellFormed_new (lineCount : Nat) : (new lineCount).WellFormed := by
  have hsize : (new lineCount).size = max lineCount 1 := Array.size_replicate
  constructor
  case size_pos => omega
  case pending_lt =>
    intro p hp
    obtain rfl : 0 = p := Option.some.inj hp
    omega
  case pending_le => exact fun i _ _ => ⟨0, rfl, Nat.zero_le i⟩
  case changed_of_none =>
    intro i hi _
    rw [isChanged, new, Array.getElem?_replicate, if_pos (by omega)]
    rfl

/-! ### The number of lines -/

/-- A cache of the right size is left as it is. -/
theorem resize_eq_self {lineCount : Nat} (h : c.size = max lineCount 1) :
    c.resize lineCount = c := by
  unfold resize
  rw [if_pos (by simpa using h)]

/-- Lines that are added at the end are changed. -/
theorem WellFormed.grow (h : c.WellFormed) {start : Nat} (hstart : start ≤ c.size) (n : Nat) :
    ShapedFrom start { c with entries := c.entries ++ Array.replicate n {} } := by
  have hfront (i : Nat) (hi : i < c.size) :
      (c.entries ++ Array.replicate n ({} : LineEntry))[i]? = c.entries[i]? :=
    Array.getElem?_append_left hi
  have hback (i : Nat) (hi : c.size ≤ i) (hi' : i < c.size + n) :
      (c.entries ++ Array.replicate n ({} : LineEntry))[i]? = some {} := by
    rw [Array.getElem?_append_right hi, Array.getElem?_replicate]
    exact if_pos (Nat.sub_lt_left_of_lt_add hi hi')
  have hsize : (c.entries ++ Array.replicate n ({} : LineEntry)).size = c.size + n := by
    rw [Array.size_append, Array.size_replicate]
    rfl
  constructor
  case size_pos => exact Nat.lt_of_lt_of_eq (Nat.add_pos_left h.size_pos n) hsize.symm
  case pending_lt =>
    intro p hp
    exact Nat.lt_of_lt_of_eq (Nat.lt_add_right n (h.pending_lt p hp)) hsize.symm
  case pending_le =>
    intro i hi hchanged
    rw [isChanged_congr (hfront i (by omega))] at hchanged
    exact h.exists_pending_le hchanged
  case changed_of_none =>
    intro i hi hnone
    by_cases hi' : i < c.size
    · rw [isChanged_congr (hfront i hi')]
      rw [result?_congr (hfront i hi')] at hnone
      exact h.changed_of_none i hi' hnone
    · rw [isChanged, hback i (Nat.le_of_not_lt hi') (Nat.lt_of_lt_of_eq hi hsize)]
      rfl

/-- Lines that are kept are changed at or after `pending`, so it is one of them if any is. -/
theorem WellFormed.cut (h : c.WellFormed) {total : Nat} (hpos : 0 < total) (htotal : total ≤ c.size)
    (start : Nat) : ShapedFrom start ⟨c.entries.take total, c.pending.filter (· < total)⟩ := by
  have hkept (i : Nat) (hi : i < total) : (c.entries.take total)[i]? = c.entries[i]? := by
    rw [Array.take_eq_extract, Array.getElem?_extract, Nat.zero_add, if_pos]
    exact Nat.lt_of_lt_of_le hi (by rw [Nat.sub_zero]; exact Nat.le_min.2 ⟨Nat.le_refl _, htotal⟩)
  have hsize : (c.entries.take total).size = total := by
    rw [Array.take_eq_extract, Array.size_extract, Nat.sub_zero]
    exact Nat.min_eq_left htotal
  constructor
  case size_pos => exact Nat.lt_of_lt_of_eq hpos hsize.symm
  case pending_lt =>
    intro p hp
    have hlt : p < total := by simpa using (Option.filter_eq_some_iff.1 hp).2
    exact Nat.lt_of_lt_of_eq hlt hsize.symm
  case pending_le =>
    intro i _ hchanged
    have hi : i < total := Nat.lt_of_lt_of_eq (lt_size_of_isChanged hchanged) hsize
    rw [isChanged_congr (hkept i hi)] at hchanged
    obtain ⟨p, hp, hle⟩ := h.exists_pending_le hchanged
    exact ⟨p, by simp [hp]; omega, hle⟩
  case changed_of_none =>
    intro i hi hnone
    have hi' : i < total := Nat.lt_of_lt_of_eq hi hsize
    rw [isChanged_congr (hkept i hi')]
    rw [result?_congr (hkept i hi')] at hnone
    exact h.changed_of_none i (Nat.lt_of_lt_of_le hi' htotal) hnone

theorem WellFormed.resize (h : c.WellFormed) (lineCount : Nat) :
    (c.resize lineCount).WellFormed := by
  simp only [LineCache.resize]
  split
  · exact h
  · refine (ShapedFrom.touch ?_ (Nat.le_refl _)).beginAt
    split
    · exact h.grow (by omega) _
    · exact h.cut (by omega) (by omega) _

theorem size_resize (c : LineCache) (lineCount : Nat) :
    (c.resize lineCount).size = max lineCount 1 := by
  simp only [resize]
  split
  · rename_i h
    simpa using h
  · rw [size_beginAt, size_touch]
    split
    · show (c.entries ++ Array.replicate _ _).size = _
      rw [Array.size_append, Array.size_replicate]
      show c.size + _ = _
      omega
    · show (c.entries.take _).size = _
      rw [Array.take_eq_extract, Array.size_extract]
      show min _ c.size - 0 = _
      omega

theorem result?_new (lineCount i : Nat) : (new lineCount).result? i = none := by
  rw [result?, new, Array.getElem?_replicate]
  split <;> rfl

/-- No result is new when lines are added or dropped. -/
theorem result?_of_resize {lineCount : Nat} {line : CachedLine}
    (h : (c.resize lineCount).result? i = some line) : c.result? i = some line := by
  simp only [resize] at h
  split at h
  · exact h
  · rw [result?_beginAt, result?_touch] at h
    split at h
    · rw [result?, Array.getElem?_append] at h
      split at h
      · exact h
      · rw [Array.getElem?_replicate] at h
        split at h <;> exact absurd h (by simp)
    · rw [result?, Array.take_eq_extract, Array.getElem?_extract, Nat.zero_add] at h
      split at h
      · exact h
      · exact absurd h (by simp)

/-! ### Lines that are tokenized -/

@[simp] theorem size_store (c : LineCache) (i : Nat) (line : CachedLine) :
    (c.store i line).size = c.size := Array.size_modify

@[simp] theorem result?_settle (c : LineCache) (i : Nat) (converged : Bool) (j : Nat) :
    (c.settle i converged).result? j = c.result? j := rfl

@[simp] theorem isChanged_settle (c : LineCache) (i : Nat) (converged : Bool) (j : Nat) :
    (c.settle i converged).isChanged j = c.isChanged j := rfl

theorem getElem?_store_self (hi : i < c.size) (line : CachedLine) :
    (c.store i line).entries[i]? = some ⟨some line, false⟩ := by
  have hentry : c.entries[i]? = some c.entries[i] := Array.getElem?_eq_getElem hi
  rw [store, Array.getElem?_modify, if_pos rfl, hentry]
  rfl

theorem getElem?_store_of_ne (h : i ≠ j) (line : CachedLine) :
    (c.store i line).entries[j]? = c.entries[j]? := by
  rw [store, Array.getElem?_modify, if_neg h]

theorem result?_store_self (hi : i < c.size) (line : CachedLine) :
    (c.store i line).result? i = some line := by
  rw [result?, getElem?_store_self hi]
  rfl

theorem isChanged_store_self (hi : i < c.size) (line : CachedLine) :
    (c.store i line).isChanged i = false := by
  rw [isChanged, getElem?_store_self hi]
  rfl

/-- What is found to be the first changed line is one, and stands where it was looked for. -/
theorem firstChanged_eq_some {n p : Nat} (h : c.firstChanged n i = some p) :
    i ≤ p ∧ c.isChanged p = true := by
  induction n generalizing i with
  | zero => exact absurd h (by simp [firstChanged])
  | succ n ih =>
    rw [firstChanged] at h
    split at h
    · exact absurd h (by simp)
    · rename_i e he
      split at h
      · rename_i hchanged
        obtain rfl := Option.some.inj h
        exact ⟨Nat.le_refl i, isChanged_iff.2 ⟨e, he, hchanged⟩⟩
      · obtain ⟨hle, hchanged⟩ := ih h
        exact ⟨by omega, hchanged⟩

/-- No changed line is passed over. -/
theorem exists_firstChanged_le {n : Nat} (hj : c.isChanged j = true) (hle : i ≤ j)
    (hlt : j < i + n) : ∃ p, c.firstChanged n i = some p ∧ p ≤ j := by
  induction n generalizing i with
  | zero => omega
  | succ n ih =>
    have hi : i < c.entries.size := Nat.lt_of_le_of_lt hle (lt_size_of_isChanged hj)
    rw [firstChanged, Array.getElem?_eq_getElem hi]
    by_cases hchanged : c.entries[i].changed = true
    · exact ⟨i, if_pos hchanged, hle⟩
    · have hne : i ≠ j := by
        rintro rfl
        exact hchanged (by simpa [isChanged, hi] using hj)
      simp only [if_neg hchanged]
      exact ih (Nat.lt_of_le_of_ne hle hne) (by omega)

/-- Tokenizing goes on behind the line that has been tokenized. -/
theorem lt_of_pending_settle {converged : Bool} {p : Nat}
    (h : (c.settle i converged).pending = some p) : i < p ∧ p < c.size := by
  simp only [settle] at h
  split at h
  · exact absurd h (by simp)
  · rename_i hlt
    split at h
    · obtain ⟨hle, hchanged⟩ := firstChanged_eq_some h
      exact ⟨hle, lt_size_of_isChanged hchanged⟩
    · obtain rfl := Option.some.inj h
      exact ⟨Nat.lt_succ_self i, Nat.lt_of_not_le hlt⟩

/-- A line with a new result is no longer changed, and the others stay what they are. -/
theorem ne_and_isChanged_of_store {line : CachedLine} (hj : (c.store i line).isChanged j = true) :
    i ≠ j ∧ c.isChanged j = true := by
  have hne : i ≠ j := by
    rintro rfl
    have hlt : i < c.size := Nat.lt_of_lt_of_eq (lt_size_of_isChanged hj) (size_store c i line)
    exact absurd (hj.symm.trans (isChanged_store_self hlt line)) (by simp)
  exact ⟨hne, (isChanged_congr (getElem?_store_of_ne hne line)).symm.trans hj⟩

/-- Putting in a result keeps the shape, whichever line it is for. -/
theorem WellFormed.store (h : c.WellFormed) (i : Nat) (line : CachedLine) :
    (c.store i line).WellFormed := by
  have hsize : (c.store i line).size = c.size := size_store c i line
  constructor
  case size_pos => exact Nat.lt_of_lt_of_eq h.size_pos hsize.symm
  case pending_lt => exact fun p hp => Nat.lt_of_lt_of_eq (h.pending_lt p hp) hsize.symm
  case pending_le => exact fun j _ hj => h.exists_pending_le (ne_and_isChanged_of_store hj).2
  case changed_of_none =>
    intro j hj hnone
    have hlt : j < c.size := Nat.lt_of_lt_of_eq hj hsize
    by_cases hij : i = j
    · subst hij
      exact absurd (hnone.symm.trans (result?_store_self hlt line)) (by simp)
    · rw [isChanged_congr (getElem?_store_of_ne hij line)]
      rw [result?_congr (getElem?_store_of_ne hij line)] at hnone
      exact h.changed_of_none j hlt hnone

/-- Once the first line to be tokenized has a new result, no line up to it is changed. -/
theorem WellFormed.isChanged_store_of_le (h : c.WellFormed) (hi : c.pending = some i)
    (line : CachedLine) (hj : j ≤ i) : (c.store i line).isChanged j = false := by
  rw [Bool.eq_false_iff]
  intro hchanged
  obtain ⟨hne, hold⟩ := ne_and_isChanged_of_store hchanged
  obtain ⟨p, hp, hle⟩ := h.exists_pending_le hold
  obtain rfl := Option.some.inj (hi.symm.trans hp)
  omega

/-- Going on behind a line keeps the shape if no line up to it is changed, and only then. -/
theorem WellFormed.settle_iff (h : c.WellFormed) (i : Nat) (converged : Bool) :
    (c.settle i converged).WellFormed ↔ ∀ j ≤ i, c.isChanged j = false := by
  constructor
  · intro hsettled j hj
    rw [Bool.eq_false_iff]
    intro hchanged
    obtain ⟨p, hp, hle⟩ :=
      hsettled.exists_pending_le ((isChanged_settle c i converged j).trans hchanged)
    have hlt : i < p := (lt_of_pending_settle hp).1
    omega
  · intro hpassed
    refine ⟨h.size_pos, fun p hp => (lt_of_pending_settle hp).2, fun j _ hj => ?_,
      h.changed_of_none⟩
    have hchanged : c.isChanged j = true := (isChanged_settle c i converged j).symm.trans hj
    have hlt : j < c.size := lt_size_of_isChanged hchanged
    have hij : i < j := by
      refine Nat.lt_of_not_le fun hle => ?_
      exact absurd (hchanged.symm.trans (hpassed j hle)) (by simp)
    simp only [settle]
    rw [if_neg (by omega)]
    cases converged with
    | true => exact exists_firstChanged_le hchanged hij (by omega)
    | false => exact ⟨i + 1, rfl, hij⟩

/-- **Putting in the result for the first line to be tokenized keeps the shape.** -/
theorem WellFormed.settle_store (h : c.WellFormed) (hi : c.pending = some i) (line : CachedLine)
    (converged : Bool) : ((c.store i line).settle i converged).WellFormed :=
  ((h.store i line).settle_iff i converged).2 fun _ hj => h.isChanged_store_of_le hi line hj

end Highlight.LineCache
