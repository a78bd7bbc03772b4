import Highlight.Proofs.Checked
import Highlight.Proofs.Incremental.Passes
import Highlight.Proofs.Tokenizer.OpenRules

/-!
# A line cache in two columns

The entries of a line cache may also be kept as two columns, the results in one and the marks in the
other (`CacheColumns`).  The columns have to be kept at the same height, and an index that is right
for one of them may lie outside the other.  Here every access is checked: an operation that reads or
writes outside a column, or takes a larger number from a smaller one, has no result.

An operation on the columns of a cache always has a result, and that is the columns of what the
cache becomes (`LineCache.replaceLines_columns`, `LineCache.resize_columns`,
`LineCache.store_columns`, `LineCache.settle_columns`).  So nothing goes out of range, whatever an
incremental tokenizer is told and whatever documents it is shown
(`IncrementalTokenizer.Possible.shaped`).
-/

namespace Highlight

/-! ### Columns -/

/-- The results and the marks of the lines of a cache. -/
structure CacheColumns where
  results : Array (Option CachedLine)
  changed : Array Bool
  pending : Option Nat
  deriving Repr, DecidableEq

namespace CacheColumns

/-- Nothing is known of any of the lines. -/
def new (lineCount : Nat) : CacheColumns :=
  ⟨Array.replicate (max lineCount 1) none, Array.replicate (max lineCount 1) true, some 0⟩

/-- Tokenizing has to begin at a line, or before it.  A mark that is outside is left out. -/
def beginAt (v : CacheColumns) (i : Nat) : CacheColumns :=
  if v.results.size ≤ i then v
  else match v.pending with
    | none => { v with pending := some i }
    | some pending =>
      if pending ≤ i then v
      else { v with changed := v.changed.modify pending fun _ => true, pending := some i }

/-- Notes that a line is changed. -/
def touch (v : CacheColumns) (i : Nat) : Option CacheColumns := do
  let changed ← Checked.set v.changed i true
  return { v with changed }

/-- Brings the columns to the number of lines of the document. -/
def resize (v : CacheColumns) (lineCount : Nat) : Option CacheColumns := do
  let total := max lineCount 1
  let height := v.results.size
  if height == total then return v
  let pending := if height < total then v.pending else v.pending.filter (· < total)
  let resized : CacheColumns :=
    ⟨Checked.fit v.results total none, Checked.fit v.changed total true, pending⟩
  let last ← Checked.sub (min height total) 1
  let touched ← resized.touch last
  return touched.beginAt last

/-- Where tokenizing has to begin after lines have been replaced. -/
def shifted (start stop newCount height : Nat) : Option Nat → Option (Option Nat)
  | none => some none
  | some first => do
    let moved ←
      if stop ≤ first then (Checked.sub first stop).map (· + start + newCount)
      else some (min first start)
    return if moved < height then some moved else none

/-- The columns with the lines of an event replaced. -/
def splice (v : CacheColumns) (e : LineChange) (new : Array (Option CachedLine)) :
    Option CacheColumns := do
  let results ← Checked.splice v.results e.startLine e.endLine new
  let changed ← Checked.splice v.changed e.startLine e.endLine (Array.replicate new.size true)
  let pending ← shifted e.startLine e.endLine new.size results.size v.pending
  return ⟨results, changed, pending⟩

/-- The result of the last line that an event replaces. -/
def baseline (v : CacheColumns) (e : LineChange) : Option (Option CachedLine) :=
  if e.startLine < e.endLine then do
    let last ← Checked.sub e.endLine 1
    v.results[last]?
  else some none

/-- Follows an edit. -/
def replaceLines (v : CacheColumns) (e : LineChange) (lineCount : Nat) : Option CacheColumns := do
  if e.endLine < e.startLine || v.results.size < e.endLine then return new lineCount
  if e.newLineCount == 0 then
    let shortened ← v.splice e #[]
    if shortened.results.isEmpty then return new lineCount
    if e.startLine < shortened.results.size then
      let touched ← shortened.touch e.startLine
      (touched.beginAt e.startLine).resize lineCount
    else shortened.resize lineCount
  else
    let baseline ← v.baseline e
    let last ← Checked.sub e.newLineCount 1
    let results ← Checked.set (Array.replicate e.newLineCount none) last baseline
    let spliced ← v.splice e results
    (spliced.beginAt e.startLine).resize lineCount

/-- Puts in a new result for a line, which is no longer changed, and answers the one it takes the
place of; a line that there is not is left out. -/
def store (v : CacheColumns) (i : Nat) (line : CachedLine) :
    Option (Option CachedLine × CacheColumns) :=
  match v.results[i]? with
  | none => some (none, v)
  | some old => do
    let changed ← Checked.set v.changed i false
    let results ← Checked.set v.results i (some line)
    return (old, { v with results, changed })

/-- Goes on behind a line. -/
def settle (v : CacheColumns) (i : Nat) (converged : Bool) : Option CacheColumns := do
  let pending ←
    if v.results.size ≤ i + 1 then some none
    else if converged then Checked.findFrom v.changed id (i + 1)
    else some (some (i + 1))
  return { v with pending }

/-- The columns have the same height and at least one line, tokenizing begins at a line that there
is, at or before every changed line, and a line without a result is changed. -/
structure Shaped (v : CacheColumns) : Prop where
  height_eq : v.results.size = v.changed.size
  height_pos : 1 ≤ v.results.size
  pending_lt : ∀ p, v.pending = some p → p < v.results.size
  pending_le : ∀ i : Nat, v.changed[i]? = some true → ∃ p, v.pending = some p ∧ p ≤ i
  changed_of_none : ∀ i : Nat, v.results[i]? = some none → v.changed[i]? = some true

end CacheColumns

/-! ### The columns of a cache -/

namespace LineCache

/-- The results and the marks of the entries. -/
def columns (c : LineCache) : CacheColumns :=
  ⟨c.entries.map LineEntry.result, c.entries.map LineEntry.changed, c.pending⟩

variable {c : LineCache}

theorem columns_new (lineCount : Nat) : (new lineCount).columns = CacheColumns.new lineCount := by
  rw [columns, new, CacheColumns.new, Array.map_replicate, Array.map_replicate]

theorem pending_columns (c : LineCache) : c.columns.pending = c.pending := rfl

theorem size_results (c : LineCache) : c.columns.results.size = c.size := Array.size_map

theorem size_changed (c : LineCache) : c.columns.changed.size = c.size := Array.size_map

theorem getElem?_results (c : LineCache) (i : Nat) :
    c.columns.results[i]? = c.entries[i]?.map LineEntry.result := Array.getElem?_map

theorem getElem?_changed (c : LineCache) (i : Nat) :
    c.columns.changed[i]? = c.entries[i]?.map LineEntry.changed := Array.getElem?_map

/-- Well-formed caches have columns of the right shape. -/
theorem WellFormed.shaped_columns (h : c.WellFormed) : c.columns.Shaped where
  height_eq := (size_results c).trans (size_changed c).symm
  height_pos := Nat.lt_of_lt_of_eq h.size_pos (size_results c).symm
  pending_lt p hp := Nat.lt_of_lt_of_eq (h.pending_lt p hp) (size_results c).symm
  pending_le i hi := by
    rw [getElem?_changed] at hi
    obtain ⟨e, he, hchanged⟩ := Option.map_eq_some_iff.1 hi
    exact h.exists_pending_le (isChanged_iff.2 ⟨e, he, hchanged⟩)
  changed_of_none i hi := by
    rw [getElem?_results] at hi
    obtain ⟨e, he, hresult⟩ := Option.map_eq_some_iff.1 hi
    have hlt : i < c.size := (Array.getElem?_eq_some_iff.1 he).1
    have hnone : c.result? i = none := by
      rw [result?, he]
      exact hresult
    obtain ⟨e', he', hchanged⟩ := isChanged_iff.1 (h.changed_of_none i hlt hnone)
    rw [getElem?_changed, he', Option.map_some, hchanged]

/-! ### Operations on columns -/

theorem columns_touch (c : LineCache) (i : Nat) :
    (c.touch i).columns =
      { c.columns with changed := c.columns.changed.modify i fun _ => true } := by
  have hresults : (c.entries.modify i fun e => { e with changed := true }).map LineEntry.result =
      c.entries.map LineEntry.result := Checked.map_modify_of_eq c.entries i fun _ => rfl
  have hchanged : (c.entries.modify i fun e => { e with changed := true }).map LineEntry.changed =
      (c.entries.map LineEntry.changed).modify i fun _ => true :=
    Checked.map_modify c.entries i fun _ => rfl
  rw [touch, columns, hresults, hchanged]
  rfl

/-- A line that is noted as changed is marked. -/
theorem touch_columns {i : Nat} (hi : i < c.size) :
    c.columns.touch i = some (c.touch i).columns := by
  rw [CacheColumns.touch, Checked.set_eq (Nat.lt_of_lt_of_eq hi (size_changed c).symm),
    columns_touch]
  rfl

theorem columns_beginAt (c : LineCache) (i : Nat) :
    (c.beginAt i).columns = c.columns.beginAt i := by
  rw [beginAt, CacheColumns.beginAt, size_results, pending_columns]
  split
  · rfl
  · cases c.pending with
    | none => rfl
    | some pending =>
      simp only
      split
      · rfl
      · have htouch := columns_touch c pending
        rw [columns] at htouch ⊢
        exact congrArg (fun v : CacheColumns => { v with pending := some i }) htouch

/-- Entries that are added are marked, and have no result. -/
theorem columns_grow {total : Nat} (h : c.size ≤ total) :
    LineCache.columns { c with entries := c.entries ++ Array.replicate (total - c.size) {} } =
      ⟨Checked.fit c.columns.results total none, Checked.fit c.columns.changed total true,
        c.pending⟩ := by
  rw [Checked.fit_of_le (by rwa [size_results]), Checked.fit_of_le (by rwa [size_changed]),
    size_results, size_changed]
  simp only [columns, Array.map_append, Array.map_replicate]

theorem columns_cut {total : Nat} (h : total ≤ c.size) (pending : Option Nat) :
    LineCache.columns ⟨c.entries.take total, pending⟩ =
      ⟨Checked.fit c.columns.results total none, Checked.fit c.columns.changed total true,
        pending⟩ := by
  rw [Checked.fit_of_ge (by rwa [size_results]), Checked.fit_of_ge (by rwa [size_changed])]
  simp only [columns, Array.take_eq_extract, Array.map_extract]

/-- The columns of a cache are brought to the number of lines as the cache is. -/
theorem resize_columns (h : 0 < c.size) (lineCount : Nat) :
    c.columns.resize lineCount = some (c.resize lineCount).columns := by
  -- the last line that is kept is a line before and after
  have hfinish {d : LineCache} (hd : min c.size (max lineCount 1) - 1 < d.size) :
      (d.columns.touch (min c.size (max lineCount 1) - 1)).bind (fun v =>
          some (v.beginAt (min c.size (max lineCount 1) - 1))) =
        some ((d.touch (min c.size (max lineCount 1) - 1)).beginAt
          (min c.size (max lineCount 1) - 1)).columns := by
    rw [touch_columns hd, Option.bind_some, columns_beginAt]
  simp only [CacheColumns.resize, resize, size_results, pending_columns]
  split
  · rfl
  · -- neither number of lines is zero, so one can be taken from the smaller
    rw [Checked.sub_eq (by omega)]
    split
    · rw [← columns_grow (by omega)]
      refine hfinish ?_
      show _ < (c.entries ++ _).size
      rw [Array.size_append, Array.size_replicate]
      show _ < c.size + _
      omega
    · rw [← columns_cut (by omega)]
      refine hfinish ?_
      show _ < (c.entries.take _).size
      rw [Array.take_eq_extract, Array.size_extract]
      show _ < min _ c.size - 0
      omega

/-- No line to begin at is moved below the first one. -/
theorem shifted_columns (start stop newCount height : Nat) (pending : Option Nat) :
    CacheColumns.shifted start stop newCount height pending =
      some (shifted start stop newCount height pending) := by
  cases pending with
  | none => rfl
  | some first =>
    simp only [CacheColumns.shifted, shifted, Option.map_some]
    split
    · -- the line is behind the replaced ones
      rw [Checked.sub_eq ‹_›]
      simp only [Option.map_some, Option.bind_eq_bind, Option.bind_some, Option.filter]
      simp
    · simp [Option.filter]

/-- New entries that are marked take the place of the lines of an event in both columns. -/
theorem splice_columns {e : LineChange} (hstart : e.startLine ≤ e.endLine)
    (hstop : e.endLine ≤ c.size) {new : Array LineEntry}
    (hnew : new.map LineEntry.changed = Array.replicate new.size true) :
    c.columns.splice e (new.map LineEntry.result) =
      some (LineCache.columns ⟨splice c.entries e.startLine e.endLine new,
        shifted e.startLine e.endLine new.size
          (splice c.entries e.startLine e.endLine new).size c.pending⟩) := by
  have hresults : Checked.splice c.columns.results e.startLine e.endLine
      (new.map LineEntry.result) =
        some ((splice c.entries e.startLine e.endLine new).map LineEntry.result) := by
    rw [Checked.splice, if_pos ⟨hstart, by rwa [size_results]⟩, size_results]
    simp only [splice, columns, Array.map_append, Array.map_extract]
    rfl
  have hchanged : Checked.splice c.columns.changed e.startLine e.endLine
      (Array.replicate new.size true) =
        some ((splice c.entries e.startLine e.endLine new).map LineEntry.changed) := by
    rw [Checked.splice, if_pos ⟨hstart, by rwa [size_changed]⟩, size_changed, ← hnew]
    simp only [splice, columns, Array.map_append, Array.map_extract]
    rfl
  rw [CacheColumns.splice, hresults, Array.size_map, hchanged, pending_columns]
  simp only [Option.bind_eq_bind, Option.bind_some, shifted_columns, Array.size_map]
  rfl

/-- The result of the last line that an event replaces is one of the cache. -/
theorem baseline_columns {e : LineChange} (hstop : e.endLine ≤ c.size) :
    c.columns.baseline e =
      some (if e.startLine < e.endLine then c.result? (e.endLine - 1) else none) := by
  rw [CacheColumns.baseline]
  split
  · have hlast : e.endLine - 1 < c.entries.size := by
      show e.endLine - 1 < c.size
      omega
    rw [Checked.sub_eq (by omega)]
    simp only [Option.bind_eq_bind, Option.bind_some, getElem?_results, result?]
    rw [Array.getElem?_eq_getElem hlast]
    rfl
  · rfl

theorem map_result_newEntries (n : Nat) (baseline : Option CachedLine) :
    (newEntries n baseline).map LineEntry.result =
      (Array.replicate n none).modify (n - 1) fun _ => baseline := by
  have hmodify := Checked.map_modify (g := LineEntry.result) (k := fun _ => baseline)
    (Array.replicate n {}) (n - 1) (f := fun e => { e with result := baseline }) fun _ => rfl
  rwa [Array.map_replicate] at hmodify

theorem map_changed_newEntries (n : Nat) (baseline : Option CachedLine) :
    (newEntries n baseline).map LineEntry.changed =
      Array.replicate (newEntries n baseline).size true := by
  have hmodify := Checked.map_modify_of_eq (g := LineEntry.changed)
    (Array.replicate n {}) (n - 1) (f := fun e => { e with result := baseline }) fun _ => rfl
  rw [Array.map_replicate] at hmodify
  rw [size_newEntries]
  exact hmodify

/-- When lines have been removed, the line that takes their place is noted as changed, and there is
one unless they were the last. -/
theorem closeUp_columns (c : LineCache) (start lineCount : Nat) :
    (if c.columns.results.isEmpty then some (CacheColumns.new lineCount)
      else if start < c.columns.results.size then
        (c.columns.touch start).bind fun v => (v.beginAt start).resize lineCount
      else c.columns.resize lineCount) =
      some (if c.entries.isEmpty then new lineCount
        else (if start < c.size then (c.touch start).beginAt start else c).resize
          lineCount).columns := by
  have hresults : c.columns.results.isEmpty = c.entries.isEmpty := by
    rw [Array.isEmpty, Array.isEmpty, size_results]
    rfl
  rw [size_results, hresults]
  by_cases hempty : c.entries.isEmpty = true
  · rw [if_pos hempty, if_pos hempty, columns_new]
  · have hpos : 0 < c.size := by
      rw [Array.isEmpty_iff_size_eq_zero] at hempty
      exact Nat.pos_of_ne_zero hempty
    rw [if_neg hempty, if_neg hempty]
    split
    · rw [touch_columns ‹_›, Option.bind_some, ← columns_beginAt]
      exact resize_columns (by rwa [size_beginAt, size_touch]) lineCount
    · exact resize_columns hpos lineCount

/-- **The columns of a cache follow every event**, also one that does not fit the cache. -/
theorem replaceLines_columns (c : LineCache) (e : LineChange) (lineCount : Nat) :
    c.columns.replaceLines e lineCount = some (c.replaceLines e lineCount).columns := by
  simp only [CacheColumns.replaceLines, replaceLines, size_results, Bool.or_eq_true,
    decide_eq_true_eq]
  by_cases hfits : e.endLine < e.startLine ∨ c.size < e.endLine
  · rw [if_pos hfits, if_pos hfits, columns_new]
    rfl
  rw [if_neg hfits, if_neg hfits]
  have hstart : e.startLine ≤ e.endLine := by omega
  have hstop : e.endLine ≤ c.size := by omega
  by_cases hn : e.newLineCount = 0
  · -- lines are only removed, and the one that takes their place is noted, if there is one
    have hnone : (#[] : Array LineEntry).map LineEntry.changed = Array.replicate 0 true :=
      Array.map_empty
    have hsplice := splice_columns hstart hstop hnone
    rw [Array.map_empty] at hsplice
    rw [if_pos (beq_iff_eq.2 hn), if_pos (beq_iff_eq.2 hn), hsplice]
    simp only [Option.bind_eq_bind, Option.bind_some]
    exact closeUp_columns _ e.startLine lineCount
  · -- the last new line has something to be compared with
    rw [if_neg (by simpa using hn), if_neg (by simpa using hn), baseline_columns hstop,
      Checked.sub_eq (by omega)]
    simp only [Option.bind_eq_bind, Option.bind_some]
    rw [Checked.set_eq (by rw [Array.size_replicate]; omega), ← map_result_newEntries]
    simp only [Option.bind_some]
    rw [splice_columns hstart hstop (map_changed_newEntries _ _)]
    simp only [Option.bind_some]
    rw [← columns_beginAt, size_newEntries]
    refine resize_columns ?_ _
    rw [size_beginAt]
    refine Nat.lt_of_lt_of_eq ?_ (size_splice c.entries _ hstart hstop).symm
    rw [size_newEntries]
    omega

theorem columns_store (c : LineCache) (i : Nat) (line : CachedLine) :
    (c.store i line).columns =
      { c.columns with
        results := c.columns.results.modify i fun _ => some line
        changed := c.columns.changed.modify i fun _ => false } := by
  have hresults : (c.entries.modify i fun _ => ⟨some line, false⟩).map LineEntry.result =
      (c.entries.map LineEntry.result).modify i fun _ => some line :=
    Checked.map_modify c.entries i fun _ => rfl
  have hchanged : (c.entries.modify i fun _ => ⟨some line, false⟩).map LineEntry.changed =
      (c.entries.map LineEntry.changed).modify i fun _ => false :=
    Checked.map_modify c.entries i fun _ => rfl
  rw [store, columns, hresults, hchanged]
  rfl

/-- There is nothing to put in beyond the last line. -/
theorem store_of_size_le {i : Nat} (h : c.size ≤ i) (line : CachedLine) : c.store i line = c := by
  have hentries : c.entries.modify i (fun _ => ⟨some line, false⟩) = c.entries := by
    refine Array.ext_getElem? fun j => ?_
    rw [Array.getElem?_modify]
    split
    · rename_i hij
      subst hij
      rw [Array.getElem?_eq_none h]
      rfl
    · rfl
  rw [store, hentries]

/-- A new result is put into both columns, or into neither, and what it takes the place of is what
was known of the line. -/
theorem store_columns (c : LineCache) (i : Nat) (line : CachedLine) :
    c.columns.store i line = some (c.result? i, (c.store i line).columns) := by
  rw [CacheColumns.store, getElem?_results, result?]
  cases hentry : c.entries[i]? with
  | none =>
    rw [store_of_size_le (Array.getElem?_eq_none_iff.1 hentry)]
    rfl
  | some e =>
    have hi : i < c.size := (Array.getElem?_eq_some_iff.1 hentry).1
    rw [columns_store, Checked.set_eq (by rwa [size_changed]),
      Checked.set_eq (by rwa [size_results])]
    rfl

/-- The first changed line is looked for in the marks. -/
theorem firstChanged_eq_findIdx? {n i : Nat} (h : c.size ≤ i + n) :
    c.firstChanged n i =
      (((c.columns.changed.toList.drop i).findIdx? id).map (i + ·)) := by
  have hsize : c.columns.changed.toList.length = c.size := size_changed c
  induction n generalizing i with
  | zero =>
    rw [List.drop_eq_nil_of_le (by omega)]
    rfl
  | succ n ih =>
    rw [firstChanged]
    cases hentry : c.entries[i]? with
    | none =>
      have hi : c.size ≤ i := Array.getElem?_eq_none_iff.1 hentry
      rw [List.drop_eq_nil_of_le (by omega)]
      rfl
    | some e =>
      have hi : i < c.columns.changed.toList.length := by
        rw [hsize]
        exact (Array.getElem?_eq_some_iff.1 hentry).1
      have hmark : c.columns.changed.toList[i] = e.changed := by
        have hcolumn := getElem?_changed c i
        rw [hentry, ← Array.getElem?_toList, List.getElem?_eq_getElem hi] at hcolumn
        exact Option.some.inj hcolumn
      rw [List.drop_eq_getElem_cons hi, hmark, List.findIdx?_cons]
      cases hchanged : e.changed with
      | true => simp [hchanged]
      | false =>
        simp only [hchanged, id, Bool.false_eq_true, if_false, Option.map_map]
        rw [ih (by omega)]
        refine congrArg (Option.map · _) (funext fun k => ?_)
        show i + 1 + k = i + (k + 1)
        omega

/-- Tokenizing goes on at a line that is found in the marks. -/
theorem settle_columns (c : LineCache) (i : Nat) (converged : Bool) :
    c.columns.settle i converged = some (c.settle i converged).columns := by
  rw [CacheColumns.settle, size_results]
  simp only [settle]
  split
  · rfl
  · cases converged with
    | true =>
      rw [if_pos rfl, if_pos rfl, Checked.findFrom, if_pos (by rw [size_changed]; omega),
        ← firstChanged_eq_findIdx? (n := c.size - (i + 1)) (by omega)]
      rfl
    | false => rfl

end LineCache

/-! ### Any history -/

namespace IncrementalTokenizer

variable {lines : Lines} {d : IncrementalTokenizer}

/-- What an incremental tokenizer can be at any moment: events need not describe anything that has
been done, numbers of lines may be any, and so may the lines that it is shown each time.  Some
moments are in the midst of an operation, when the number of lines has been brought up to date, or
when one more line has been tokenized. -/
inductive Possible : IncrementalTokenizer → Prop where
  | new (g : Grammar) (config : Config) (lineCount : Nat) : Possible (new g config lineCount)
  | follow {d : IncrementalTokenizer} (e : LineChange) (lineCount : Nat) :
    Possible d → Possible (d.follow e lineCount)
  | resize {d : IncrementalTokenizer} (lines : Lines) :
    Possible d → Possible { d with cache := d.cache.resize lines.count }
  | step {d : IncrementalTokenizer} (lines : Lines) {i : Nat} :
    Possible d → d.cache.pending = some i → Possible (d.step lines i)
  | forget {d : IncrementalTokenizer} (lineCount : Nat) :
    Possible d → Possible (d.forget lineCount)
  | changeGrammar {d : IncrementalTokenizer} (g : Grammar) (lineCount : Nat) :
    Possible d → Possible (d.changeGrammar g lineCount)

/-- Passes are made of such moments. -/
theorem Possible.advance (h : Possible d) (lines : Lines) (budget : Nat) :
    Possible (d.advance lines budget).2 :=
  steps_induction (fun _ _ hd hi => hd.step lines hi) budget (h.resize lines)

theorem Possible.advanceSome (h : Possible d) (lines : Lines) :
    Possible (d.advanceSome lines).2 := h.advance lines _

theorem Possible.finish (h : Possible d) (lines : Lines) : Possible (d.finish lines).2 :=
  h.advance lines _

theorem Possible.tokens (h : Possible d) (lines : Lines) (i : Nat) :
    Possible (d.tokens lines i).2 := by
  simp only [IncrementalTokenizer.tokens]
  split
  · exact h.resize lines
  · exact stepsTo_induction (fun _ _ hd hj => hd.step lines hj) i (i + 1) (h.resize lines)

/-- Whatever an incremental tokenizer is told and shown, its cache is one that can be reached. -/
theorem Possible.reachable_cache (h : Possible d) : LineCache.Reachable d.cache := by
  induction h with
  | new _ _ lineCount => exact .new lineCount
  | follow e lineCount _ ih => exact ih.replaceLines e lineCount
  | resize lines _ ih => exact ih.resize lines.count
  | @step d lines i _ hi ih =>
    obtain ⟨line, converged, hcache⟩ := d.exists_cache_step lines i
    rw [hcache]
    exact ih.settle_store hi line converged
  | forget lineCount _ _ => exact .new lineCount
  | changeGrammar _ lineCount _ _ => exact .new lineCount

theorem Possible.wellFormed (h : Possible d) : d.cache.WellFormed := h.reachable_cache.wellFormed

/-- There are tokens of a line as soon as it is a line of the document. -/
theorem isSome_tokens (h : d.cache.WellFormed) (lines : Lines) (i : Nat) :
    (d.tokens lines i).1.isSome = true ↔ i < lines.count := by
  have hcount : max lines.count 1 = lines.count := Nat.max_eq_left (Nat.le_max_right _ 1)
  have hresize : (d.cache.resize lines.count).size = lines.count :=
    (d.cache.size_resize lines.count).trans hcount
  simp only [IncrementalTokenizer.tokens, hresize]
  split
  · exact iff_of_false (by simp) (by omega)
  · rename_i hlt
    refine iff_of_true ?_ (Nat.lt_of_not_le hlt)
    -- by then the line has been passed, so it is not changed, and so it has a result
    obtain ⟨hwell, hsize⟩ := stepsTo_induction
      (P := fun d => d.cache.WellFormed ∧ d.cache.size = lines.count)
      (fun d j hd hj => ⟨wellFormed_step hd.1 hj lines, (size_step d lines j).trans hd.2⟩) i (i + 1)
      (d := { d with cache := d.cache.resize lines.count }) ⟨h.resize lines.count, hresize⟩
    rw [Option.isSome_map, Option.isSome_iff_ne_none]
    intro hnone
    obtain ⟨p, hp, hle⟩ := hwell.exists_pending_le (hwell.changed_of_none i (by omega) hnone)
    have hpassed := lt_of_pending_stepsTo (fun p _ => by omega) p hp
    omega

/-- **Whatever an incremental tokenizer is told and shown, its columns keep their shape, nothing
goes out of range in them, and there are tokens of exactly the lines of the document.** -/
theorem Possible.shaped (h : Possible d) :
    d.cache.columns.Shaped ∧
      (∀ e lineCount, d.cache.columns.replaceLines e lineCount =
        some (d.cache.replaceLines e lineCount).columns) ∧
      (∀ lineCount, d.cache.columns.resize lineCount = some (d.cache.resize lineCount).columns) ∧
      (∀ i line, d.cache.columns.store i line =
        some (d.cache.result? i, (d.cache.store i line).columns)) ∧
      (∀ i line converged, (d.cache.store i line).columns.settle i converged =
        some ((d.cache.store i line).settle i converged).columns) ∧
      ∀ lines i, (d.tokens lines i).1.isSome = true ↔ i < lines.count :=
  ⟨h.wellFormed.shaped_columns, d.cache.replaceLines_columns,
    LineCache.resize_columns h.wellFormed.size_pos, d.cache.store_columns,
    fun i line => (d.cache.store i line).settle_columns i, isSome_tokens h.wellFormed⟩

/-- Two lines are said to be removed of a document of one line, after a pass that was shown three
lines; then another document is asked for its last line. -/
theorem shaped_misled :
    ((((new Grammar.elements {} 1).advance #["<a>", "x", "</a>"] 1).2.follow ⟨1, 3, 0⟩ 5).tokens
      #["x", "y"] 1).1.isSome = true := by
  have hrun : Possible
      (((new Grammar.elements {} 1).advance #["<a>", "x", "</a>"] 1).2.follow ⟨1, 3, 0⟩ 5) :=
    ((Possible.new _ _ 1).advance _ 1).follow _ 5
  exact (hrun.shaped.2.2.2.2.2 _ 1).2 (by decide)

end IncrementalTokenizer

end Highlight
