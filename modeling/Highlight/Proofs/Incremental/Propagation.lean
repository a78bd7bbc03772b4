import Highlight.Proofs.Incremental.Chunks
import Highlight.Proofs.Incremental.Equivalence

/-!
# How far an edit is propagated

After an edit of a document of which nothing is pending, a pass tokenizes the new lines, and the
lines behind them up to the first one after which the same rules are open as were before the edit
(`lastAffected`).  The last of the new lines is compared with the last line replaced, the lines
behind them each with itself at its former place (`LineChange.formerLine`); a new line before them
has nothing to be compared with.

`IncrementalTokenizer.Propagates` is what holds on the way: no line behind the new ones is changed,
and the lines that have not been reached have the results of the document before the edit.  A step
either keeps it for the next line (`IncrementalTokenizer.Propagates.step`) or ends the pass
(`IncrementalTokenizer.Propagates.idle_step`).
-/

namespace Highlight

/-! ### The last line affected -/

/-- Where a line behind the new ones was before an event.  The last of the new lines takes the place
of the last line replaced. -/
def LineChange.formerLine (e : LineChange) (i : Nat) : Nat :=
  i + (e.endLine - e.startLine) - e.newLineCount

/-- The rules open after a line of a document that is tokenized from its first line on. -/
def stateAfter? (g : Grammar) (config : Config) (lines : Lines) (i : Nat) : Option OpenRules :=
  (tokenizeAll g config lines)[i]?.map LineTokens.state

/-- After the last of the new lines, or a line behind it, the same rules are open as were before the
event. -/
def Rejoins (g : Grammar) (config : Config) (e : LineChange) (old new : Lines) (i : Nat) : Prop :=
  e.startLine + e.newLineCount ≤ i + 1 ∧
    stateAfter? g config new i = stateAfter? g config old (e.formerLine i)

instance (g : Grammar) (config : Config) (e : LineChange) (old new : Lines) (i : Nat) :
    Decidable (Rejoins g config e old new i) :=
  inferInstanceAs (Decidable (_ ∧ _))

/-- The first line after which the same rules are open as were before the event, or the last line if
there is none. -/
def lastAffected (g : Grammar) (config : Config) (e : LineChange) (old new : Lines) : Nat :=
  ((List.range new.count).find? fun i => Rejoins g config e old new i).getD (new.count - 1)

variable {g : Grammar} {config : Config} {e : LineChange} {old new lines : Lines} {i j : Nat}

theorem stateAfter?_eq (g : Grammar) (config : Config) (hi : i < lines.count) :
    stateAfter? g config lines i = some (outcomeAt g config lines i).endState := by
  rw [stateAfter?, getElem?_tokenizeAll g config lines hi]
  rfl

theorem lastAffected_lt : lastAffected g config e old new < new.count := by
  unfold lastAffected
  cases hfind : (List.range new.count).find? fun i => Rejoins g config e old new i with
  | none => exact Nat.sub_one_lt_of_lt (IncrementalTokenizer.count_pos new)
  | some i => exact List.mem_range.1 (List.mem_of_find?_eq_some hfind)

theorem rejoins_or_last :
    Rejoins g config e old new (lastAffected g config e old new) ∨
      lastAffected g config e old new + 1 = new.count := by
  unfold lastAffected
  cases hfind : (List.range new.count).find? fun i => Rejoins g config e old new i with
  | none => exact .inr (Nat.sub_one_add_one (Nat.ne_of_gt (IncrementalTokenizer.count_pos new)))
  | some i =>
    left
    rw [Option.getD_some]
    simpa using List.find?_some hfind

theorem not_rejoins_of_lt (hi : i < lastAffected g config e old new) :
    ¬ Rejoins g config e old new i := by
  have hlt := Nat.lt_trans hi lastAffected_lt
  unfold lastAffected at hi
  cases hfind : (List.range new.count).find? fun i => Rejoins g config e old new i with
  | none => simpa using List.find?_eq_none.1 hfind i (List.mem_range.2 hlt)
  | some j =>
    rw [hfind, Option.getD_some] at hi
    simpa using (List.find?_range_eq_some.1 hfind).2.2 i hi

/-- All new lines are affected. -/
theorem le_lastAffected (he : e.Describes old new) :
    e.startLine + e.newLineCount ≤ lastAffected g config e old new + 1 := by
  have hcount := he.count_eq
  have hstart := he.start_le
  have hstop := he.end_le
  rcases rejoins_or_last with hrejoins | hlast
  · exact hrejoins.1
  · omega

namespace IncrementalTokenizer

variable {d : IncrementalTokenizer}

/-! ### A document of which nothing is pending -/

/-- Where nothing is pending, the cache fits the document. -/
theorem Tracks.consistent_of_idle (h : Tracks g config lines d)
    (hidle : d.cache.pending = none) : d.cache.Consistent g config lines := by
  refine h.consistent_or_blank.resolve_right fun hblank => ?_
  -- without any results the first line is changed, and so some line is pending
  have hchanged := h.wellFormed.changed_of_none 0 h.wellFormed.size_pos (hblank 0)
  obtain ⟨p, hp, -⟩ := h.wellFormed.exists_pending_le hchanged
  exact absurd (hidle.symm.trans hp) (by simp)

theorem isChanged_of_idle (h : d.cache.WellFormed) (hidle : d.cache.pending = none) (i : Nat) :
    d.cache.isChanged i = false := by
  refine Bool.eq_false_iff.2 fun hchanged => ?_
  obtain ⟨p, hp, -⟩ := h.exists_pending_le hchanged
  exact absurd (hidle.symm.trans hp) (by simp)

/-- Where nothing is pending, what is known to be open after the lines is open after them. -/
theorem state_of_idle (h : d.cache.Consistent g config lines) (hidle : d.cache.pending = none)
    (hi : i < lines.count) :
    (d.cache.result? i).map CachedLine.endState = stateAfter? g config lines i := by
  rw [h.result?_eq (Nat.lt_of_lt_of_eq hi h.size_eq.symm) (by simp [hidle]),
    stateAfter?_eq g config hi]
  rfl

/-! ### On the way -/

/-- A pass has come to a line: no line behind the new ones is changed, and from this line on nothing
is known of the new lines, except what is known of the last of them and of the lines behind it: the
rules that were open after them before the event. -/
structure Propagates (g : Grammar) (config : Config) (e : LineChange) (old new : Lines) (j : Nat)
    (d : IncrementalTokenizer) : Prop where
  ready : Ready g config new d
  pending_eq : d.cache.pending = some j
  unchanged : ∀ i, e.startLine + e.newLineCount ≤ i → d.cache.isChanged i = false
  result_new : ∀ i, j ≤ i → i + 1 < e.startLine + e.newLineCount → d.cache.result? i = none
  state_former : ∀ i, j ≤ i → e.startLine + e.newLineCount ≤ i + 1 → i < new.count →
    (d.cache.result? i).map CachedLine.endState = stateAfter? g config old (e.formerLine i)

/-- The line that a pass has come to gets the outcome of the document. -/
theorem Ready.cache_step_eq (h : Ready g config lines d) (hi : d.cache.pending = some i) :
    (d.step lines i).cache = d.cache.put i (outcomeAt g config lines i) := by
  have hlt := h.consistent.wellFormed.pending_lt i hi
  have hbefore := h.consistent.before?_eq (Nat.le_of_lt hlt) fun p hp =>
    Nat.le_of_eq (Option.some.inj (hi.symm.trans hp))
  rw [cache_step h.serves, LineCache.incoming_eq hbefore]
  rfl

/-- The result for a line is compared with what was known of it: the same rules were open after it
just when the edit is not propagated further. -/
theorem Propagates.agrees_iff (h : Propagates g config e old new j d) :
    ((d.cache.result? j).any fun former =>
      former.endState.agrees (outcomeAt g config new j).endState) = true ↔
        Rejoins g config e old new j := by
  have hlt : j < new.count :=
    Nat.lt_of_lt_of_eq (h.ready.consistent.wellFormed.pending_lt j h.pending_eq)
      h.ready.consistent.size_eq
  rw [Option.any_eq_true]
  constructor
  · rintro ⟨former, hformer, hagrees⟩
    have hlast : e.startLine + e.newLineCount ≤ j + 1 := by
      refine Nat.le_of_not_lt fun hnew => ?_
      exact absurd ((h.result_new j (Nat.le_refl j) hnew).symm.trans hformer) (by simp)
    refine ⟨hlast, ?_⟩
    have hscoped : (outcomeAt g config new j).endState.Scoped g :=
      Tokenizer.scoped_outcome config _ (scoped_stateBefore g config new j)
    have hsame :=
      (h.ready.consistent.scoped_endState j former hformer).eq_of_agrees hscoped hagrees
    rw [← h.state_former j (Nat.le_refl j) hlast hlt, stateAfter?_eq g config hlt, hformer,
      ← hsame]
    rfl
  · rintro ⟨hlast, hstate⟩
    rw [← h.state_former j (Nat.le_refl j) hlast hlt, stateAfter?_eq g config hlt] at hstate
    obtain ⟨former, hformer, hsame⟩ := Option.map_eq_some_iff.1 hstate.symm
    refine ⟨former, hformer, ?_⟩
    rw [hsame]
    exact beq_self_eq_true _

/-- **The next line is tokenized if other rules are open after this one than were.** -/
theorem Propagates.step (h : Propagates g config e old new j d) (hnext : j + 1 < new.count)
    (hdiffers : ¬ Rejoins g config e old new j) :
    Propagates g config e old new (j + 1) (d.step new j) := by
  have hsize := h.ready.consistent.size_eq
  have hcache := h.ready.cache_step_eq h.pending_eq
  have hresult (i : Nat) (hi : j + 1 ≤ i) :
      (d.step new j).cache.result? i = d.cache.result? i := by
    rw [hcache, LineCache.result?_put_of_ne (by omega)]
  constructor
  case ready => exact h.ready.step h.pending_eq
  case pending_eq =>
    rw [hcache, LineCache.put, Bool.eq_false_iff.2 (mt h.agrees_iff.1 hdiffers)]
    simp only [LineCache.settle, LineCache.size_store]
    rw [if_neg (by omega)]
    rfl
  case unchanged =>
    intro i hi
    rw [hcache, LineCache.put, LineCache.isChanged_settle]
    by_cases hij : j = i
    · subst hij
      exact LineCache.isChanged_store_self (by omega) _
    · rw [LineCache.isChanged_congr (LineCache.getElem?_store_of_ne hij _)]
      exact h.unchanged i hi
  case result_new =>
    intro i hi hnew
    rw [hresult i hi]
    exact h.result_new i (Nat.le_of_succ_le hi) hnew
  case state_former =>
    intro i hi hlast hcount
    rw [hresult i hi]
    exact h.state_former i (Nat.le_of_succ_le hi) hlast hcount

/-- **The pass ends with a line after which the same rules are open as were**, since no line behind
it is changed, and at the end of the document. -/
theorem Propagates.idle_step (h : Propagates g config e old new j d)
    (hstop : Rejoins g config e old new j ∨ j + 1 = new.count) :
    (d.step new j).cache.pending = none := by
  have hsize := h.ready.consistent.size_eq
  rw [h.ready.cache_step_eq h.pending_eq]
  simp only [LineCache.put, LineCache.settle, LineCache.size_store]
  rcases hstop with hrejoins | hend
  · rw [if_pos (h.agrees_iff.2 hrejoins)]
    split
    · rfl
    · refine Option.eq_none_iff_forall_ne_some.2 fun p hp => ?_
      obtain ⟨hle, hchanged⟩ := LineCache.firstChanged_eq_some hp
      rw [LineCache.isChanged_congr (LineCache.getElem?_store_of_ne (by omega) _)] at hchanged
      have hunchanged := h.unchanged p (Nat.le_trans hrejoins.1 hle)
      exact absurd (hchanged.symm.trans hunchanged) (by simp)
  · rw [if_pos (by omega)]

/-- A pass goes on from line to line up to the one that ends it. -/
theorem Propagates.exists_visits {k : Nat} (h : Propagates g config e old new j d)
    (hlt : j + k < new.count)
    (hbefore : ∀ i, j ≤ i → i < j + k → ¬ Rejoins g config e old new i)
    (hstop : Rejoins g config e old new (j + k) ∨ j + k + 1 = new.count) :
    ∃ d', Visits new d (List.range' j (k + 1)) d' ∧ d'.cache.pending = none := by
  induction k generalizing j d with
  | zero => exact ⟨d.step new j, .cons h.pending_eq (.nil _), h.idle_step hstop⟩
  | succ k ih =>
    have hnext := h.step (by omega) (hbefore j (Nat.le_refl j) (by omega))
    have hshift : j + 1 + k = j + (k + 1) := by omega
    obtain ⟨d', hvisits, hidle⟩ := ih hnext (hshift ▸ hlt)
      (fun i hle hi => hbefore i (Nat.le_of_succ_le hle) (hshift ▸ hi)) (hshift ▸ hstop)
    exact ⟨d', .cons h.pending_eq hvisits, hidle⟩

/-! ### Behind an event -/

/-- An event is noted where nothing is pending: tokenizing is to begin at the first new line. -/
theorem propagates_follow (h : Tracks g config old d) (hidle : d.cache.pending = none)
    (he : e.Describes old new) (hlines : e.startLine < e.endLine) (hnew : 0 < e.newLineCount) :
    Propagates g config e old new e.startLine (d.follow e new.count) := by
  have hconsistent := h.consistent_of_idle hidle
  have hfits := hconsistent.fits he
  have hcount := he.count_eq
  have hsize := hconsistent.size_eq
  have hstop := he.end_le
  have hpos : 0 < new.count := count_pos new
  -- the first of the new lines is changed already
  have hcache : (d.follow e new.count).cache = (d.cache.spliced e).beginAt e.startLine := by
    have hchanged : (d.cache.spliced e).isChanged e.startLine = true := by
      rw [LineCache.isChanged, ← Nat.add_zero e.startLine, hfits.getElem?_spliced_add_start hnew]
      rfl
    show d.cache.replaceLines e new.count = _
    rw [hfits.replaceLines_eq, LineCache.touch_eq_self fun _ => hchanged,
      LineCache.resize_eq_self]
    rw [LineCache.size_beginAt, hfits.size_spliced]
    omega
  have hbegins : (d.cache.spliced e).beginAt e.startLine =
      { d.cache.spliced e with pending := some e.startLine } := by
    have hnone : (d.cache.spliced e).pending = none := by
      rw [LineCache.spliced, hidle]
      rfl
    rw [LineCache.beginAt, if_neg, hnone]
    rw [hfits.size_spliced]
    omega
  have hentries : (d.follow e new.count).cache.entries = (d.cache.spliced e).entries := by
    rw [hcache, hbegins]
  constructor
  case ready =>
    exact ⟨h.serves, h.config_eq, hconsistent.replaceLines he⟩
  case pending_eq => rw [hcache, hbegins]
  case unchanged =>
    intro i hi
    obtain ⟨k, rfl⟩ := Nat.exists_eq_add_of_le hi
    have hentry := (congrArg (·[_]?) hentries).trans (hfits.getElem?_spliced_add k)
    rw [LineCache.isChanged_congr hentry]
    exact isChanged_of_idle h.wellFormed hidle _
  case result_new =>
    intro i hi hlt
    obtain ⟨k, rfl⟩ := Nat.exists_eq_add_of_le hi
    rw [LineCache.result?, hentries, hfits.getElem?_spliced_add_start (by omega),
      if_neg (by omega)]
    rfl
  case state_former =>
    intro i hi hlast hlt
    have hformer : e.formerLine i < old.count := by
      unfold LineChange.formerLine
      omega
    rw [← state_of_idle hconsistent hidle hformer]
    congr 1
    rcases Nat.lt_or_ge i (e.startLine + e.newLineCount) with hi' | hi'
    · -- the last of the new lines has the result of the last line replaced
      obtain ⟨k, rfl⟩ := Nat.exists_eq_add_of_le hi
      have hlastLine : e.formerLine (e.startLine + k) = e.endLine - 1 := by
        unfold LineChange.formerLine
        omega
      rw [LineCache.result?, hentries, hfits.getElem?_spliced_add_start (by omega),
        if_pos (by omega), if_pos hlines, hlastLine]
      rfl
    · obtain ⟨k, rfl⟩ := Nat.exists_eq_add_of_le hi'
      have hmoved : e.formerLine (e.startLine + e.newLineCount + k) = e.endLine + k := by
        unfold LineChange.formerLine
        omega
      rw [hmoved]
      exact LineCache.result?_congr
        ((congrArg (·[_]?) hentries).trans (hfits.getElem?_spliced_add k))

/-- **An edit is propagated up to the first line after which the same rules are open as were, and no
further.**  Where nothing was pending before an accurate event, a pass to the end visits the lines
from the first one replaced up to that line, each of them once, and all other lines have the results
that they had, at the places where they are now. -/
theorem Reachable.finish_follow (h : Reachable config g old d) (hidle : d.cache.pending = none)
    (he : e.Describes old new) (hlines : e.startLine < e.endLine) (hnew : 0 < e.newLineCount) :
    let last := lastAffected g config e old new
    let d' := d.follow e new.count
    (d'.finish new).1 = last - e.startLine + 1 ∧
      Visits new d' (List.range' e.startLine (last - e.startLine + 1)) (d'.finish new).2 ∧
      (∀ i < e.startLine, (d'.finish new).2.cache.result? i = d.cache.result? i) ∧
      ∀ i, last < i → (d'.finish new).2.cache.result? i = d.cache.result? (e.formerLine i) := by
  intro last d'
  have hconsistent := h.tracks.consistent_of_idle hidle
  have hfits := hconsistent.fits he
  have hpropagates := propagates_follow h.tracks hidle he hlines hnew
  have hsize := hpropagates.ready.consistent.size_eq
  have hle : e.startLine + e.newLineCount ≤ last + 1 := le_lastAffected he
  have hlast : e.startLine + (last - e.startLine) = last := by omega
  obtain ⟨d'', hvisits, hdone⟩ := hpropagates.exists_visits (k := last - e.startLine)
    (by rw [hlast]; exact lastAffected_lt)
    (fun i _ hi => not_rejoins_of_lt (by rwa [hlast] at hi))
    (by rw [hlast]; exact rejoins_or_last)
  have hfinish : d'.finish new = (last - e.startLine + 1, d'') := by
    have hsteps := hvisits.steps_eq
    rw [List.length_range'] at hsteps
    rw [finish_eq, shapedFor_eq_self hsize, ← hsteps]
    refine steps_eq_of_idle (idle_steps_size new (count_pos new) (Nat.le_of_eq hsize)) ?_
    rw [hsteps]
    exact hdone
  rw [hfinish]
  have hcount : new.count = d.cache.size - (e.endLine - e.startLine) + e.newLineCount := by
    rw [hconsistent.size_eq, he.count_eq]
  obtain ⟨hfollows, -⟩ := h.tracks.wellFormed.follows_replaceLines hfits hcount
  have houtside (i : Nat) (hi : i < e.startLine ∨ last < i) :
      d''.cache.result? i = d'.cache.result? i := by
    refine hvisits.result?_eq fun hmem => ?_
    rw [List.mem_range'_1] at hmem
    omega
  refine ⟨rfl, hvisits, fun i hi => ?_, fun i hi => ?_⟩
  · exact (houtside i (.inl hi)).trans (hfollows.result_before i hi)
  · obtain ⟨k, rfl⟩ : ∃ k, i = e.startLine + e.newLineCount + k :=
      Nat.exists_eq_add_of_le (by omega)
    have hmoved : e.formerLine (e.startLine + e.newLineCount + k) = e.endLine + k := by
      unfold LineChange.formerLine
      omega
    rw [hmoved]
    exact (houtside _ (.inr hi)).trans (hfollows.result_after k)

/-- A line is put before the first one, and what it opens is closed two lines below: the last line
is not visited. -/
theorem finish_follow_elements :
    ((((IncrementalTokenizer.new Grammar.elements {} 3).finish #["x", "</a>", "z"]).2.follow
      ⟨0, 1, 2⟩ 4).finish #["<a>", "x", "</a>", "z"]).1 = 3 := by
  have hevent : (LineChange.mk 0 1 2).Describes #["x", "</a>", "z"] #["<a>", "x", "</a>", "z"] := by
    constructor
    case start_le => decide
    case end_le => decide
    case count_eq => decide
    case before => exact fun i hi => absurd hi (Nat.not_lt_zero i)
    case after =>
      rintro (_ | _ | k)
      · rfl
      · rfl
      · simp [Lines.text, Nat.add_comm]
  have hrun : Reachable {} Grammar.elements #["x", "</a>", "z"]
      ((IncrementalTokenizer.new Grammar.elements {} 3).finish #["x", "</a>", "z"]).2 :=
    .finish (.new _ _ 3)
  have hlast : lastAffected Grammar.elements {} ⟨0, 1, 2⟩ #["x", "</a>", "z"]
      #["<a>", "x", "</a>", "z"] = 2 := by
    decide +kernel
  have hvisited := (hrun.finish_follow (idle_finish _ _) hevent (by decide) (by decide)).1
  rw [hlast] at hvisited
  exact hvisited

end IncrementalTokenizer

end Highlight
