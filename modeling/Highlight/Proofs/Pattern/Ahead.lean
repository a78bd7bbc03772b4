import Highlight.Proofs.Pattern.Spans

/-!
# Matches lie ahead

A match that a search finds does not begin before the place where the search does, and does not end
before it begins (`Matcher.ahead_of_find?`): no character before the first one at or after a byte
offset is tried (`Line.le_offset_index`), a run of a program remembers no position before the one
where it began (`Pattern.Program.le_of_run`), and later characters begin at later offsets
(`Line.offset_ofString_mono`).
-/

namespace Highlight

/-! ### Characters and offsets -/

/-- Bisection ends before an entry that exceeds `v`, or behind the last one. -/
theorem CharSet.lt_getD_countUpTo {points : Array Nat} {v n lo hi : Nat} (hle : lo ≤ hi)
    (hn : hi ≤ lo + n) (hhi : hi < points.size → v < points.getD hi 0)
    (hlt : countUpTo points v n lo hi < points.size) :
    v < points.getD (countUpTo points v n lo hi) 0 := by
  induction n generalizing lo hi with
  | zero =>
    obtain rfl : lo = hi := by omega
    exact hhi hlt
  | succ n ih =>
    rw [countUpTo] at hlt ⊢
    by_cases hempty : lo < hi
    · rw [if_pos hempty] at hlt ⊢
      simp only at hlt ⊢
      by_cases hmid : points.getD ((lo + hi) / 2) 0 ≤ v
      · rw [if_pos hmid] at hlt ⊢
        exact ih (by omega) (by omega) hhi hlt
      · rw [if_neg hmid] at hlt ⊢
        exact ih (by omega) (by omega) (fun _ => Nat.lt_of_not_le hmid) hlt
    · obtain rfl : lo = hi := by omega
      rw [if_neg hempty] at hlt ⊢
      exact hhi hlt

namespace Line

/-- The first character at or after a byte offset does not begin before it. -/
theorem le_offset_index (l : Line) {offset : Nat} (h : offset ≤ l.size) :
    offset ≤ l.offset (l.index offset) := by
  cases offset with
  | zero => exact Nat.zero_le _
  | succ b =>
    rw [index, Line.offset]
    by_cases hlt : CharSet.countUpTo l.offsets b l.offsets.size 0 l.offsets.size < l.offsets.size
    · have hentry := CharSet.lt_getD_countUpTo (Nat.zero_le _) (by omega)
        (fun hself => absurd hself (Nat.lt_irrefl _)) hlt
      rw [Array.getD_eq_getD_getElem?, Array.getElem?_eq_getElem hlt] at hentry ⊢
      exact hentry
    · rw [Array.getD_eq_getD_getElem?, Array.getElem?_eq_none (Nat.le_of_not_lt hlt)]
      exact h

theorem le_of_offsetsFrom {start x : Nat} {cs : List Char} (h : x ∈ offsetsFrom start cs) :
    start ≤ x := by
  induction cs generalizing start with
  | nil => exact absurd h List.not_mem_nil
  | cons c cs ih =>
    rcases List.mem_cons.1 h with rfl | h
    · exact Nat.le_refl _
    · exact Nat.le_of_add_right_le (ih h)

theorem pairwise_offsetsFrom (start : Nat) (cs : List Char) :
    (offsetsFrom start cs).Pairwise (· ≤ ·) := by
  induction cs generalizing start with
  | nil => exact .nil
  | cons c cs ih =>
    exact .cons (fun x hx => Nat.le_of_add_right_le (le_of_offsetsFrom hx)) (ih _)

/-- Later characters begin at later offsets. -/
theorem offset_ofString_mono (text : String) {i j : Nat} (hij : i ≤ j) :
    (ofString text).offset i ≤ (ofString text).offset j := by
  by_cases hj : j < (ofString text).offsets.size
  · have hi : i < (ofString text).offsets.size := Nat.lt_of_le_of_lt hij hj
    simp only [offset, Array.getD_eq_getD_getElem?, Array.getElem?_eq_getElem hi,
      Array.getElem?_eq_getElem hj, Option.getD_some]
    rcases Nat.lt_or_eq_of_le hij with hlt | rfl
    · exact List.pairwise_iff_getElem.1 (pairwise_offsetsFrom 0 text.toList) i j hi hj hlt
    · exact Nat.le_refl _
  · -- behind the last character there is the end of the line
    have hend : (ofString text).offset j = (ofString text).size := by
      rw [offset, Array.getD_eq_getD_getElem?, Array.getElem?_eq_none (Nat.le_of_not_lt hj)]
      rfl
    rw [hend]
    exact offset_ofString_le text i

end Line

/-! ### Runs of programs -/

namespace Pattern

/-- A thread is nowhere before a position, and remembers none before it. -/
structure Thread.From (origin : Nat) (t : Thread) : Prop where
  le_position : origin ≤ t.position
  le_slots : ∀ k q, t.slots.getD k none = some q → origin ≤ q

namespace Program

/-- No thread goes back. -/
theorem le_of_runThreads {code : Code} {text : Array Char} {origin fuel : Nat}
    {threads : List Thread} {marks : Marks} {slots : Array (Option Nat)}
    (hthreads : ∀ t ∈ threads, t.From origin)
    (h : runThreads code text origin fuel threads marks = some slots) {k q : Nat}
    (hk : slots.getD k none = some q) : origin ≤ q := by
  induction fuel generalizing threads marks with
  | zero => exact absurd h (by simp [runThreads])
  | succ fuel ih =>
    cases threads with
    | nil => exact absurd h (by simp [runThreads])
    | cons t others =>
      obtain ⟨ht, hothers⟩ := List.forall_mem_cons.1 hthreads
      have hcons {t' : Thread} (ht' : t'.From origin) : ∀ u ∈ t' :: others, u.From origin :=
        List.forall_mem_cons.2 ⟨ht', hothers⟩
      rw [runThreads] at h
      split at h
      · exact ih hothers h
      · exact ih hothers h
      · obtain rfl := Option.some.inj h
        exact ht.le_slots k q hk
      · -- a character is taken
        split at h
        · exact ih hothers h
        · split at h
          · refine ih (hcons ?_) h
            exact ⟨Nat.le_succ_of_le ht.le_position, ht.le_slots⟩
          · exact ih hothers h
      · split at h
        · refine ih (hcons ?_) h
          exact ⟨ht.le_position, ht.le_slots⟩
        · exact ih hothers h
      · -- the position is remembered
        rename_i slot next _
        refine ih (hcons ?_) h
        refine ⟨ht.le_position, fun k q hkq => ?_⟩
        rw [Array.getD_eq_getD_getElem?, Array.getElem?_setIfInBounds] at hkq
        split at hkq
        · split at hkq
          · obtain rfl := Option.some.inj hkq
            exact ht.le_position
          · exact absurd hkq (by simp)
        · exact ht.le_slots k q (by rwa [Array.getD_eq_getD_getElem?])
      · simp only at h
        split at h
        · exact ih hothers h
        · refine ih (List.forall_mem_cons.2 ⟨?_, hcons ?_⟩) h
          · exact ⟨ht.le_position, ht.le_slots⟩
          · exact ⟨ht.le_position, ht.le_slots⟩

/-- A run remembers no position before the one where it began. -/
theorem le_of_run {p : Program} {text : Array Char} {start : Nat} {slots : Array (Option Nat)}
    (h : p.run text start = some slots) {k q : Nat} (hk : slots.getD k none = some q) :
    start ≤ q := by
  refine le_of_runThreads (fun t ht => ?_) h hk
  obtain rfl := List.mem_singleton.1 ht
  refine ⟨Nat.le_refl start, fun k q hkq => ?_⟩
  rw [Array.getD_eq_getD_getElem?, Array.getElem?_replicate] at hkq
  split at hkq <;> exact absurd hkq (by simp)

end Program

end Pattern

/-! ### Matches -/

/-- A match does not begin before a byte offset, and does not end before it begins. -/
def Match.Ahead (found : Match) (pos : Nat) : Prop :=
  ∀ span, found.whole? = some span → pos ≤ span.start ∧ span.start ≤ span.stop

theorem Match.Ahead.mono {found : Match} {pos pos' : Nat} (h : found.Ahead pos')
    (hle : pos ≤ pos') : found.Ahead pos :=
  fun span hspan => ⟨hle.trans (h span hspan).1, (h span hspan).2⟩

namespace Matcher

variable {m : Matcher} {text : String} {found : Match}

/-- A match at a character begins there or behind. -/
theorem ahead_of_matchAt? {i : Nat} (h : m.matchAt? (Line.ofString text) i = some found) :
    found.Ahead ((Line.ofString text).offset i) := by
  intro span hspan
  rw [matchAt?] at h
  split at h
  · obtain ⟨slots, hrun, rfl⟩ := Option.map_eq_some_iff.1 h
    have hgroup : (spans (Line.ofString text) slots)[0]? = some (some span) :=
      Option.join_eq_some_iff.1 hspan
    rw [spans, Array.getElem?_ofFn] at hgroup
    -- both slots of the whole match are set, in this order
    split at hgroup
    · rw [Option.some.injEq] at hgroup
      split at hgroup
      · rename_i start stop hstart _
        split at hgroup
        · rename_i hle
          rw [Option.some.injEq] at hgroup
          subst hgroup
          exact ⟨Line.offset_ofString_mono text (Pattern.Program.le_of_run hrun hstart),
            Line.offset_ofString_mono text hle⟩
        · exact absurd hgroup (by simp)
      · exact absurd hgroup (by simp)
    · exact absurd hgroup (by simp)
  · exact absurd h (by simp)

theorem ahead_of_findFrom? {n i : Nat} (h : m.findFrom? (Line.ofString text) n i = some found) :
    found.Ahead ((Line.ofString text).offset i) := by
  induction n generalizing i with
  | zero => exact absurd h (by simp [findFrom?])
  | succ n ih =>
    rw [findFrom?] at h
    split at h
    · obtain rfl := Option.some.inj h
      exact ahead_of_matchAt? ‹_›
    · exact (ih h).mono (Line.offset_ofString_mono text (Nat.le_succ i))

/-- **A match that is found from a byte offset on does not begin before it.** -/
theorem ahead_of_find? {offset : Nat} (h : m.find? (Line.ofString text) offset = some found) :
    found.Ahead offset := by
  rw [find?] at h
  split at h
  · exact (ahead_of_findFrom? h).mono (Line.le_offset_index _ ‹_›)
  · exact absurd h (by simp)

theorem le_of_findStart? {offset start : Nat}
    (h : m.findStart? (Line.ofString text) offset = some start) : offset ≤ start := by
  obtain ⟨found, hfound, hstart⟩ := Option.bind_eq_some_iff.1 h
  obtain ⟨span, hspan, rfl⟩ := Option.map_eq_some_iff.1 hstart
  exact (ahead_of_find? hfound span hspan).1

end Matcher

end Highlight
