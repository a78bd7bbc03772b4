import Highlight.Grammar.Table
import Highlight.Proofs.Tokenizer.Memory
import Highlight.Proofs.Tokenizer.Search
import Mathlib.Data.List.Nodup
import Mathlib.Data.List.Perm.Subperm
import Mathlib.Tactic.Ring

/-!
# How many rounds a line takes

Tokenizing a line goes from one moment to the next (`Moment.next?`), and `Moment.Onward` says once
what a round can do that does not end the line.  Along with the moments goes which of the rules that
are open were opened in the line without a character, and where; the tokenizer does not need this.

Every such round makes a measure less (`Moment.WellFormed.measure_lt`): it takes a character, or
else it closes a rule that was not opened right there, or it opens one more rule there.  Of the last
kind there are at most as many as rules, as long as no rule stands twice at one place
(`Moment.WellFormed.length_here_le`).  So a line in which this never happens stays within a limit
that depends on the line, the rules open before it and the number of rules alone
(`Tokenizer.tokenize_ne_stepLimitExceeded`).  Nothing keeps it from happening, though: the guard
against a rule that is opened twice compares the depths of the two, and they are never the same
(`Moment.WellFormed.enter_eq_more`).
-/

namespace Highlight

/-- A span that begins at or after a place, does not end before it begins, and lies inside a
line. -/
structure Span.Within (s : Span) (pos size : Nat) : Prop where
  le_start : pos ≤ s.start
  start_le_stop : s.start ≤ s.stop
  stop_le : s.stop ≤ size

theorem Span.Within.le_stop {s : Span} {pos size : Nat} (h : s.Within pos size) : pos ≤ s.stop :=
  h.le_start.trans h.start_le_stop

/-- What a search finds ahead, and inside a line, is so as a whole. -/
theorem Match.Ahead.within {found : Match} {line : Line} {pos : Nat} (h : found.Ahead pos)
    (hinside : found.Inside line) (hpos : pos ≤ line.size) :
    (found.wholeAt pos).Within pos line.size := by
  unfold Match.wholeAt
  cases hspan : found.whole? with
  | none => exact ⟨Nat.le_refl pos, Nat.le_refl pos, hpos⟩
  | some span => exact ⟨(h span hspan).1, (h span hspan).2, (hinside 0 span hspan).2⟩

/-- A moment between two rounds: how far the line has come, the rules that are still open and were
opened in the line without a character, and what is remembered. -/
structure Moment where
  progress : LineProgress
  standing : List Opened := []
  caches : Caches

namespace Moment

variable {g : Grammar} {line : Line} {text : String} {m m' : Moment}

/-- No rule stands twice at one place. -/
def Distinct (m : Moment) : Prop := (m.standing.map fun o => (o.rule, o.offset)).Nodup

instance : DecidablePred Distinct := fun m =>
  inferInstanceAs (Decidable (m.standing.map fun o => (o.rule, o.offset)).Nodup)

/-- The rules that stand when a search has had the given answer. -/
def standingAfter (g : Grammar) (m : Moment) : Option (Hit × Match) → List Opened
  | none => m.standing
  | some (.ending, _) => m.standing.filter fun o => o.depth < m.progress.stack.length
  | some (.rule id, found) =>
    let whole := found.wholeAt m.progress.pos
    match g.rule? id with
    | some (.span _) =>
      if whole.isEmpty then ⟨id, m.progress.stack.length + 1, whole.stop⟩ :: m.standing
      else m.standing
    | _ => m.standing

/-- The moment after a round, unless the round ends the line. -/
def next? (g : Grammar) (line : Line) (m : Moment) : Option Moment :=
  match (Scan.next g line m.progress.pos m.progress.stack).run.run m.caches with
  | (.error _, _) => none
  | (.ok answer, _) =>
    match Tokenizer.follow g line m.progress answer with
    | .done _ => none
    | .more p =>
      some ⟨p, m.standingAfter g answer, ((Tokenizer.round g line m.progress).run.run m.caches).2⟩

/-- The moments of a number of rounds, from the given one on. -/
def run (g : Grammar) (line : Line) : Nat → Moment → List Moment
  | 0, m => [m]
  | n + 1, m =>
    m :: match m.next? g line with
      | none => []
      | some m => run g line n m

theorem mem_run_self (n : Nat) : m ∈ m.run g line n := by
  cases n <;> exact List.mem_cons_self

/-! ### One round -/

/-- There is a next moment if a search succeeds and its answer does not end the line. -/
theorem exists_answer (h : m.next? g line = some m') : ∃ answer c p,
    (Scan.next g line m.progress.pos m.progress.stack).run.run m.caches = (.ok answer, c) ∧
      Tokenizer.follow g line m.progress answer = .more p ∧
      m' = ⟨p, m.standingAfter g answer,
        ((Tokenizer.round g line m.progress).run.run m.caches).2⟩ := by
  unfold next? at h
  split at h
  · exact absurd h (by simp)
  · rename_i answer c hrun
    split at h
    · exact absurd h (by simp)
    · rename_i p hfollow
      exact ⟨answer, c, p, hrun, hfollow, (Option.some.inj h).symm⟩

/-- What a round does that goes on behind the match at the given place. -/
inductive Onward (g : Grammar) (m : Moment) (whole : Span) (m' : Moment) : Prop where
  /-- A rule is closed, and not one that was opened here if no character is taken. -/
  | close (ne_nil : m.progress.stack ≠ []) (stack_eq : m'.progress.stack = m.progress.stack.tail)
    (opened_eq : m'.progress.opened = m.progress.opened)
    (standing_eq : m'.standing = m.standing.filter fun o => o.depth < m.progress.stack.length)
    (not_opened : whole.isEmpty = true → ∀ o ∈ m.progress.opened,
      o.depth = m.progress.stack.length → o.offset ≠ whole.stop)
  /-- A text is taken. -/
  | take (stack_eq : m'.progress.stack = m.progress.stack)
    (opened_eq : m'.progress.opened = m.progress.opened) (standing_eq : m'.standing = m.standing)
    (not_isEmpty : whole.isEmpty = false)
  /-- A rule is opened. -/
  | enter (f : OpenRule) (rule_lt : f.rule < g.ruleCount)
    (stack_eq : m'.progress.stack = f :: m.progress.stack)
    (opened_eq : m'.progress.opened =
      ⟨f.rule, m.progress.stack.length + 1, whole.stop⟩ :: m.progress.opened)
    (standing_eq : m'.standing =
      if whole.isEmpty then ⟨f.rule, m.progress.stack.length + 1, whole.stop⟩ :: m.standing
      else m.standing)

/-- A round that does not end the line goes on behind a match that lies ahead. -/
theorem exists_onward (hpos : m.progress.pos ≤ (Line.ofString text).size)
    (h : m.next? g (Line.ofString text) = some m') :
    ∃ whole : Span, whole.Within m.progress.pos (Line.ofString text).size ∧
      m'.progress.pos = whole.stop ∧ Onward g m whole m' := by
  obtain ⟨answer, c, p, hrun, hfollow, rfl⟩ := exists_answer h
  have hanswer := congrArg Prod.fst hrun
  match answer with
  | none => exact absurd hfollow (by simp [Tokenizer.follow])
  | some (hit, found) =>
    have hahead := Scan.ensures_next_ahead g text _ _ _ _ hanswer hit found rfl
    obtain ⟨-, hinside, hopen⟩ := Scan.ensures_next g
      (Line.offset_ofString_le text) _ _ _ _ hanswer hit found rfl
    refine ⟨found.wholeAt m.progress.pos, hahead.within hinside hpos, ?_⟩
    cases hit with
    | ending =>
      rw [Tokenizer.follow, Tokenizer.close] at hfollow
      split at hfollow
      · exact absurd hfollow (by simp)
      · rename_i hguard
        obtain rfl := Round.more.inj hfollow
        refine ⟨rfl, .close (hopen rfl) rfl rfl rfl fun hempty o ho hdepth hoffset => ?_⟩
        refine hguard ?_
        rw [hempty, Bool.true_and, List.any_eq_true]
        exact ⟨o, ho, by simp [hdepth, hoffset]⟩
    | rule id =>
      rw [Tokenizer.follow] at hfollow
      split at hfollow
      · -- a text
        rename_i rule hrule
        rw [Tokenizer.take] at hfollow
        split at hfollow
        · exact absurd hfollow (by simp)
        · rename_i hempty
          obtain rfl := Round.more.inj hfollow
          refine ⟨rfl, .take rfl rfl ?_ (by simpa using hempty)⟩
          simp only [standingAfter, hrule]
      · -- a beginning
        rename_i rule hrule
        rw [Tokenizer.enter] at hfollow
        split at hfollow
        · exact absurd hfollow (by simp)
        · obtain rfl := Round.more.inj hfollow
          refine ⟨rfl, .enter _ (Array.getElem?_eq_some_iff.1 hrule).1 rfl rfl ?_⟩
          simp only [standingAfter, hrule]
      · exact absurd hfollow (by simp)

/-- A rule of the grammar that was opened in the line, and is open at its depth. -/
structure Stands (g : Grammar) (p : LineProgress) (o : Opened) : Prop where
  mem_opened : o ∈ p.opened
  rule_lt : o.rule < g.ruleCount
  suffix : ∃ f below, f :: below <:+ p.stack ∧ f.rule = o.rule ∧ below.length + 1 = o.depth

/-- What is open below the innermost rule stays open when that is closed. -/
theorem Stands.tail {p q : LineProgress} {o : Opened} (h : Stands g p o)
    (hdepth : o.depth < p.stack.length) (hstack : q.stack = p.stack.tail)
    (hopened : q.opened = p.opened) : Stands g q o := by
  obtain ⟨f, below, hsuffix, hrule, hbelow⟩ := h.suffix
  refine ⟨hopened ▸ h.mem_opened, h.rule_lt, f, below, ?_, hrule, hbelow⟩
  cases hp : p.stack with
  | nil => exact absurd hdepth (by simp [hp])
  | cons top rest =>
    rw [hp] at hsuffix hdepth
    rw [hstack, hp]
    rcases List.suffix_cons_iff.1 hsuffix with heq | hsuffix
    · -- the innermost rule is not the one that stands
      have hlength := congrArg List.length heq
      simp only [List.length_cons] at hlength hdepth
      omega
    · exact hsuffix

/-- What is open stays open when one more rule is opened. -/
theorem Stands.push {p q : LineProgress} {o x : Opened} {f : OpenRule} (h : Stands g p o)
    (hstack : q.stack = f :: p.stack) (hopened : q.opened = x :: p.opened) : Stands g q o := by
  obtain ⟨f', below, hsuffix, hrule, hbelow⟩ := h.suffix
  constructor
  case mem_opened =>
    rw [hopened]
    exact List.mem_cons_of_mem _ h.mem_opened
  case rule_lt => exact h.rule_lt
  case suffix =>
    rw [hstack]
    exact ⟨f', below, hsuffix.trans (List.suffix_cons _ _), hrule, hbelow⟩

/-- What was opened in the line was opened at or before the place that has been reached, and what
was opened right there is not above the innermost rule. -/
structure WellFormed (g : Grammar) (size : Nat) (m : Moment) : Prop where
  pos_le : m.progress.pos ≤ size
  offset_le : ∀ o ∈ m.progress.opened, o.offset ≤ m.progress.pos
  depth_le : ∀ o ∈ m.progress.opened,
    o.offset = m.progress.pos → o.depth ≤ m.progress.stack.length
  stands : ∀ o ∈ m.standing, Stands g m.progress o

theorem wellFormed_start (g : Grammar) (size : Nat) (state : OpenRules) (c : Caches) :
    WellFormed g size ⟨{ stack := state }, [], c⟩ where
  pos_le := Nat.zero_le size
  offset_le := fun _ ho => absurd ho List.not_mem_nil
  depth_le := fun _ ho => absurd ho List.not_mem_nil
  stands := fun _ ho => absurd ho List.not_mem_nil

variable {size : Nat} {whole : Span}

/-- What was opened before and where a match ends was opened right here, and the match takes no
character. -/
theorem WellFormed.isEmpty_of_opened (h : WellFormed g size m)
    (hwhole : whole.Within m.progress.pos size) {o : Opened} (ho : o ∈ m.progress.opened)
    (hoffset : o.offset = whole.stop) :
    whole.isEmpty = true ∧ o.offset = m.progress.pos := by
  have hback := h.offset_le o ho
  have hstart := hwhole.le_start
  have hstop := hwhole.start_le_stop
  refine ⟨?_, by omega⟩
  simp only [Span.isEmpty, decide_eq_true_eq]
  omega

/-- A round keeps this: where it goes on without a character, it closes only a rule that was not
opened there. -/
theorem WellFormed.onward (h : WellFormed g size m) (hwhole : whole.Within m.progress.pos size)
    (hpos : m'.progress.pos = whole.stop) (hm : Onward g m whole m') : WellFormed g size m' := by
  have hle : m.progress.pos ≤ m'.progress.pos := by
    rw [hpos]
    exact hwhole.le_stop
  have hpos_le : m'.progress.pos ≤ size := by
    rw [hpos]
    exact hwhole.stop_le
  have hoffset (o : Opened) (ho : o ∈ m.progress.opened) : o.offset ≤ m'.progress.pos :=
    (h.offset_le o ho).trans hle
  have hdepth (o : Opened) (ho : o ∈ m.progress.opened) (heq : o.offset = m'.progress.pos) :
      o.depth ≤ m.progress.stack.length :=
    h.depth_le o ho (h.isEmpty_of_opened hwhole ho (heq.trans hpos)).2
  cases hm with
  | close hne hstack hopened hstanding hnot =>
    refine ⟨hpos_le, by rwa [hopened], ?_, fun o ho => ?_⟩
    · rw [hopened, hstack, List.length_tail]
      intro o ho heq
      have hempty := (h.isEmpty_of_opened hwhole ho (heq.trans hpos)).1
      have hne := mt (hnot hempty o ho) (not_not.2 (heq.trans hpos))
      have hle := hdepth o ho heq
      omega
    · rw [hstanding] at ho
      obtain ⟨ho, hlt⟩ := List.mem_filter.1 ho
      exact (h.stands o ho).tail (by simpa using hlt) hstack hopened
  | take hstack hopened hstanding _ =>
    refine ⟨hpos_le, by rwa [hopened], by rwa [hopened, hstack], fun o ho => ?_⟩
    obtain ⟨hmem, hlt, hsuffix⟩ := h.stands o (hstanding ▸ ho)
    exact ⟨hopened ▸ hmem, hlt, hstack ▸ hsuffix⟩
  | enter f hrule hstack hopened hstanding =>
    refine ⟨hpos_le, ?_, ?_, fun o ho => ?_⟩
    · rw [hopened]
      exact List.forall_mem_cons.2 ⟨hpos.ge, hoffset⟩
    · rw [hopened, hstack, List.length_cons]
      exact List.forall_mem_cons.2 ⟨fun _ => Nat.le_refl _, fun o ho heq =>
        Nat.le_succ_of_le (hdepth o ho heq)⟩
    · have hold (ho : o ∈ m.standing) : Stands g m'.progress o :=
        (h.stands o ho).push hstack hopened
      rw [hstanding] at ho
      split at ho
      · rcases List.mem_cons.1 ho with rfl | ho
        · exact ⟨hopened ▸ List.mem_cons_self, hrule, f, m.progress.stack, hstack ▸ List.suffix_rfl,
            rfl, rfl⟩
        · exact hold ho
      · exact hold ho

theorem WellFormed.next? (h : WellFormed g (Line.ofString text).size m)
    (hm : m.next? g (Line.ofString text) = some m') :
    WellFormed g (Line.ofString text).size m' := by
  obtain ⟨whole, hwhole, hpos, honward⟩ := exists_onward h.pos_le hm
  exact h.onward hwhole hpos honward

theorem WellFormed.of_mem_run (h : WellFormed g (Line.ofString text).size m) {n : Nat}
    (hm : m' ∈ m.run g (Line.ofString text) n) : WellFormed g (Line.ofString text).size m' := by
  induction n generalizing m with
  | zero =>
    obtain rfl := List.mem_singleton.1 hm
    exact h
  | succ n ih =>
    rw [run] at hm
    rcases List.mem_cons.1 hm with rfl | hm
    · exact h
    · split at hm
      · exact absurd hm List.not_mem_nil
      · exact ih (h.next? ‹_›) hm

/-- A rule that was opened at the place that has been reached is not opened above itself there, so
every beginning opens its rule. -/
theorem WellFormed.enter_eq_more (h : WellFormed g size m) {found : Match}
    (hfound : found.Ahead m.progress.pos) (line : Line) (id : RuleId) (rule : SpanRule) :
    ∃ q, Tokenizer.enter g line m.progress id rule (found.wholeAt m.progress.pos) found =
      .more q := by
  have hle : m.progress.pos ≤ (found.wholeAt m.progress.pos).stop := by
    unfold Match.wholeAt
    cases hspan : found.whole? with
    | none => exact Nat.le_refl _
    | some span => exact (hfound span hspan).1.trans (hfound span hspan).2
  have hnot : ⟨id, m.progress.stack.length + 1, (found.wholeAt m.progress.pos).stop⟩ ∉
      m.progress.opened := by
    intro hmem
    have hoffset := h.offset_le _ hmem
    have hdepth := h.depth_le _ hmem (Nat.le_antisymm hoffset hle)
    exact absurd hdepth (Nat.not_succ_le_self _)
  rw [Tokenizer.enter, if_neg (by simp [hnot])]
  exact ⟨_, rfl⟩

/-! ### The measure -/

/-- The rules that stand at the place that has been reached. -/
def here (m : Moment) : List Opened := m.standing.filter fun o => o.offset == m.progress.pos

/-- What every round makes less: the characters that are left, the rules that do not stand here yet,
and the rules that are open. -/
def measure (g : Grammar) (size : Nat) (m : Moment) : Nat :=
  (2 * g.ruleCount + 2) * (size - m.progress.pos) + 2 * (g.ruleCount - m.here.length) +
    m.progress.stack.length

/-- There are only so many rules that can stand at one place without one of them twice. -/
theorem WellFormed.length_here_le (h : WellFormed g size m) (hdistinct : m.Distinct) :
    m.here.length ≤ g.ruleCount := by
  have hpairs : (m.here.map fun o => (o.rule, o.offset)).Nodup :=
    hdistinct.sublist (List.filter_sublist.map _)
  -- two rules that stand here are told apart by the rule, as the place is the same
  have hnodup : (m.here.map Opened.rule).Nodup := by
    have hrules : m.here.map Opened.rule =
        (m.here.map fun o => (o.rule, o.offset)).map Prod.fst := by
      rw [List.map_map]
      rfl
    rw [hrules]
    refine hpairs.map_on fun x hx y hy hxy => Prod.ext hxy ?_
    obtain ⟨a, ha, rfl⟩ := List.mem_map.1 hx
    obtain ⟨b, hb, rfl⟩ := List.mem_map.1 hy
    exact (beq_iff_eq.1 (List.mem_filter.1 ha).2).trans (beq_iff_eq.1 (List.mem_filter.1 hb).2).symm
  have hsubset : m.here.map Opened.rule ⊆ List.range g.ruleCount := by
    intro id hid
    obtain ⟨o, ho, rfl⟩ := List.mem_map.1 hid
    exact List.mem_range.2 ((h.stands o (List.mem_of_mem_filter ho)).rule_lt)
  have hle := (hnodup.subperm hsubset).length_le
  rwa [List.length_map, List.length_range] at hle

/-- **Every round that does not end the line makes the measure less.** -/
theorem WellFormed.measure_lt (h : WellFormed g size m) (hwhole : whole.Within m.progress.pos size)
    (hpos : m'.progress.pos = whole.stop) (hm : Onward g m whole m')
    (hhere : m'.here.length ≤ g.ruleCount) : m'.measure g size < m.measure g size := by
  have hstart := hwhole.le_start
  have hstop := hwhole.start_le_stop
  have hsize := hwhole.stop_le
  rcases Nat.lt_or_ge m.progress.pos whole.stop with hlt | hge
  · -- a character is taken, and at most one rule opened
    have hlength : m'.progress.stack.length ≤ m.progress.stack.length + 1 := by
      cases hm with
      | close _ hstack =>
        rw [hstack, List.length_tail]
        omega
      | take hstack =>
        rw [hstack]
        exact Nat.le_succ _
      | enter _ _ hstack =>
        rw [hstack]
        exact Nat.le_refl _
    have hleft : size - m'.progress.pos + 1 ≤ size - m.progress.pos := by omega
    have hmul := Nat.mul_le_mul_left (2 * g.ruleCount + 2) hleft
    rw [Nat.mul_add_one] at hmul
    unfold measure
    omega
  · -- no character is taken
    have hsame : m'.progress.pos = m.progress.pos := by omega
    have hempty : whole.isEmpty = true := by
      simp only [Span.isEmpty, decide_eq_true_eq]
      omega
    cases hm with
    | close hne hstack hopened hstanding hnot =>
      -- what stands here stays, and there is one rule less
      have hhere_eq : m'.here = m.here := by
        rw [here, here, hstanding, hsame, List.filter_filter]
        refine List.filter_congr fun o ho => ?_
        rw [Bool.and_eq_left_iff_imp, decide_eq_true_eq]
        intro hoffset
        have hoffset : o.offset = m.progress.pos := beq_iff_eq.1 hoffset
        have hopened := (h.stands o ho).mem_opened
        have hdepth := h.depth_le o hopened hoffset
        have hne := mt (hnot hempty o hopened) (not_not.2 (by omega))
        omega
      have hlength := List.length_pos_iff.2 hne
      unfold measure
      rw [hhere_eq, hsame, hstack, List.length_tail]
      omega
    | take _ _ _ hnot => exact absurd (hnot.symm.trans hempty) (by simp)
    | enter f _ hstack _ hstanding =>
      -- one more rule stands here
      have hhere_eq : m'.here.length = m.here.length + 1 := by
        rw [here, here, hstanding, if_pos hempty, List.filter_cons_of_pos (by simp [hpos]), hsame]
        rfl
      unfold measure
      rw [hsame, hstack, List.length_cons]
      omega

/-! ### Runs -/

/-- Rounds go on from the next moment. -/
theorem run_rounds_of_next? {limit n : Nat} (h : m.next? g line = some m') :
    (Tokenizer.rounds g line limit (n + 1) m.progress).run.run m.caches =
      (Tokenizer.rounds g line limit n m'.progress).run.run m'.caches := by
  obtain ⟨answer, d, q, hrun, hfollow, rfl⟩ := exists_answer h
  have hanswer := (Tokenizer.run_round_of_ok hrun).trans (congrArg Except.ok hfollow)
  rcases hround : (Tokenizer.round g line m.progress).run.run m.caches with ⟨r, c⟩
  rw [hround] at hanswer
  obtain rfl : r = .ok (.more q) := hanswer
  rw [Tokenizer.rounds, Scan.run_bind_ok hround]

/-- Where there is no next moment a search has failed, or the line is done. -/
theorem run_rounds_of_next?_eq_none (h : m.next? g line = none) (limit n : Nat) :
    (∃ e c, (Scan.next g line m.progress.pos m.progress.stack).run.run m.caches = (.error e, c) ∧
        ((Tokenizer.rounds g line limit (n + 1) m.progress).run.run m.caches).1 = .error e) ∨
      ∃ answer c p,
        (Scan.next g line m.progress.pos m.progress.stack).run.run m.caches = (.ok answer, c) ∧
          Tokenizer.follow g line m.progress answer = .done p ∧
          ((Tokenizer.rounds g line limit (n + 1) m.progress).run.run m.caches).1 = .ok p := by
  rw [Tokenizer.rounds]
  rcases hrun : (Scan.next g line m.progress.pos m.progress.stack).run.run m.caches with
    ⟨e | answer, c⟩
  · refine .inl ⟨e, c, rfl, ?_⟩
    rw [Scan.run_bind_error (Tokenizer.run_round_of_error hrun)]
  · cases hfollow : Tokenizer.follow g line m.progress answer with
    | more p => exact absurd h (by simp [next?, hrun, hfollow])
    | done p =>
      refine .inr ⟨answer, c, p, rfl, hfollow, ?_⟩
      have hround := (Tokenizer.run_round_of_ok hrun).trans (congrArg Except.ok hfollow)
      rw [Scan.run_bind_ok (Prod.ext hround rfl)]
      rfl

/-- A run ends before the measure does. -/
theorem WellFormed.ne_stepLimitExceeded (h : WellFormed g (Line.ofString text).size m) {n : Nat}
    (hdistinct : ∀ u ∈ m.run g (Line.ofString text) n, u.Distinct)
    (hn : m.measure g (Line.ofString text).size < n) (limit limit' offset : Nat) :
    ((Tokenizer.rounds g (Line.ofString text) limit n m.progress).run.run m.caches).1 ≠
      .error (.stepLimitExceeded limit' offset) := by
  induction n generalizing m with
  | zero => exact absurd hn (Nat.not_lt_zero _)
  | succ n ih =>
    cases hnext : m.next? g (Line.ofString text) with
    | none =>
      intro herror
      rcases run_rounds_of_next?_eq_none hnext limit n with
        ⟨e, c, hrun, hfails⟩ | ⟨answer, c, p, -, -, hends⟩
      · -- a search fails for other reasons
        obtain ⟨cause, rfl⟩ := Scan.fails_next g _ _ _ _ _ (congrArg Prod.fst hrun)
        exact absurd (hfails.symm.trans herror) (by simp)
      · exact absurd (hends.symm.trans herror) (by simp)
    | some m' =>
      have hrun : m.run g (Line.ofString text) (n + 1) = m :: m'.run g (Line.ofString text) n := by
        rw [run, hnext]
      rw [hrun] at hdistinct
      have hdistinct' := (List.forall_mem_cons.1 hdistinct).2
      have h' := h.next? hnext
      -- no rule stands twice at the next moment, so the measure has become less
      obtain ⟨whole, hwhole, hpos, honward⟩ := exists_onward h.pos_le hnext
      have hlt := h.measure_lt hwhole hpos honward
        (h'.length_here_le (hdistinct' m' (mem_run_self n)))
      rw [run_rounds_of_next? hnext]
      exact ih h' hdistinct' (by omega)

end Moment

/-! ### Lines -/

namespace Tokenizer

/-- The moments of tokenizing a line. -/
def moments (t : Tokenizer) (text : String) (state : OpenRules) : List Moment :=
  Moment.run t.grammar (Line.ofString text) t.stepLimit
    ⟨{ stack := state }, [], t.caches.forgetStarts⟩

variable {t : Tokenizer} {text : String} {state : OpenRules}

theorem wellFormed_of_mem_moments {m : Moment} (h : m ∈ t.moments text state) :
    m.WellFormed t.grammar (Line.ofString text).size :=
  (Moment.wellFormed_start _ _ state _).of_mem_run h

/-- Only rounds can be too many. -/
theorem tokenizeShort_ne_stepLimitExceeded {g : Grammar} {limit limit' offset : Nat} {c : Caches}
    (h : ((rounds g (Line.ofString text) limit limit { stack := state }).run.run
      c.forgetStarts).1 ≠ .error (.stepLimitExceeded limit' offset)) :
    ((tokenizeShort g limit text state).run.run c).1 ≠
      .error (.stepLimitExceeded limit' offset) := by
  cases hstate : state.find? fun f => (g.rule? f.rule).isNone with
  | some f =>
    rw [tokenizeShort, hstate]
    simp only [Scan.run_throw]
    simp
  | none =>
    rw [run_tokenizeShort hstate]
    intro herror
    cases hrounds : ((rounds g (Line.ofString text) limit limit { stack := state }).run.run
      c.forgetStarts).1 with
    | error e =>
      rw [hrounds] at herror h
      exact h (congrArg Except.error (Except.error.inj herror))
    | ok p =>
      rw [hrounds] at herror
      exact absurd herror (by simp [Except.map])

/-- **No beginning ends a line, and a line in which no rule stands twice at one place takes at most
so many rounds.** -/
theorem tokenize_ne_stepLimitExceeded (t : Tokenizer) (text : String) (state : OpenRules) :
    (∀ m ∈ t.moments text state, ∀ id rule found c,
      (Scan.next t.grammar (Line.ofString text) m.progress.pos m.progress.stack).run.run m.caches =
          (.ok (some (.rule id, found)), c) →
        t.grammar.rule? id = some (.span rule) →
          ∃ q, follow t.grammar (Line.ofString text) m.progress (some (.rule id, found)) =
            .more q) ∧
      ((∀ m ∈ t.moments text state, m.Distinct) →
        state.length + 3 * (text.utf8ByteSize + 1) * (t.grammar.ruleCount + 1) ≤ t.stepLimit →
          ∀ limit offset,
            (t.tokenize text state).1 ≠ .error (.stepLimitExceeded limit offset)) := by
  constructor
  · intro m hm id rule found c hrun hrule
    have hahead := Scan.ensures_next_ahead t.grammar text _ _ _ _ (congrArg Prod.fst hrun) _ _ rfl
    obtain ⟨q, hq⟩ := (wellFormed_of_mem_moments hm).enter_eq_more hahead
      (Line.ofString text) id rule
    exact ⟨q, by rw [follow, hrule]; exact hq⟩
  · intro hdistinct hlimit limit offset
    have hmeasure : Moment.measure t.grammar (Line.ofString text).size
        ⟨{ stack := state }, [], t.caches.forgetStarts⟩ < t.stepLimit := by
      refine Nat.lt_of_lt_of_le ?_ hlimit
      show (2 * t.grammar.ruleCount + 2) * text.utf8ByteSize + 2 * t.grammar.ruleCount +
        state.length < _
      have hleft : (2 * t.grammar.ruleCount + 2) * text.utf8ByteSize =
          2 * (t.grammar.ruleCount * text.utf8ByteSize) + 2 * text.utf8ByteSize := by ring
      have hright : 3 * (text.utf8ByteSize + 1) * (t.grammar.ruleCount + 1) =
          3 * (t.grammar.ruleCount * text.utf8ByteSize) + 3 * text.utf8ByteSize +
            3 * t.grammar.ruleCount + 3 := by ring
      omega
    unfold tokenize
    split
    · simp
    · exact tokenizeShort_ne_stepLimitExceeded
        ((Moment.wellFormed_start _ _ state _).ne_stepLimitExceeded hdistinct hmeasure _ _ _)

end Tokenizer

/-! ### A rule that begins anywhere -/

/-- A rule with an end of its own. -/
def Rule.span? : Rule → Option SpanRule
  | .span rule => some rule
  | .matching _ | .group _ => none

theorem Rule.exists_of_any_span? {rule? : Option Rule} {p : SpanRule → Bool}
    (h : (rule?.bind span?).any p = true) : ∃ rule, rule? = some (.span rule) ∧ p rule = true := by
  obtain ⟨rule, hrule, hp⟩ := (Option.any_eq_true _ _).1 h
  obtain ⟨r, rfl, hspan⟩ := Option.bind_eq_some_iff.1 hrule
  cases r with
  | matching => exact absurd hspan (by simp [span?])
  | group => exact absurd hspan (by simp [span?])
  | span rule' =>
    obtain rfl := Option.some.inj hspan
    exact ⟨rule', rfl, hp⟩

/-- A rule that begins without a character, with the given rules in it. -/
@[irreducible] def Grammar.anywhere (inner : List WrittenRule) : Grammar :=
  ((Grammar.compile
    { scopeName := "text"
      patterns := [.including "#any"]
      repository := [("any", {
        beginPattern := some ""
        endPattern := some "y"
        name := some "any"
        patterns := inner })] } []).toOption).getD default

namespace Tokenizer

/-- Where the rule does not stand in itself, it is opened at the beginning of the line, and the line
is done in as many rounds as it may take. -/
theorem tokenize_ne_stepLimitExceeded_anywhere :
    (∃ rule q, (Grammar.anywhere []).rule? 1 = some (.span rule) ∧
        follow (Grammar.anywhere []) (Line.ofString "x") { stack := [] }
          (some (.rule 1, ⟨#[some ⟨0, 0⟩]⟩)) = .more q) ∧
      (∀ m ∈ (Tokenizer.new (Grammar.anywhere []) { stepLimitPerLine := 18 }).moments "x" [],
        m.Distinct) ∧
      ∀ limit offset,
        ((Tokenizer.new (Grammar.anywhere []) { stepLimitPerLine := 18 }).tokenize "x" []).1 ≠
          .error (.stepLimitExceeded limit offset) := by
  have htokenize := tokenize_ne_stepLimitExceeded
    (Tokenizer.new (Grammar.anywhere []) { stepLimitPerLine := 18 }) "x" []
  have hsearch : ((Scan.next (Grammar.anywhere []) (Line.ofString "x") 0 []).run.run {}).1 =
      .ok (some (.rule 1, ⟨#[some ⟨0, 0⟩]⟩)) := by
    decide +kernel
  have hspan : (((Grammar.anywhere []).rule? 1).bind Rule.span?).any (fun _ => true) = true := by
    decide +kernel
  have hdistinct : ∀ m ∈ (Tokenizer.new (Grammar.anywhere []) { stepLimitPerLine := 18 }).moments
      "x" [], m.Distinct := by
    decide +kernel
  refine ⟨?_, hdistinct, htokenize.2 hdistinct (by decide +kernel)⟩
  obtain ⟨rule, hrule, -⟩ := Rule.exists_of_any_span? hspan
  obtain ⟨q, hq⟩ := htokenize.1 _ (Moment.mem_run_self _) 1 rule _ _ (Prod.ext hsearch rfl) hrule
  exact ⟨rule, q, hrule, hq⟩

/-- Where the rule stands in itself, the line takes more rounds than that: the rule is opened again
and again at the beginning of the line. -/
theorem stepLimitExceeded_anywhere :
    0 + 3 * ("x".utf8ByteSize + 1) * ((Grammar.anywhere [.including "#any"]).ruleCount + 1) ≤ 18 ∧
      ((Tokenizer.new (Grammar.anywhere [.including "#any"])
          { stepLimitPerLine := 18 }).tokenize "x" []).1 = .error (.stepLimitExceeded 18 0) ∧
      ¬ ∀ m ∈ (Tokenizer.new (Grammar.anywhere [.including "#any"])
          { stepLimitPerLine := 18 }).moments "x" [], m.Distinct :=
  ⟨by decide +kernel, by decide +kernel, by decide +kernel⟩

end Tokenizer

end Highlight
