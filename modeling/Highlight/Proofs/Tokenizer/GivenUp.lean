import Highlight.Proofs.Tokenizer.OpenRules
import Highlight.Proofs.Tokenizer.StepLimit

/-!
# Where a line is given up

A line is done when nothing matches any more, and it is given up at some matches that take no
character, whatever still matches behind them.  Which these are is said with the beginnings of the
rules that are open (`Moment.trace`): a text for a rule without an end, and the end of a rule that
was opened in the line by a beginning which ended at the same place (`Tokenizer.GivesUp`).  A rule
that has been closed already is never taken for one that is open
(`Moment.Began.exists_head_of_mem_opened`), and nothing else ends a line
(`Tokenizer.tokenize_givenUp`).

It does not matter whether the beginning took a character.  So a rule with an empty end gives up
the line even where it was opened by some text (`Tokenizer.givesUp_behind_text`).
-/

namespace Highlight

/-- Whether a round ends the line. -/
def Round.isDone : Round → Bool
  | .done _ => true
  | .more _ => false

/-! ### Single rounds -/

namespace Tokenizer

variable {g : Grammar} {line : Line} {p : LineProgress} {whole : Span} {found : Match}

theorem isDone_close_iff : (close g p whole found).isDone = true ↔
    whole.isEmpty = true ∧ ∃ o ∈ p.opened, o.depth = p.stack.length ∧ o.offset = whole.stop := by
  have hguard : (whole.isEmpty && p.opened.any fun o =>
      o.depth == p.stack.length && o.offset == whole.stop) = true ↔
        whole.isEmpty = true ∧
          ∃ o ∈ p.opened, o.depth = p.stack.length ∧ o.offset = whole.stop := by
    simp
  rw [← hguard, close]
  split
  · rename_i hdone
    exact iff_of_true rfl hdone
  · rename_i hmore
    exact iff_of_false (by simp [Round.isDone]) hmore

theorem opened_close (g : Grammar) (p : LineProgress) (whole : Span) (found : Match) :
    (close g p whole found).progress.opened = p.opened := by
  unfold close
  split <;> rfl

theorem pos_close (h : (close g p whole found).isDone = false) :
    (close g p whole found).progress.pos = whole.stop := by
  unfold close at h ⊢
  split at h
  · exact absurd h (by simp [Round.isDone])
  · rw [if_neg ‹_›]
    rfl

theorem isDone_take (g : Grammar) (p : LineProgress) (rule : MatchRule) (whole : Span)
    (found : Match) : (take g p rule whole found).isDone = whole.isEmpty := by
  unfold take
  split
  · exact (‹_› : whole.isEmpty = true).symm
  · exact (Bool.eq_false_iff.2 ‹_›).symm

theorem opened_take (g : Grammar) (p : LineProgress) (rule : MatchRule) (whole : Span)
    (found : Match) : (take g p rule whole found).progress.opened = p.opened := by
  unfold take
  split <;> rfl

theorem pos_take {rule : MatchRule} (h : whole.isEmpty = false) :
    (take g p rule whole found).progress.pos = whole.stop := by
  rw [take, if_neg (by simp [h])]
  rfl

theorem exists_progress_enter {id : RuleId} {rule : SpanRule}
    (h : (enter g line p id rule whole found).isDone = false) :
    ∃ f, (enter g line p id rule whole found).progress.stack = f :: p.stack ∧
      (enter g line p id rule whole found).progress.opened =
        ⟨id, p.stack.length + 1, whole.stop⟩ :: p.opened ∧
      (enter g line p id rule whole found).progress.pos = whole.stop := by
  simp only [enter] at h ⊢
  split at h
  · exact absurd h (by simp [Round.isDone])
  · rw [if_neg ‹_›]
    exact ⟨_, rfl, rfl, rfl⟩

end Tokenizer

/-- What is found for a rule is found with the pattern of the rule. -/
theorem Scan.ensures_next_matcher (g : Grammar) (line : Line) (pos : Nat) (stack : OpenRules) :
    Ensures (next g line pos stack) fun answer => ∀ id found, answer = some (.rule id, found) →
      ∃ matcher, (g.rule? id).bind Rule.matcher? = some matcher := by
  unfold next
  split
  · exact ensures_pure fun id found h => absurd h (by simp)
  · refine ensures_of_bind fun ending => ensures_of_bind fun best => ?_
    split
    · exact ensures_pure fun id found h => absurd h (by simp)
    · rename_i start hit
      refine ensures_pure fun id found h => ?_
      obtain ⟨found', hfound, hpair⟩ := Option.map_eq_some_iff.1 h
      obtain ⟨rfl, -⟩ := Prod.mk.inj hpair
      obtain ⟨matcher, hmatcher, -⟩ := Option.bind_eq_some_iff.1 hfound
      exact ⟨matcher, hmatcher⟩

/-! ### The beginnings of the open rules -/

namespace Moment

variable {g : Grammar} {line : Line} {text : String} {m m' : Moment}
  {began : List (Option Span)}

/-- The beginnings of the rules that are open, innermost first, when a search has had the given
answer; none for a rule that was open before the line. -/
def beganAfter (g : Grammar) (m : Moment) (began : List (Option Span)) :
    Option (Hit × Match) → List (Option Span)
  | none => began
  | some (.ending, _) => began.tail
  | some (.rule id, found) =>
    match g.rule? id with
    | some (.span _) => some (found.wholeAt m.progress.pos) :: began
    | _ => began

/-- The moments of a number of rounds, each with the beginnings of the rules that are open then. -/
def trace (g : Grammar) (line : Line) :
    Nat → Moment → List (Option Span) → List (Moment × List (Option Span))
  | 0, m, began => [(m, began)]
  | n + 1, m, began =>
    (m, began) ::
      match ((Scan.next g line m.progress.pos m.progress.stack).run.run m.caches).1,
          m.next? g line with
      | .ok answer, some m' => trace g line n m' (m.beganAfter g began answer)
      | _, _ => []

theorem mem_trace_self (n : Nat) : (m, began) ∈ m.trace g line n began := by
  cases n <;> exact List.mem_cons_self

/-- There is a beginning for each open rule.  One in the line is noted with its depth and where it
ended; and what is noted as opened right here is still open. -/
structure Began (m : Moment) (began : List (Option Span)) : Prop where
  length_eq : began.length = m.progress.stack.length
  exists_opened : ∀ span outer, some span :: outer <:+ began →
    ∃ o ∈ m.progress.opened, o.depth = outer.length + 1 ∧ o.offset = span.stop
  exists_began : ∀ o ∈ m.progress.opened, o.offset = m.progress.pos →
    ∃ span outer, some span :: outer <:+ began ∧ o.depth = outer.length + 1 ∧ o.offset = span.stop

theorem began_start (state : OpenRules) (c : Caches) :
    Began ⟨{ stack := state }, [], c⟩ (state.map fun _ => none) where
  length_eq := List.length_map _
  exists_opened span outer h := by
    have hmem : some span ∈ state.map fun _ => none := h.subset List.mem_cons_self
    simp at hmem
  exists_began o ho := absurd ho List.not_mem_nil

/-- Of the rules noted as opened, the one at the depth of the innermost rule that was opened right
here is the innermost rule itself. -/
theorem Began.exists_head_of_mem_opened (h : Began m began) {o : Opened}
    (ho : o ∈ m.progress.opened) (hpos : o.offset = m.progress.pos)
    (hdepth : o.depth = m.progress.stack.length) :
    ∃ span, began.head? = some (some span) ∧ span.stop = o.offset := by
  obtain ⟨span, outer, hsuffix, houter, hstop⟩ := h.exists_began o ho hpos
  have hlength : (some span :: outer).length = began.length := by
    rw [h.length_eq, ← hdepth, houter, List.length_cons]
  rw [← hsuffix.eq_of_length hlength]
  exact ⟨span, rfl, hstop.symm⟩

theorem Began.exists_opened_of_head (h : Began m began) {span : Span}
    (hhead : began.head? = some (some span)) : ∃ o ∈ m.progress.opened,
      o.depth = m.progress.stack.length ∧ o.offset = span.stop := by
  obtain ⟨outer, rfl⟩ := List.head?_eq_some_iff.1 hhead
  obtain ⟨o, ho, hdepth, hoffset⟩ := h.exists_opened span outer List.suffix_rfl
  exact ⟨o, ho, by rw [hdepth, ← h.length_eq, List.length_cons], hoffset⟩

section Round

variable {size : Nat} {whole : Span} {found : Match}

/-- Closing a rule drops its beginning.  It was not opened here, or else the line would be done. -/
theorem Began.close (h : Began m began) (hm : WellFormed g size m)
    (hwhole : whole.Within m.progress.pos size)
    (hmore : (Tokenizer.close g m.progress whole found).isDone = false)
    (hp : m'.progress = (Tokenizer.close g m.progress whole found).progress) :
    Began m' began.tail := by
  constructor
  case length_eq =>
    rw [hp, Tokenizer.stack_close, List.length_tail, List.length_tail, h.length_eq]
  case exists_opened =>
    intro span outer hsuffix
    rw [hp, Tokenizer.opened_close]
    exact h.exists_opened span outer (hsuffix.trans (List.tail_suffix began))
  case exists_began =>
    intro o ho hpos
    rw [hp, Tokenizer.opened_close] at ho
    rw [hp, Tokenizer.pos_close hmore] at hpos
    obtain ⟨hempty, hhere⟩ := hm.isEmpty_of_opened hwhole ho hpos
    obtain ⟨span, outer, hsuffix, hdepth, hstop⟩ := h.exists_began o ho hhere
    refine ⟨span, outer, ?_, hdepth, hstop⟩
    -- were it the innermost rule, the guard would have ended the line
    have hnot : o.depth ≠ m.progress.stack.length := fun heq =>
      Bool.eq_false_iff.1 hmore (Tokenizer.isDone_close_iff.2 ⟨hempty, o, ho, heq, hpos⟩)
    cases began with
    | nil => exact absurd (List.suffix_nil.1 hsuffix) (List.cons_ne_nil _ _)
    | cons first rest =>
      rcases List.suffix_cons_iff.1 hsuffix with heq | hrest
      · refine absurd ?_ hnot
        rw [hdepth, ← h.length_eq, ← heq, List.length_cons]
      · exact hrest

/-- A text that is taken leaves nothing opened where it ends. -/
theorem Began.take (h : Began m began) (hm : WellFormed g size m)
    (hwhole : whole.Within m.progress.pos size) {rule : MatchRule}
    (hmore : (Tokenizer.take g m.progress rule whole found).isDone = false)
    (hp : m'.progress = (Tokenizer.take g m.progress rule whole found).progress) :
    Began m' began := by
  rw [Tokenizer.isDone_take] at hmore
  constructor
  case length_eq => rw [hp, Tokenizer.stack_take, h.length_eq]
  case exists_opened =>
    rw [hp, Tokenizer.opened_take]
    exact h.exists_opened
  case exists_began =>
    intro o ho hpos
    rw [hp, Tokenizer.opened_take] at ho
    rw [hp, Tokenizer.pos_take hmore] at hpos
    have hempty := (hm.isEmpty_of_opened hwhole ho hpos).1
    exact absurd (hmore.symm.trans hempty) (by simp)

/-- A rule that is opened has its beginning. -/
theorem Began.enter (h : Began m began) (hm : WellFormed g size m)
    (hwhole : whole.Within m.progress.pos size) {id : RuleId} {rule : SpanRule}
    (hmore : (Tokenizer.enter g line m.progress id rule whole found).isDone = false)
    (hp : m'.progress = (Tokenizer.enter g line m.progress id rule whole found).progress) :
    Began m' (some whole :: began) := by
  obtain ⟨f, hstack, hopened, hstop⟩ := Tokenizer.exists_progress_enter hmore
  rw [← hp] at hstack hopened hstop
  constructor
  case length_eq => rw [hstack, List.length_cons, List.length_cons, h.length_eq]
  case exists_opened =>
    intro span outer hsuffix
    rw [hopened]
    rcases List.suffix_cons_iff.1 hsuffix with heq | hsuffix
    · obtain ⟨hspan, rfl⟩ := List.cons.inj heq
      obtain rfl := Option.some.inj hspan
      exact ⟨_, List.mem_cons_self, by rw [h.length_eq], rfl⟩
    · obtain ⟨o, ho, hbegan⟩ := h.exists_opened span outer hsuffix
      exact ⟨o, List.mem_cons_of_mem _ ho, hbegan⟩
  case exists_began =>
    rw [hopened, hstop]
    intro o ho hpos
    rcases List.mem_cons.1 ho with rfl | ho
    · exact ⟨whole, began, List.suffix_rfl, by rw [h.length_eq], rfl⟩
    · obtain ⟨-, hhere⟩ := hm.isEmpty_of_opened hwhole ho hpos
      obtain ⟨span, outer, hsuffix, hbegan⟩ := h.exists_began o ho hhere
      exact ⟨span, outer, hsuffix.trans (List.suffix_cons _ _), hbegan⟩

end Round

/-- **A round keeps the beginnings of the open rules.** -/
theorem Began.next? (h : Began m began) (hm : WellFormed g (Line.ofString text).size m)
    {answer : Option (Hit × Match)}
    (hanswer : ((Scan.next g (Line.ofString text) m.progress.pos m.progress.stack).run.run
      m.caches).1 = .ok answer)
    (hmore : (Tokenizer.follow g (Line.ofString text) m.progress answer).isDone = false)
    (hp : m'.progress = (Tokenizer.follow g (Line.ofString text) m.progress answer).progress) :
    Began m' (m.beganAfter g began answer) := by
  match answer with
  | none => exact absurd hmore (by simp [Tokenizer.follow, Round.isDone])
  | some (hit, found) =>
    have hahead := Scan.ensures_next_ahead g text _ _ _ _ hanswer hit found rfl
    obtain ⟨-, hinside, -⟩ :=
      Scan.ensures_next g (Line.offset_ofString_le text) _ _ _ _ hanswer hit found rfl
    have hwhole := hahead.within hinside hm.pos_le
    cases hit with
    | ending => exact h.close hm hwhole hmore hp
    | rule id =>
      rcases hrule : g.rule? id with _ | (rule | rule | patterns) <;>
        simp only [Tokenizer.follow, hrule] at hmore hp <;> simp only [beganAfter, hrule]
      · exact absurd hmore (by simp [Round.isDone])
      · exact h.take hm hwhole hmore hp
      · exact h.enter hm hwhole hmore hp
      · exact absurd hmore (by simp [Round.isDone])

/-- **All moments of a line keep the beginnings of the open rules.** -/
theorem Began.of_mem_trace (h : Began m began) (hm : WellFormed g (Line.ofString text).size m)
    {n : Nat} {began' : List (Option Span)}
    (hmem : (m', began') ∈ m.trace g (Line.ofString text) n began) :
    Began m' began' ∧ WellFormed g (Line.ofString text).size m' := by
  induction n generalizing m began with
  | zero =>
    obtain ⟨rfl, rfl⟩ := Prod.mk.inj (List.mem_singleton.1 hmem)
    exact ⟨h, hm⟩
  | succ n ih =>
    rw [trace] at hmem
    rcases List.mem_cons.1 hmem with heq | hmem
    · obtain ⟨rfl, rfl⟩ := Prod.mk.inj heq
      exact ⟨h, hm⟩
    · split at hmem
      · rename_i answer m₁ hanswer hnext
        obtain ⟨answer', c, p, hrun, hfollow, hm₁⟩ := exists_answer hnext
        obtain rfl : answer = answer' :=
          Except.ok.inj (hanswer.symm.trans (congrArg Prod.fst hrun))
        have hmore :
            (Tokenizer.follow g (Line.ofString text) m.progress answer).isDone = false := by
          rw [hfollow]
          rfl
        have hp : m₁.progress =
            (Tokenizer.follow g (Line.ofString text) m.progress answer).progress := by
          rw [hfollow, hm₁]
          rfl
        exact ih (h.next? hm hanswer hmore hp) (hm.next? hnext) hmem
      · exact absurd hmem List.not_mem_nil

/-- Rounds that come to an end do so with some moment. -/
theorem exists_last {limit n : Nat} {p : LineProgress} (began : List (Option Span))
    (h : ((Tokenizer.rounds g line limit n m.progress).run.run m.caches).1 = .ok p) :
    ∃ u ∈ m.trace g line n began, ∃ answer,
      ((Scan.next g line u.1.progress.pos u.1.progress.stack).run.run u.1.caches).1 = .ok answer ∧
        Tokenizer.follow g line u.1.progress answer = .done p := by
  induction n generalizing m began with
  | zero => exact absurd h (by simp [Tokenizer.rounds])
  | succ n ih =>
    cases hnext : m.next? g line with
    | some m' =>
      obtain ⟨answer, c, p', hrun, -, -⟩ := exists_answer hnext
      rw [run_rounds_of_next? hnext] at h
      obtain ⟨u, hu, hlast⟩ := ih (m.beganAfter g began answer) h
      refine ⟨u, ?_, hlast⟩
      rw [trace, hrun, hnext]
      exact List.mem_cons_of_mem _ hu
    | none =>
      refine ⟨(m, began), mem_trace_self (n + 1), ?_⟩
      rcases run_rounds_of_next?_eq_none hnext limit n with
        ⟨e, c, -, hfails⟩ | ⟨answer, c, q, hrun, hfollow, hends⟩
      · exact absurd (hfails.symm.trans h) (by simp)
      · obtain rfl := Except.ok.inj (hends.symm.trans h)
        exact ⟨answer, congrArg Prod.fst hrun, hfollow⟩

end Moment

/-! ### Lines -/

namespace Tokenizer

variable {t : Tokenizer} {text : String} {state : OpenRules}

/-- The moments of tokenizing a line, each with the beginnings of the rules that are open then. -/
def trace (t : Tokenizer) (text : String) (state : OpenRules) :
    List (Moment × List (Option Span)) :=
  Moment.trace t.grammar (Line.ofString text) t.stepLimit
    ⟨{ stack := state }, [], t.caches.forgetStarts⟩ (state.map fun _ => none)

/-- Whether a line is given up at a match: one that takes no character, and is for a rule without an
end, or is the end of a rule that was opened in the line by a beginning which ended right there. -/
def GivesUp (g : Grammar) (began : List (Option Span)) (whole : Span) : Hit → Prop
  | .ending => whole.isEmpty = true ∧
    ∃ span, began.head? = some (some span) ∧ span.stop = whole.stop
  | .rule id => whole.isEmpty = true ∧ ∃ rule, g.rule? id = some (.matching rule)

/-- A round in which something is found ends the line just where the line is given up. -/
theorem isDone_follow_iff {m : Moment} {began : List (Option Span)} {g : Grammar}
    (h : m.Began began) (hm : m.WellFormed g (Line.ofString text).size) {hit : Hit} {found : Match}
    (hanswer : ((Scan.next g (Line.ofString text) m.progress.pos m.progress.stack).run.run
      m.caches).1 = .ok (some (hit, found))) :
    (follow g (Line.ofString text) m.progress (some (hit, found))).isDone = true ↔
      GivesUp g began (found.wholeAt m.progress.pos) hit := by
  have hahead := Scan.ensures_next_ahead g text _ _ _ _ hanswer hit found rfl
  obtain ⟨-, hinside, -⟩ :=
    Scan.ensures_next g (Line.offset_ofString_le text) _ _ _ _ hanswer hit found rfl
  have hwhole := hahead.within hinside hm.pos_le
  cases hit with
  | ending =>
    rw [follow, isDone_close_iff, GivesUp]
    refine and_congr_right fun _ => ⟨?_, ?_⟩
    · rintro ⟨o, ho, hdepth, hoffset⟩
      obtain ⟨-, hhere⟩ := hm.isEmpty_of_opened hwhole ho hoffset
      obtain ⟨span, hhead, hstop⟩ := h.exists_head_of_mem_opened ho hhere hdepth
      exact ⟨span, hhead, hstop.trans hoffset⟩
    · rintro ⟨span, hhead, hstop⟩
      obtain ⟨o, ho, hdepth, hoffset⟩ := h.exists_opened_of_head hhead
      exact ⟨o, ho, hdepth, hoffset.trans hstop⟩
  | rule id =>
    obtain ⟨matcher, hmatcher⟩ := Scan.ensures_next_matcher g _ _ _ _ _ hanswer id found rfl
    obtain ⟨rule, hrule, hpattern⟩ := Option.bind_eq_some_iff.1 hmatcher
    rw [follow, GivesUp, hrule]
    cases rule with
    | matching rule =>
      rw [isDone_take]
      exact ⟨fun hempty => ⟨hempty, rule, rfl⟩, And.left⟩
    | span rule =>
      obtain ⟨q, hq⟩ := hm.enter_eq_more hahead (Line.ofString text) id rule
      simp [hq, Round.isDone]
    | group patterns => exact absurd hpattern (by simp [Rule.matcher?])

/-- **A line in which something is found is given up at a match that takes no character only**, for
a rule without an end, or as the end of a rule that was opened where it is found.  At any other end
the innermost rule is closed, and the line goes on behind the match.  Where a line is done, either
nothing is found any more or it is given up. -/
theorem tokenize_givenUp (t : Tokenizer) (text : String) (state : OpenRules) :
    (∀ u ∈ t.trace text state, ∀ hit found,
      ((Scan.next t.grammar (Line.ofString text) u.1.progress.pos u.1.progress.stack).run.run
          u.1.caches).1 = .ok (some (hit, found)) →
        let whole := found.wholeAt u.1.progress.pos
        let round := follow t.grammar (Line.ofString text) u.1.progress (some (hit, found))
        (round.isDone = true ↔ GivesUp t.grammar u.2 whole hit) ∧
          (hit = .ending → ¬ GivesUp t.grammar u.2 whole hit →
            round.isDone = false ∧ round.progress.stack = u.1.progress.stack.tail ∧
              round.progress.pos = whole.stop)) ∧
      (text.utf8ByteSize ≤ t.maxLineLength → ∀ answer, (t.tokenize text state).1 = .ok answer →
        ∃ u ∈ t.trace text state, ∃ found p,
          ((Scan.next t.grammar (Line.ofString text) u.1.progress.pos u.1.progress.stack).run.run
              u.1.caches).1 = .ok found ∧
            follow t.grammar (Line.ofString text) u.1.progress found = .done p ∧
              answer = ⟨p.tokens.finish text.utf8ByteSize (contentScopes t.grammar p.stack),
                p.stack⟩) := by
  constructor
  · intro u hu hit found hanswer
    obtain ⟨hbegan, hwell⟩ := (Moment.began_start state _).of_mem_trace
      (Moment.wellFormed_start t.grammar _ state _) hu
    have hiff := isDone_follow_iff hbegan hwell hanswer
    refine ⟨hiff, ?_⟩
    rintro rfl hnot
    have hmore := Bool.eq_false_iff.2 (mt hiff.1 hnot)
    exact ⟨hmore, stack_close _ _ _ _, pos_close hmore⟩
  · intro hlength answer hanswer
    rw [tokenize, if_neg (Nat.not_lt.2 hlength)] at hanswer
    cases hstate : state.find? fun f => (t.grammar.rule? f.rule).isNone with
    | some f =>
      simp only [tokenizeShort, hstate, Scan.run_throw] at hanswer
      exact absurd hanswer (by simp)
    | none =>
      have hrun := (run_tokenizeShort hstate t.stepLimit text).symm.trans hanswer
      cases hrounds : ((rounds t.grammar (Line.ofString text) t.stepLimit t.stepLimit
          { stack := state }).run.run t.caches.forgetStarts).1 with
      | error e =>
        rw [hrounds] at hrun
        exact absurd hrun (by simp [Except.map])
      | ok p =>
        rw [hrounds] at hrun
        obtain ⟨u, hu, found, hfound, hdone⟩ := Moment.exists_last
          (m := ⟨{ stack := state }, [], t.caches.forgetStarts⟩) (state.map fun _ => none) hrounds
        exact ⟨u, hu, found, p, hfound, hdone, (Except.ok.inj hrun).symm⟩

end Tokenizer

/-! ### A rule that ends anywhere -/

/-- A mark, which ends without a character, and a word. -/
@[irreducible] def Grammar.marks : Grammar :=
  ((Grammar.compile
    { scopeName := "text"
      patterns := [
        { beginPattern := some "<", endPattern := some "", name := some "mark" },
        .matching "x" "word"] } []).toOption).getD default

namespace Tokenizer

/-- The end of a mark is found where its beginning ended, and so the line is given up; no rule is
open after it. -/
theorem tokenize_givenUp_marks :
    (∃ u ∈ (Tokenizer.new Grammar.marks {}).trace "<x" [], u.2 = [some ⟨0, 1⟩] ∧
      (follow Grammar.marks (Line.ofString "<x") u.1.progress
        (some (.ending, ⟨#[some ⟨1, 1⟩]⟩))).isDone = true) ∧
      ∃ u ∈ (Tokenizer.new Grammar.marks {}).trace "<x" [], ∃ found p,
        follow Grammar.marks (Line.ofString "<x") u.1.progress found = .done p ∧ p.stack = [] := by
  have hsearch : ∃ u ∈ (Tokenizer.new Grammar.marks {}).trace "<x" [], u.2 = [some ⟨0, 1⟩] ∧
      ((Scan.next Grammar.marks (Line.ofString "<x") u.1.progress.pos u.1.progress.stack).run.run
        u.1.caches).1 = .ok (some (.ending, ⟨#[some ⟨1, 1⟩]⟩)) := by
    decide +kernel
  have htokens : ((Tokenizer.new Grammar.marks {}).tokenize "<x" []).1 =
      .ok ⟨[⟨0, 1, ["text", "mark"]⟩, ⟨1, 2, ["text"]⟩], []⟩ := by
    decide +kernel
  obtain ⟨hfollow, hdone⟩ := tokenize_givenUp (Tokenizer.new Grammar.marks {}) "<x" []
  constructor
  · obtain ⟨u, hu, hbegan, hfound⟩ := hsearch
    refine ⟨u, hu, hbegan, (hfollow u hu _ _ hfound).1.2 ⟨rfl, ⟨0, 1⟩, ?_, rfl⟩⟩
    rw [hbegan]
    rfl
  · obtain ⟨u, hu, found, p, -, hend, hanswer⟩ := hdone (by decide) _ htokens
    exact ⟨u, hu, found, p, hend, (congrArg LineTokens.state hanswer).symm⟩

/-- The line is given up although the beginning of the mark took a character, and a word stands
right behind it. -/
theorem givesUp_behind_text :
    (¬ ∀ u ∈ (Tokenizer.new Grammar.marks {}).trace "<x" [], ∀ span found,
        u.2.head? = some (some span) → span.isEmpty = false →
        ((Scan.next Grammar.marks (Line.ofString "<x") u.1.progress.pos u.1.progress.stack).run.run
          u.1.caches).1 = .ok (some (.ending, found)) →
        found.wholeAt u.1.progress.pos = ⟨span.stop, span.stop⟩ →
        (follow Grammar.marks (Line.ofString "<x") u.1.progress
          (some (.ending, found))).isDone = false) ∧
      ((Scan.next Grammar.marks (Line.ofString "<x") 1 []).run.run {}).1 =
        .ok (some (.rule 2, ⟨#[some ⟨1, 2⟩]⟩)) ∧
      ((Tokenizer.new Grammar.marks {}).tokenize "<x" []).1 =
        .ok ⟨[⟨0, 1, ["text", "mark"]⟩, ⟨1, 2, ["text"]⟩], []⟩ := by
  have hended : ∃ u ∈ (Tokenizer.new Grammar.marks {}).trace "<x" [], u.2 = [some ⟨0, 1⟩] ∧
      ((Scan.next Grammar.marks (Line.ofString "<x") u.1.progress.pos u.1.progress.stack).run.run
        u.1.caches).1 = .ok (some (.ending, ⟨#[some ⟨1, 1⟩]⟩)) ∧
      (follow Grammar.marks (Line.ofString "<x") u.1.progress
        (some (.ending, ⟨#[some ⟨1, 1⟩]⟩))).isDone = true := by
    decide +kernel
  refine ⟨fun h => ?_, by decide +kernel, by decide +kernel⟩
  obtain ⟨u, hu, hbegan, hfound, hdone⟩ := hended
  have hmore := h u hu ⟨0, 1⟩ _ (by rw [hbegan]; rfl) rfl hfound rfl
  exact absurd (hmore.symm.trans hdone) (by simp)

end Tokenizer

end Highlight
