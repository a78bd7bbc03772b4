import Highlight.Proofs.Tokenizer.StepLimit

/-!
# Rules that open themselves

A search depends on the innermost rule and its end alone (`Scan.next_congr`).  So a rule in which
the search finds the beginning of the same rule, at the same place and without a character, is
opened again in every round (`Moment.Inside.exists_next?`): the guard against rules that are opened
twice looks at the depth, which is another one each time.  Whatever the limit is, such a line
exceeds it (`Moment.Inside.exceeds`, `Tokenizer.tokenize_anywhere`).
-/

namespace Highlight

/-- A search depends on the innermost rule and its end. -/
theorem Scan.next_congr {stack stack' : OpenRules} (htop : stack.top? = stack'.top?)
    (hending : stack.ending? = stack'.ending?) (g : Grammar) (line : Line) (pos : Nat) :
    Scan.next g line pos stack = Scan.next g line pos stack' := by
  have hempty : stack.isEmpty = stack'.isEmpty := by
    cases stack <;> cases stack' <;> simp_all [OpenRules.top?]
  have hinnermost : innermost g stack = innermost g stack' := by
    rw [innermost, innermost, htop]
  unfold next nextStart endMatcher
  rw [hinnermost, hending, hempty]

namespace Moment

variable {g : Grammar} {line : Line} {text : String} {m m' : Moment} {id : RuleId} {pos : Nat}

theorem sound_next? (h : m.caches.Sound) (hm : m.next? g line = some m') : m'.caches.Sound := by
  unfold next? at hm
  split at hm
  · exact absurd hm (by simp)
  · split at hm
    · exact absurd hm (by simp)
    · obtain rfl := Option.some.inj hm
      exact (Tokenizer.oblivious_round g line m.progress _ _ ⟨rfl, h, h⟩).2.left

/-- Where a rule is innermost, its own beginning is found at the given place, without a character,
and no end is made for it. -/
structure OpensItself (g : Grammar) (line : Line) (pos : Nat) (id : RuleId) (rule : SpanRule)
    (found : Match) : Prop where
  rule_eq : g.rule? id = some (.span rule)
  resolvedEnd_eq : Tokenizer.resolvedEnd line rule found = none
  stop_eq : (found.wholeAt pos).stop = pos
  search_eq : ((Scan.next g line pos [⟨id, none, [], []⟩]).run.run {}).1 =
    .ok (some (.rule id, found))

/-- The rule is innermost at the place, and no start is remembered. -/
structure Inside (pos : Nat) (id : RuleId) (m : Moment) : Prop where
  pos_eq : m.progress.pos = pos
  top_eq : m.progress.stack.top? = some id
  ending_eq : m.progress.stack.ending? = none
  starts_eq : m.caches.starts = []
  sound : m.caches.Sound

/-- Then its own beginning is found once more. -/
theorem Inside.search_eq {rule : SpanRule} {found : Match} (h : m.Inside pos id)
    (hself : OpensItself g line pos id rule found) :
    ((Scan.next g line m.progress.pos m.progress.stack).run.run m.caches).1 =
      .ok (some (.rule id, found)) := by
  have htop : m.progress.stack.top? = OpenRules.top? [⟨id, none, [], []⟩] := h.top_eq
  have hending : m.progress.stack.ending? = OpenRules.ending? [⟨id, none, [], []⟩] := h.ending_eq
  have halike : m.caches.Alike {} := ⟨h.starts_eq, h.sound, Caches.sound_empty⟩
  rw [Scan.next_congr htop hending, h.pos_eq]
  exact (Scan.oblivious_next g line pos _ _ _ halike).1.trans hself.search_eq

/-- The rule is opened, and so it is innermost again. -/
theorem Inside.exists_next? {rule : SpanRule} {found : Match} (h : m.Inside pos id)
    (hself : OpensItself g (Line.ofString text) pos id rule found)
    (hwell : m.WellFormed g (Line.ofString text).size) :
    ∃ m', m.next? g (Line.ofString text) = some m' ∧ m'.Inside pos id := by
  have hanswer := h.search_eq hself
  -- no beginning ends the line, so there is a next moment
  obtain ⟨q, hq⟩ := hwell.enter_eq_more
    (Scan.ensures_next_ahead g text _ _ _ _ hanswer _ _ rfl) (Line.ofString text) id rule
  have hfollow : Tokenizer.follow g (Line.ofString text) m.progress (some (.rule id, found)) =
      .more q := by
    rw [Tokenizer.follow, hself.rule_eq]
    exact hq
  rcases hrun : (Scan.next g (Line.ofString text) m.progress.pos m.progress.stack).run.run
    m.caches with ⟨r, d⟩
  rw [hrun] at hanswer
  obtain rfl : r = .ok (some (.rule id, found)) := hanswer
  have hnext : m.next? g (Line.ofString text) = some ⟨q,
      m.standingAfter g (some (.rule id, found)),
      ((Tokenizer.round g (Line.ofString text) m.progress).run.run m.caches).2⟩ := by
    rw [next?, hrun]
    simp only [hfollow]
  refine ⟨_, hnext, ?_⟩
  have hsound := sound_next? h.sound hnext
  have hstarts : ((Tokenizer.round g (Line.ofString text) m.progress).run.run
      m.caches).2.starts = [] := by
    rw [Tokenizer.round, Scan.run_bind_ok hrun]
    have hmore : Tokenizer.enter g (Line.ofString text) m.progress id rule
        (found.whole?.getD ⟨m.progress.pos, m.progress.pos⟩) found = .more q := hq
    simp only [hself.rule_eq, hmore]
    rfl
  rw [Tokenizer.enter] at hq
  split at hq
  · exact absurd hq (by simp)
  · obtain rfl := Round.more.inj hq
    refine ⟨?_, rfl, hself.resolvedEnd_eq, hstarts, hsound⟩
    rw [h.pos_eq]
    exact hself.stop_eq

/-- **A rule that opens itself exceeds every limit.** -/
theorem Inside.exceeds {rule : SpanRule} {found : Match} (h : m.Inside pos id)
    (hself : OpensItself g (Line.ofString text) pos id rule found)
    (hwell : m.WellFormed g (Line.ofString text).size) (limit n : Nat) :
    ((Tokenizer.rounds g (Line.ofString text) limit n m.progress).run.run m.caches).1 =
      .error (.stepLimitExceeded limit pos) := by
  induction n generalizing m with
  | zero =>
    rw [Tokenizer.rounds, h.pos_eq]
    rfl
  | succ n ih =>
    obtain ⟨m', hnext, h'⟩ := h.exists_next? hself hwell
    rw [run_rounds_of_next? hnext]
    exact ih h' (hwell.next? hnext)

end Moment

namespace Tokenizer

/-- A rule that begins without a character and stands in itself exceeds the limit of every
configuration. -/
theorem tokenize_anywhere (config : Config) (hlength : 1 ≤ config.maxLineLength) :
    ((Tokenizer.new (Grammar.anywhere [.including "#any"]) config).tokenize "x" []).1 =
      .error (.stepLimitExceeded (max config.stepLimitPerLine 1) 0) := by
  -- the rule is opened in the first round, and from then on it opens itself
  have hrule : (((Grammar.anywhere [.including "#any"]).rule? 1).bind Rule.span?).any (fun rule =>
      (resolvedEnd (Line.ofString "x") rule ⟨#[some ⟨0, 0⟩]⟩).isNone) = true := by
    decide +kernel
  have hfirst : (Moment.next? (Grammar.anywhere [.including "#any"]) (Line.ofString "x")
      ⟨{ stack := [] }, [], {}⟩).any (fun m => m.progress.pos == 0 &&
        m.progress.stack.top? == some 1 && m.progress.stack.ending? == none &&
          m.caches.starts.isEmpty) = true := by
    decide +kernel
  have hsearch : ((Scan.next (Grammar.anywhere [.including "#any"]) (Line.ofString "x") 0
      [⟨1, none, [], []⟩]).run.run {}).1 = .ok (some (.rule 1, ⟨#[some ⟨0, 0⟩]⟩)) := by
    decide +kernel
  generalize Grammar.anywhere [.including "#any"] = g at hrule hfirst hsearch ⊢
  obtain ⟨rule, hid, hspan⟩ := Rule.exists_of_any_span? hrule
  obtain ⟨m, hm, hm'⟩ := (Option.any_eq_true _ _).1 hfirst
  have hself : Moment.OpensItself g (Line.ofString "x") 0 1 rule ⟨#[some ⟨0, 0⟩]⟩ :=
    ⟨hid, Option.isNone_iff_eq_none.1 hspan, rfl, hsearch⟩
  have hinside : m.Inside 0 1 := by
    simp only [Bool.and_eq_true, beq_iff_eq, List.isEmpty_iff] at hm'
    obtain ⟨⟨⟨hpos, htop⟩, hending⟩, hstarts⟩ := hm'
    exact ⟨hpos, htop, hending, hstarts, Moment.sound_next? Caches.sound_empty hm⟩
  obtain ⟨n, hn⟩ : ∃ n, max config.stepLimitPerLine 1 = n + 1 :=
    ⟨max config.stepLimitPerLine 1 - 1, by omega⟩
  have hwell := (Moment.wellFormed_start g (Line.ofString "x").size [] {}).next? hm
  have hrounds : ((rounds g (Line.ofString "x") (n + 1) (n + 1) { stack := [] }).run.run {}).1 =
      .error (.stepLimitExceeded (n + 1) 0) :=
    (congrArg Prod.fst (Moment.run_rounds_of_next? hm)).trans
      (hinside.exceeds hself hwell (n + 1) n)
  have hshort : ¬(Tokenizer.new g config).maxLineLength < "x".utf8ByteSize :=
    Nat.not_lt_of_le hlength
  rw [tokenize, if_neg hshort, hn]
  show ((tokenizeShort g (max config.stepLimitPerLine 1) "x" []).run.run {}).1 = _
  rw [hn, run_tokenizeShort rfl, Caches.forgetStarts, hrounds]
  rfl

end Tokenizer

end Highlight
