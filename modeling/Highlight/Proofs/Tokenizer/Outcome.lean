import Highlight.Proofs.Tokenizer.Reuse
import Highlight.Proofs.Tokenizer.StepLimit

/-!
# The outcome of a line does not depend on the limit

Without a limit a line either takes a number of rounds, the last of which has an outcome
(`Tokenizer.Takes`), or it goes on for ever (`Tokenizer.Endless`).  A limit does not change what the
rounds do: as many of them as there are before the last one can be taken off the front of a run
(`Moment.run_rounds_of_after?`).  So the limit only decides whether the last round is reached
(`Tokenizer.tokenize_of_limit`).  A line that takes exactly as many rounds as are allowed is done;
where it takes more, the error says how far the rounds that are allowed have led.
-/

namespace Highlight

namespace Moment

variable {g : Grammar} {line : Line} {m m' : Moment}

/-- The moment before the first round of a line, for a tokenizer that remembers nothing. -/
def start (state : OpenRules) : Moment := ⟨{ stack := state }, [], {}⟩

/-- The moment after a number of rounds, unless one of them ends the line. -/
def after? (g : Grammar) (line : Line) : Nat → Moment → Option Moment
  | 0, m => some m
  | n + 1, m => (m.next? g line).bind (after? g line n)

/-- A round more. -/
theorem after?_succ {n : Nat} (h : m.after? g line n = some m') :
    m.after? g line (n + 1) = m'.next? g line := by
  induction n generalizing m with
  | zero =>
    obtain rfl := Option.some.inj h
    exact Option.bind_fun_some _
  | succ n ih =>
    obtain ⟨u, hu, hafter⟩ := Option.bind_eq_some_iff.1 h
    rw [after?, hu]
    exact ih hafter

/-- A line that has not ended after a number of rounds has not ended before. -/
theorem exists_after?_of_le {n i : Nat} (h : m.after? g line n = some m') (hi : i ≤ n) :
    ∃ u, m.after? g line i = some u := by
  induction i generalizing m n with
  | zero => exact ⟨m, rfl⟩
  | succ i ih =>
    obtain ⟨k, rfl⟩ := Nat.exists_eq_add_of_lt hi
    obtain ⟨u, hu, hafter⟩ := Option.bind_eq_some_iff.1 h
    obtain ⟨v, hv⟩ := ih hafter (Nat.le_add_right i k)
    refine ⟨v, ?_⟩
    rw [after?, hu]
    exact hv

/-- The rounds up to a moment can be taken off a run, whatever the limit is. -/
theorem run_rounds_of_after? {n : Nat} (h : m.after? g line n = some m') (limit k : Nat) :
    (Tokenizer.rounds g line limit (n + k) m.progress).run.run m.caches =
      (Tokenizer.rounds g line limit k m'.progress).run.run m'.caches := by
  induction n generalizing m with
  | zero =>
    obtain rfl := Option.some.inj h
    rw [Nat.zero_add]
  | succ n ih =>
    obtain ⟨u, hu, hafter⟩ := Option.bind_eq_some_iff.1 h
    rw [Nat.succ_add, run_rounds_of_next? hu]
    exact ih hafter

/-- Where there is no next moment the round is the last one. -/
theorem run_round_of_next?_eq_none (h : m.next? g line = none) :
    (∃ cause, ((Tokenizer.round g line m.progress).run.run m.caches).1 =
        .error (.dynamicEnd cause)) ∨
      ∃ p, ((Tokenizer.round g line m.progress).run.run m.caches).1 = .ok (.done p) := by
  rcases run_rounds_of_next?_eq_none h 0 0 with
    ⟨e, c, hrun, -⟩ | ⟨answer, c, p, hrun, hfollow, -⟩
  · obtain ⟨cause, rfl⟩ := Scan.fails_next g _ _ _ _ _ (congrArg Prod.fst hrun)
    exact .inl ⟨cause, congrArg Prod.fst (Tokenizer.run_round_of_error hrun)⟩
  · exact .inr ⟨p, (Tokenizer.run_round_of_ok hrun).trans (congrArg Except.ok hfollow)⟩

/-- A line ends after a number of rounds, or it does not. -/
theorem exists_last_or_forall (g : Grammar) (line : Line) (m : Moment) :
    (∃ n u, m.after? g line n = some u ∧ u.next? g line = none) ∨
      ∀ n, ∃ u, m.after? g line n = some u := by
  by_cases hends : ∃ n, m.after? g line n = none
  · -- the first number of rounds after which the line has ended is not zero
    refine .inl ?_
    obtain ⟨n, hn⟩ := Nat.exists_eq_succ_of_ne_zero (n := Nat.find hends) fun hzero => by
      have hnone := Nat.find_spec hends
      rw [hzero] at hnone
      exact absurd hnone (by simp [after?])
    have hbefore := Nat.find_min hends (m := n) (by omega)
    obtain ⟨u, hu⟩ := Option.ne_none_iff_exists'.1 hbefore
    refine ⟨n, u, hu, ?_⟩
    rw [← after?_succ hu, ← Nat.succ_eq_add_one, ← hn]
    exact Nat.find_spec hends
  · exact .inr fun n => Option.ne_none_iff_exists'.1 fun hnone => hends ⟨n, hnone⟩

end Moment

namespace Tokenizer

variable {g : Grammar} {text : String} {state : OpenRules}

/-- The rules that are open before the line are rules of the grammar. -/
def Known (g : Grammar) (state : OpenRules) : Prop :=
  (state.find? fun f => (g.rule? f.rule).isNone) = none

/-- How many rounds a line takes when there is no limit, and what comes of it: it is refused before
the first round, a round fails, or a round ends the line. -/
inductive Takes (g : Grammar) (text : String) (state : OpenRules) :
    Nat → Except MatchError LineTokens → Prop where
  | refused {f : OpenRule} (unknown : (state.find? fun f => (g.rule? f.rule).isNone) = some f) :
    Takes g text state 0 (.error (.unknownRule f.rule g.ruleCount))
  | fails {n : Nat} {m : Moment} {cause : PatternError} (known : Known g state)
    (after : (Moment.start state).after? g (Line.ofString text) n = some m)
    (last : ((round g (Line.ofString text) m.progress).run.run m.caches).1 =
      .error (.dynamicEnd cause)) :
    Takes g text state (n + 1) (.error (.dynamicEnd cause))
  | ends {n : Nat} {m : Moment} {p : LineProgress} (known : Known g state)
    (after : (Moment.start state).after? g (Line.ofString text) n = some m)
    (last : ((round g (Line.ofString text) m.progress).run.run m.caches).1 = .ok (.done p)) :
    Takes g text state (n + 1)
      (.ok ⟨p.tokens.finish (Line.ofString text).size (contentScopes g p.stack), p.stack⟩)

/-- No round ends the line. -/
def Endless (g : Grammar) (text : String) (state : OpenRules) : Prop :=
  Known g state ∧ ∀ n, ∃ m, (Moment.start state).after? g (Line.ofString text) n = some m

/-- The line has not ended after the rounds that are allowed, and is given up where they have
led. -/
def ExceedsAfter (g : Grammar) (text : String) (state : OpenRules) (limit : Nat)
    (answer : Except MatchError LineTokens) : Prop :=
  ∃ m, (Moment.start state).after? g (Line.ofString text) limit = some m ∧
    answer = .error (.stepLimitExceeded limit m.progress.pos)

theorem exists_takes_or_endless (g : Grammar) (text : String) (state : OpenRules) :
    (∃ n outcome, Takes g text state n outcome) ∨ Endless g text state := by
  cases hstate : state.find? fun f => (g.rule? f.rule).isNone with
  | some f => exact .inl ⟨0, _, .refused hstate⟩
  | none =>
    rcases Moment.exists_last_or_forall g (Line.ofString text) (.start state) with
      ⟨n, m, hafter, hnext⟩ | hall
    · rcases Moment.run_round_of_next?_eq_none hnext with ⟨cause, hlast⟩ | ⟨p, hlast⟩
      · exact .inl ⟨n + 1, _, .fails hstate hafter hlast⟩
      · exact .inl ⟨n + 1, _, .ends hstate hafter hlast⟩
    · exact .inr ⟨hstate, hall⟩

theorem Takes.ne_stepLimitExceeded {n : Nat} {outcome : Except MatchError LineTokens}
    (h : Takes g text state n outcome) (limit offset : Nat) :
    outcome ≠ .error (.stepLimitExceeded limit offset) := by
  cases h <;> simp

/-- Rounds before the last one do not end the line. -/
theorem Takes.exists_after? {n : Nat} {outcome : Except MatchError LineTokens}
    (h : Takes g text state n outcome) {limit : Nat} (hlimit : limit < n) :
    Known g state ∧ ∃ m, (Moment.start state).after? g (Line.ofString text) limit = some m := by
  cases h with
  | refused => exact absurd hlimit (Nat.not_lt_zero _)
  | fails hknown hafter => exact ⟨hknown, Moment.exists_after?_of_le hafter (by omega)⟩
  | ends hknown hafter => exact ⟨hknown, Moment.exists_after?_of_le hafter (by omega)⟩

/-! ### Lines with a limit -/

/-- A line whose rounds are known up to a moment is what the rounds that are left make of it. -/
theorem tokenizeShort_of_after? {n : Nat} {m : Moment} (hknown : Known g state)
    (hafter : (Moment.start state).after? g (Line.ofString text) n = some m) (k : Nat) :
    ((tokenizeShort g (n + k) text state).run.run {}).1 =
      ((rounds g (Line.ofString text) (n + k) k m.progress).run.run m.caches).1.map fun p =>
        ⟨p.tokens.finish (Line.ofString text).size (contentScopes g p.stack), p.stack⟩ := by
  rw [run_tokenizeShort hknown, ← Moment.run_rounds_of_after? hafter]
  rfl

/-- A line that has not ended after the rounds that are allowed is given up where these have led. -/
theorem exceedsAfter_tokenizeShort {limit : Nat} (hknown : Known g state)
    (hafter : ∃ m, (Moment.start state).after? g (Line.ofString text) limit = some m) :
    ExceedsAfter g text state limit ((tokenizeShort g limit text state).run.run {}).1 := by
  obtain ⟨m, hafter⟩ := hafter
  have hrun := tokenizeShort_of_after? hknown hafter 0
  rw [Nat.add_zero, rounds, Scan.run_throw] at hrun
  exact ⟨m, hafter, hrun⟩

theorem ExceedsAfter.ne_ok {limit : Nat} {answer : Except MatchError LineTokens}
    (h : ExceedsAfter g text state limit answer) (tokens : LineTokens) : answer ≠ .ok tokens := by
  obtain ⟨m, -, rfl⟩ := h
  simp

/-- Rounds stop at the first one that does not lead to another. -/
theorem run_rounds_of_last {line : Line} {p : LineProgress} {c : Caches}
    {last : Except MatchError Round} (hlast : ((round g line p).run.run c).1 = last)
    (hmore : ∀ q, last ≠ .ok (.more q)) (limit k : Nat) :
    ((rounds g line limit (k + 1) p).run.run c).1 = last.map Round.progress := by
  obtain ⟨d, hround⟩ : ∃ d, (round g line p).run.run c = (last, d) := ⟨_, Prod.ext hlast rfl⟩
  cases last with
  | error e =>
    rw [rounds, Scan.run_bind_error hround]
    rfl
  | ok r =>
    rw [rounds, Scan.run_bind_ok hround]
    cases r with
    | done q => rfl
    | more q => exact absurd rfl (hmore q)

/-- A line whose last round is allowed has the outcome of that. -/
theorem Takes.tokenizeShort_eq {n limit : Nat} {outcome : Except MatchError LineTokens}
    (h : Takes g text state n outcome) (hlimit : n ≤ limit) :
    ((tokenizeShort g limit text state).run.run {}).1 = outcome := by
  obtain ⟨k, rfl⟩ := Nat.exists_eq_add_of_le hlimit
  cases h with
  | refused hunknown =>
    rw [tokenizeShort, hunknown]
    rfl
  | fails hknown hafter hlast =>
    rw [Nat.add_assoc, tokenizeShort_of_after? hknown hafter, Nat.add_comm 1 k,
      run_rounds_of_last hlast (by simp)]
    rfl
  | ends hknown hafter hlast =>
    rw [Nat.add_assoc, tokenizeShort_of_after? hknown hafter, Nat.add_comm 1 k,
      run_rounds_of_last hlast (by simp)]
    rfl

/-- A tokenizer that has been used takes a line that is not too long as one that remembers
nothing. -/
theorem Reachable.tokenize_eq_tokenizeShort {config : Config} {t : Tokenizer}
    (h : Reachable g config t) (hlength : text.utf8ByteSize ≤ config.maxLineLength) :
    (t.tokenize text state).1 =
      ((tokenizeShort g (max config.stepLimitPerLine 1) text state).run.run {}).1 := by
  have hshort : ¬ (Tokenizer.new g config).maxLineLength < text.utf8ByteSize := Nat.not_lt.2 hlength
  rw [h.serves.tokenize_eq, Tokenizer.tokenize, if_neg hshort]
  rfl

/-- **The limit only decides whether a line is done.**  A line takes some number of rounds and has
one outcome, or it takes rounds without end.  With a limit of at least that number the outcome is
the same; with a smaller one, the line is given up where the rounds that are allowed have led.  So a
line that is done with a limit comes to the same with every greater one. -/
theorem tokenize_of_limit (g : Grammar) (text : String) (state : OpenRules) :
    ((∃ n outcome, Takes g text state n outcome ∧
        (∀ limit offset, outcome ≠ .error (.stepLimitExceeded limit offset)) ∧
        ∀ config t, Reachable g config t → text.utf8ByteSize ≤ config.maxLineLength →
          (n ≤ max config.stepLimitPerLine 1 → (t.tokenize text state).1 = outcome) ∧
          (max config.stepLimitPerLine 1 < n →
            ExceedsAfter g text state (max config.stepLimitPerLine 1) (t.tokenize text state).1)) ∨
      Endless g text state ∧
        ∀ config t, Reachable g config t → text.utf8ByteSize ≤ config.maxLineLength →
          ExceedsAfter g text state (max config.stepLimitPerLine 1) (t.tokenize text state).1) ∧
    ∀ config config' t t' tokens, Reachable g config t → Reachable g config' t' →
      text.utf8ByteSize ≤ config.maxLineLength → text.utf8ByteSize ≤ config'.maxLineLength →
        config.stepLimitPerLine ≤ config'.stepLimitPerLine →
          (t.tokenize text state).1 = .ok tokens → (t'.tokenize text state).1 = .ok tokens := by
  constructor
  · rcases exists_takes_or_endless g text state with ⟨n, outcome, htakes⟩ | hendless
    · refine .inl ⟨n, outcome, htakes, htakes.ne_stepLimitExceeded, fun config t ht hlength => ?_⟩
      rw [ht.tokenize_eq_tokenizeShort hlength]
      refine ⟨htakes.tokenizeShort_eq, fun hlimit => ?_⟩
      obtain ⟨hknown, hafter⟩ := htakes.exists_after? hlimit
      exact exceedsAfter_tokenizeShort hknown hafter
    · refine .inr ⟨hendless, fun config t ht hlength => ?_⟩
      rw [ht.tokenize_eq_tokenizeShort hlength]
      exact exceedsAfter_tokenizeShort hendless.1 (hendless.2 _)
  · intro config config' t t' tokens ht ht' hlength hlength' hle htokens
    rw [ht.tokenize_eq_tokenizeShort hlength] at htokens
    rw [ht'.tokenize_eq_tokenizeShort hlength']
    have hgreater : max config.stepLimitPerLine 1 ≤ max config'.stepLimitPerLine 1 :=
      max_le_max_right 1 hle
    rcases exists_takes_or_endless g text state with ⟨n, outcome, htakes⟩ | hendless
    · -- the line is done, so its last round was allowed
      have hlimit : n ≤ max config.stepLimitPerLine 1 := by
        refine Nat.le_of_not_lt fun hlt => ?_
        obtain ⟨hknown, hafter⟩ := htakes.exists_after? hlt
        exact (exceedsAfter_tokenizeShort hknown hafter).ne_ok tokens htokens
      rw [htakes.tokenizeShort_eq (hlimit.trans hgreater), ← htakes.tokenizeShort_eq hlimit]
      exact htokens
    · have hexceeds := exceedsAfter_tokenizeShort hendless.1
        (hendless.2 (max config.stepLimitPerLine 1))
      exact absurd htokens (hexceeds.ne_ok tokens)

/-- A line that takes three rounds: with a limit of two it is given up at its end, with a limit of
three it is done, and so with every greater one. -/
theorem tokenize_of_limit_elements :
    (∃ outcome, Takes Grammar.elements "<a><b>" [] 3 outcome) ∧
      ((Tokenizer.new Grammar.elements { stepLimitPerLine := 2 }).tokenize "<a><b>" []).1 =
        .error (.stepLimitExceeded 2 6) ∧
      ∀ limit, 3 ≤ limit →
        ((Tokenizer.new Grammar.elements { stepLimitPerLine := limit }).tokenize "<a><b>" []).1 =
          ((Tokenizer.new Grammar.elements { stepLimitPerLine := 3 }).tokenize "<a><b>" []).1 := by
  obtain ⟨hcourse, hraise⟩ := tokenize_of_limit Grammar.elements "<a><b>" []
  have htwo : ((Tokenizer.new Grammar.elements { stepLimitPerLine := 2 }).tokenize "<a><b>" []).1 =
      .error (.stepLimitExceeded 2 6) := by
    decide +kernel
  have hsome : ((Tokenizer.new Grammar.elements { stepLimitPerLine := 3 }).tokenize "<a><b>"
      []).1.toOption.isSome = true := by
    decide +kernel
  have hlength : "<a><b>".utf8ByteSize ≤ ({} : Config).maxLineLength := by decide
  obtain ⟨tokens, hthree⟩ : ∃ tokens,
      ((Tokenizer.new Grammar.elements { stepLimitPerLine := 3 }).tokenize "<a><b>" []).1 =
        .ok tokens := by
    cases hanswer : ((Tokenizer.new Grammar.elements { stepLimitPerLine := 3 }).tokenize "<a><b>"
        []).1 with
    | error e => exact absurd hsome (by rw [hanswer]; simp [Except.toOption])
    | ok tokens => exact ⟨tokens, rfl⟩
  refine ⟨?_, htwo, fun limit hlimit => ?_⟩
  · rcases hcourse with ⟨n, outcome, htakes, hne, hall⟩ | ⟨-, hall⟩
    · have hle : n ≤ 3 := Nat.le_of_not_lt fun hlt =>
        ((hall { stepLimitPerLine := 3 } _ .new hlength).2 hlt).ne_ok tokens hthree
      have hlt : 2 < n := Nat.lt_of_not_le fun hle =>
        hne 2 6 (((hall { stepLimitPerLine := 2 } _ .new hlength).1 hle).symm.trans htwo)
      obtain rfl : n = 3 := by omega
      exact ⟨outcome, htakes⟩
    · exact absurd hthree ((hall { stepLimitPerLine := 3 } _ .new hlength).ne_ok tokens)
  · rw [hthree]
    exact hraise { stepLimitPerLine := 3 } { stepLimitPerLine := limit } _ _ tokens .new .new
      hlength hlength hlimit hthree

end Tokenizer

end Highlight
