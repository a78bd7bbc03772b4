import Highlight.Proofs.Pattern.Ahead
import Highlight.Proofs.Tokenizer.Rounds

/-!
# Searches go forward

What a search finds does not begin before the place from which it looks, also when it is remembered
where a candidate begins (`Scan.ensures_next_ahead`).  A search can fail, but only because the end
of a rule is no pattern (`Scan.fails_next`), and then the round fails in the same way
(`Tokenizer.run_round_of_error`); otherwise the round follows its answer
(`Tokenizer.run_round_of_ok`).
-/

namespace Highlight

namespace Scan

variable {α β : Type}

/-! ### What is found -/

/-- The alternative that is best so far does not begin before a byte offset. -/
def Best.From (best : Best) (pos : Nat) : Prop := ∀ b, best = some b → pos ≤ b.1

theorem Best.From.consider {best : Best} {pos : Nat} (h : best.From pos) {start : Option Nat}
    (hstart : ∀ s, start = some s → pos ≤ s) (hit : Hit) :
    (Scan.consider best start hit).From pos := by
  intro b hb
  unfold Scan.consider at hb
  split at hb
  · exact h b hb
  · rename_i s
    split at hb
    · obtain rfl := Option.some.inj hb
      exact hstart s rfl
    · split at hb
      · obtain rfl := Option.some.inj hb
        exact hstart s rfl
      · exact h b hb

section Line

variable (g : Grammar) (text : String) (pos : Nat)

/-- What is remembered is only answered where it does not lie behind. -/
theorem ensures_candidateStart (id : RuleId) :
    Ensures (candidateStart g (Line.ofString text) pos id) fun start =>
      ∀ s, start = some s → pos ≤ s := by
  have hnone : Ensures (pure none : Scan (Option Nat)) fun start => ∀ s, start = some s → pos ≤ s :=
    ensures_pure fun s hs => absurd hs (by simp)
  have hsearch : Ensures (search g (Line.ofString text) pos id) fun start =>
      ∀ s, start = some s → pos ≤ s := by
    unfold search
    split
    · exact hnone
    · exact ensures_of_bind fun _ => ensures_pure fun s hs => Matcher.le_of_findStart? hs
  rw [candidateStart_eq]
  refine ensures_of_bind fun c => ?_
  split
  · exact hsearch
  · exact hnone
  · split
    · rename_i hle
      exact ensures_pure fun s hs => Option.some.inj hs ▸ hle
    · exact hsearch

theorem ensures_considerAll {best : Best} (h : best.From pos) (ids : List RuleId) :
    Ensures (considerAll g (Line.ofString text) pos best ids) (Best.From · pos) := by
  induction ids generalizing best with
  | nil => exact ensures_pure h
  | cons id ids ih =>
    rw [considerAll]
    split
    · exact ensures_pure h
    · exact ensures_bind (ensures_candidateStart g text pos id) fun start hstart =>
        ih (h.consider hstart _)

theorem ensures_nextStart (stack : OpenRules) (ending : Option Matcher) (endLast : Bool) :
    Ensures (nextStart g (Line.ofString text) pos stack ending endLast) (Best.From · pos) := by
  have hnone : Best.From none pos := fun b hb => absurd hb (by simp)
  have hend (s : Nat) (hs : (ending.bind fun matcher =>
      matcher.findStart? (Line.ofString text) pos) = some s) : pos ≤ s := by
    obtain ⟨matcher, -, hfound⟩ := Option.bind_eq_some_iff.1 hs
    exact Matcher.le_of_findStart? hfound
  unfold nextStart
  refine ensures_bind (ensures_considerAll g text pos ?_ _) fun best hbest => ensures_pure ?_
  · split
    · exact hnone
    · exact hnone.consider hend .ending
  · split
    · exact hbest.consider hend .ending
    · exact hbest

/-- **What is found does not begin before the place from which it was looked for.** -/
theorem ensures_next_ahead (stack : OpenRules) :
    Ensures (next g (Line.ofString text) pos stack) fun answer =>
      ∀ hit found, answer = some (hit, found) → found.Ahead pos := by
  unfold next
  split
  · exact ensures_pure fun hit found h => absurd h (by simp)
  · refine ensures_of_bind fun ending => ?_
    refine ensures_bind (ensures_nextStart g text pos stack _ _) fun best hbest => ?_
    split
    · exact ensures_pure fun hit found h => absurd h (by simp)
    · rename_i start hit'
      refine ensures_pure fun hit found h => ?_
      obtain ⟨found', hfound, hpair⟩ := Option.map_eq_some_iff.1 h
      obtain ⟨-, rfl⟩ := Prod.mk.inj hpair
      obtain ⟨matcher, -, hfind⟩ := Option.bind_eq_some_iff.1 hfound
      exact (Matcher.ahead_of_find? hfind).mono (hbest _ rfl)

end Line

/-! ### Failures -/

/-- Every failure satisfies a predicate, whatever is remembered. -/
def Fails (m : Scan α) (P : MatchError → Prop) : Prop :=
  ∀ c e, (m.run.run c).1 = .error e → P e

variable {P : MatchError → Prop}

theorem fails_pure (a : α) : Fails (pure a) P := by
  intro c e he
  rw [run_pure] at he
  exact absurd he (by simp)

theorem fails_throw {e : MatchError} (h : P e) : Fails (throw e : Scan α) P := by
  intro c e' he
  rw [run_throw] at he
  exact Except.error.inj he ▸ h

theorem fails_bind {m : Scan α} {f : α → Scan β} (hm : Fails m P) (hf : ∀ a, Fails (f a) P) :
    Fails (m >>= f) P := by
  intro c e he
  rcases hrun : m.run.run c with ⟨e' | a, d⟩
  · rw [run_bind_error hrun] at he
    obtain rfl : e' = e := Except.error.inj he
    exact hm c e' (by rw [hrun])
  · rw [run_bind_ok hrun] at he
    exact hf a d e he

/-- Reading or changing what is remembered does not fail. -/
theorem fails_get {f : Caches → Scan α} (hf : ∀ c, Fails (f c) P) : Fails (get >>= f) P :=
  fails_bind (fun c e he => absurd he (by rw [run_get]; simp)) hf

theorem fails_modify {f : Unit → Scan α} (u : Caches → Caches) (hf : Fails (f ()) P) :
    Fails (modify u >>= f) P :=
  fails_bind (fun c e he => absurd he (by rw [run_modify]; simp)) fun _ => hf

theorem fails_candidateStart (g : Grammar) (line : Line) (pos : Nat) (id : RuleId) :
    Fails (candidateStart g line pos id) P := by
  have hsearch : Fails (search g line pos id) P := by
    unfold search
    split
    · exact fails_pure _
    · exact fails_modify _ (fails_pure _)
  rw [candidateStart_eq]
  refine fails_get fun c => ?_
  split
  · exact hsearch
  · exact fails_pure _
  · split
    · exact fails_pure _
    · exact hsearch

theorem fails_considerAll (g : Grammar) (line : Line) (pos : Nat) (best : Best)
    (ids : List RuleId) : Fails (considerAll g line pos best ids) P := by
  induction ids generalizing best with
  | nil => exact fails_pure _
  | cons id ids ih =>
    rw [considerAll]
    split
    · exact fails_pure _
    · exact fails_bind (fails_candidateStart g line pos id) fun _ => ih _

theorem fails_endMatcher (g : Grammar) (stack : OpenRules) :
    Fails (endMatcher g stack) fun e => ∃ cause, e = .dynamicEnd cause := by
  have hcompile (pattern : String) :
      Fails (compileEnd pattern) fun e => ∃ cause, e = .dynamicEnd cause := by
    refine fails_get fun c => ?_
    split
    · exact fails_pure _
    · split
      · exact fails_throw ⟨_, rfl⟩
      · exact fails_modify _ (fails_pure _)
  unfold endMatcher
  split
  · split
    · exact fails_pure _
    · exact fails_bind (hcompile _) fun _ => fails_pure _
    · exact fails_pure _
  · exact fails_pure _

/-- A search fails only where the end of a rule is no pattern. -/
theorem fails_next (g : Grammar) (line : Line) (pos : Nat) (stack : OpenRules) :
    Fails (next g line pos stack) fun e => ∃ cause, e = .dynamicEnd cause := by
  unfold next
  split
  · exact fails_pure _
  · refine fails_bind (fails_endMatcher g stack) fun ending => ?_
    refine fails_bind (fails_bind (fails_considerAll g line pos _ _) fun _ => fails_pure _)
      fun best => ?_
    split <;> exact fails_pure _

end Scan

/-! ### Rounds -/

namespace Tokenizer

variable {g : Grammar} {line : Line} {p : LineProgress} {c d : Caches}

/-- A round follows the answer of its search. -/
theorem run_round_of_ok {answer : Option (Hit × Match)}
    (h : (Scan.next g line p.pos p.stack).run.run c = (.ok answer, d)) :
    ((round g line p).run.run c).1 = .ok (follow g line p answer) := by
  rw [round, Scan.run_bind_ok h]
  match answer with
  | none => rfl
  | some (.ending, found) => rfl
  | some (.rule id, found) =>
    simp only [follow]
    cases g.rule? id with
    | none => rfl
    | some rule =>
      cases rule with
      | matching rule => rfl
      | group patterns => rfl
      | span rule =>
        show ((if _ then _ else _ : Scan Round).run.run d).1 = _
        split <;> rfl

theorem run_round_of_error {e : MatchError}
    (h : (Scan.next g line p.pos p.stack).run.run c = (.error e, d)) :
    (round g line p).run.run c = (.error e, d) := Scan.run_bind_error h _

/-- The rules before a line are those of the grammar, so the line is what its rounds make of it. -/
theorem run_tokenizeShort {state : OpenRules}
    (hstate : (state.find? fun f => (g.rule? f.rule).isNone) = none) (limit : Nat) (text : String) :
    ((tokenizeShort g limit text state).run.run c).1 =
      ((rounds g (Line.ofString text) limit limit { stack := state }).run.run
        c.forgetStarts).1.map fun p =>
          ⟨p.tokens.finish (Line.ofString text).size (contentScopes g p.stack), p.stack⟩ := by
  rw [tokenizeShort, hstate]
  simp only
  rw [Scan.run_bind_ok (Scan.run_modify _ c)]
  rcases hrun : (rounds g (Line.ofString text) limit limit { stack := state }).run.run
    c.forgetStarts with ⟨e | p, d⟩
  · rw [Scan.run_bind_error hrun]
    rfl
  · rw [Scan.run_bind_ok hrun]
    rfl

end Tokenizer

end Highlight
