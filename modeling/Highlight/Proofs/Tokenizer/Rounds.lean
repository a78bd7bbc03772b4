import Highlight.Proofs.Tokenizer.Scan
import Highlight.Tokenizer.Line

/-!
# Rounds

What a round of tokenizing a line leads to depends only on what its search finds
(`Tokenizer.follow`), so `Tokenizer.ensures_round` says once what a round can do.  What every round
preserves is preserved by all of them (`Tokenizer.ensures_rounds`), and so holds of the outcome of a
line (`Tokenizer.ensures_tokenizeShort`).
-/

namespace Highlight

/-- How far a line has come after a round. -/
def Round.progress : Round → LineProgress
  | .done p => p
  | .more p => p

/-- The span of a whole match; the empty one at the given place where the match has none. -/
def Match.wholeAt (found : Match) (pos : Nat) : Span := found.whole?.getD ⟨pos, pos⟩

theorem Match.Inside.wholeAt {found : Match} {line : Line} (h : found.Inside line) {pos : Nat}
    (hpos : pos ≤ line.size) :
    (found.wholeAt pos).start ≤ line.size ∧ (found.wholeAt pos).stop ≤ line.size := by
  unfold Match.wholeAt Match.whole?
  cases hspan : found.group? 0 with
  | none => exact ⟨hpos, hpos⟩
  | some span => exact h 0 span hspan

namespace Tokenizer

variable {g : Grammar} {line : Line}

/-- What a round leads to when its search has the given answer. -/
def follow (g : Grammar) (line : Line) (p : LineProgress) : Option (Hit × Match) → Round
  | none => .done p
  | some (.ending, found) => close g p (found.wholeAt p.pos) found
  | some (.rule id, found) =>
    match g.rule? id with
    | some (.matching rule) => take g p rule (found.wholeAt p.pos) found
    | some (.span rule) => enter g line p id rule (found.wholeAt p.pos) found
    | _ => .done p

/-- What is known of the answer of a search. -/
def Found (line : Line) (p : LineProgress) (answer : Option (Hit × Match)) : Prop :=
  ∀ hit found, answer = some (hit, found) →
    p.pos ≤ line.size ∧ found.Inside line ∧ (hit = .ending → p.stack ≠ [])

/-- A round follows the answer of its search. -/
theorem ensures_round (hline : ∀ i, line.offset i ≤ line.size) (p : LineProgress) :
    Scan.Ensures (round g line p) fun r =>
      ∃ answer, Found line p answer ∧ r = follow g line p answer := by
  unfold round
  refine Scan.ensures_bind (Scan.ensures_next g hline p.pos p.stack) fun answer hanswer => ?_
  match answer with
  | none => exact Scan.ensures_pure ⟨none, hanswer, rfl⟩
  | some (.ending, found) =>
    exact Scan.ensures_of_bind fun _ => Scan.ensures_pure ⟨_, hanswer, rfl⟩
  | some (.rule id, found) =>
    -- what is found is a rule, and its kind decides what the round does
    simp only
    split
    · rename_i rule hrule
      have hfollow : follow g line p (some (.rule id, found)) =
          take g p rule (found.wholeAt p.pos) found := by
        simp only [follow, hrule]
      exact Scan.ensures_pure ⟨_, hanswer, hfollow.symm⟩
    · rename_i rule hrule
      have hfollow : follow g line p (some (.rule id, found)) =
          enter g line p id rule (found.wholeAt p.pos) found := by
        simp only [follow, hrule]
      split
      · exact Scan.ensures_of_bind fun _ => Scan.ensures_pure ⟨_, hanswer, hfollow.symm⟩
      · exact Scan.ensures_pure ⟨_, hanswer, hfollow.symm⟩
    · rename_i hmatching hspan
      have hfollow : follow g line p (some (.rule id, found)) = .done p := by
        rw [follow]
        split
        · exact absurd ‹_› (hmatching _)
        · exact absurd ‹_› (hspan _)
        · rfl
      exact Scan.ensures_pure ⟨_, hanswer, hfollow.symm⟩

/-- What every round preserves, all of them do. -/
theorem ensures_rounds {P : LineProgress → Prop}
    (hround : ∀ p, P p → Scan.Ensures (round g line p) fun r => P r.progress) (limit : Nat) :
    ∀ n p, P p → Scan.Ensures (rounds g line limit n p) P := by
  intro n
  induction n with
  | zero => exact fun p _ => Scan.ensures_throw _ P
  | succ n ih =>
    intro p hp
    refine Scan.ensures_bind (hround p hp) fun r hr => ?_
    cases r with
    | done q => exact Scan.ensures_pure hr
    | more q => exact ih q hr

/-- What holds at the beginning of a line and is preserved by every round holds of the outcome. -/
theorem ensures_tokenizeShort {P : LineProgress → Prop} {text : String} {state : OpenRules}
    (hstart : P { stack := state })
    (hround : ∀ p, P p →
      Scan.Ensures (round g (Line.ofString text) p) fun r => P r.progress) (limit : Nat) :
    Scan.Ensures (tokenizeShort g limit text state) fun answer => ∃ p, P p ∧ answer =
      ⟨p.tokens.finish (Line.ofString text).size (contentScopes g p.stack), p.stack⟩ := by
  unfold tokenizeShort
  split
  · exact Scan.ensures_throw _ _
  · refine Scan.ensures_of_bind fun _ => ?_
    exact Scan.ensures_bind (ensures_rounds hround limit limit _ hstart) fun p hp =>
      Scan.ensures_pure ⟨p, hp, rfl⟩

end Tokenizer

end Highlight
