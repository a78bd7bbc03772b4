import Highlight.Proofs.Pattern.Spans
import Highlight.Tokenizer.Scan

/-!
# What a search can find

`Scan.Ensures` says that a computation which remembers searches answers only what satisfies a
predicate, whatever it remembers.  It goes through `pure`, `throw` and `bind`, so facts about a
search follow the steps in which it is written.

`Scan.ensures_next` is what the tokens of a line need to know of a search: what is found lies inside
the line, and an end is found only where a rule is open.
-/

namespace Highlight

namespace Scan

variable {α β : Type}

/-! ### Running -/

theorem run_pure (a : α) (c : Caches) : (pure a : Scan α).run.run c = (.ok a, c) := rfl

theorem run_throw (e : MatchError) (c : Caches) :
    (throw e : Scan α).run.run c = (.error e, c) := rfl

theorem run_get (c : Caches) : (get : Scan Caches).run.run c = (.ok c, c) := rfl

theorem run_modify (f : Caches → Caches) (c : Caches) :
    (modify f : Scan Unit).run.run c = (.ok (), f c) := rfl

theorem run_bind_ok {m : Scan α} {c d : Caches} {a : α} (h : m.run.run c = (.ok a, d))
    (f : α → Scan β) : (m >>= f).run.run c = (f a).run.run d := by
  rw [ExceptT.run_bind, StateT.run_bind, h]
  rfl

theorem run_bind_error {m : Scan α} {c d : Caches} {e : MatchError}
    (h : m.run.run c = (.error e, d)) (f : α → Scan β) :
    (m >>= f).run.run c = (.error e, d) := by
  rw [ExceptT.run_bind, StateT.run_bind, h]
  rfl

/-! ### Answers -/

/-- Every answer satisfies a predicate, whatever is remembered. -/
def Ensures (m : Scan α) (P : α → Prop) : Prop :=
  ∀ c a, (m.run.run c).1 = .ok a → P a

theorem ensures_pure {P : α → Prop} {a : α} (h : P a) : Ensures (pure a) P := by
  intro c b hb
  rw [run_pure] at hb
  exact Except.ok.inj hb ▸ h

theorem ensures_throw (e : MatchError) (P : α → Prop) : Ensures (throw e) P := by
  intro c b hb
  rw [run_throw] at hb
  exact absurd hb (by simp)

theorem ensures_trivial (m : Scan α) : Ensures m fun _ => True := fun _ _ _ => trivial

theorem ensures_mono {P Q : α → Prop} {m : Scan α} (hm : Ensures m P) (h : ∀ a, P a → Q a) :
    Ensures m Q := fun c a ha => h a (hm c a ha)

theorem ensures_bind {P : α → Prop} {Q : β → Prop} {m : Scan α} {f : α → Scan β}
    (hm : Ensures m P) (hf : ∀ a, P a → Ensures (f a) Q) : Ensures (m >>= f) Q := by
  intro c b hb
  rcases hrun : m.run.run c with ⟨e | a, d⟩
  · rw [run_bind_error hrun] at hb
    simp at hb
  · rw [run_bind_ok hrun] at hb
    exact hf a (hm c a (by rw [hrun])) d b hb

/-- A step whose answer does not matter. -/
theorem ensures_of_bind {Q : β → Prop} {m : Scan α} {f : α → Scan β}
    (hf : ∀ a, Ensures (f a) Q) : Ensures (m >>= f) Q :=
  ensures_bind (ensures_trivial m) fun a _ => hf a

/-! ### Searches -/

/-- A search for a candidate, made when it is not remembered where that begins. -/
def search (g : Grammar) (line : Line) (pos : Nat) (id : RuleId) : Scan (Option Nat) :=
  match (g.rule? id).bind Rule.matcher? with
  | none => return none
  | some matcher => do
    let start := matcher.findStart? line pos
    modify fun caches => caches.addStart id start
    return start

theorem candidateStart_eq (g : Grammar) (line : Line) (pos : Nat) (id : RuleId) :
    candidateStart g line pos id = (do
      match (← get).starts.lookup id with
      | none => search g line pos id
      | some none => return none
      | some (some start) => if pos ≤ start then return some start else search g line pos id) :=
  rfl

/-- Where no rule is open nothing ends. -/
theorem ensures_endMatcher (g : Grammar) (stack : OpenRules) :
    Ensures (endMatcher g stack) fun found => found.1.isSome → stack ≠ [] := by
  unfold endMatcher
  split
  · split
    · refine ensures_pure fun h hstack => ?_
      rw [hstack] at h
      simp at h
    · rename_i hending
      refine ensures_of_bind fun matcher => ensures_pure fun _ hstack => ?_
      rw [hstack] at hending
      simp [OpenRules.ending?] at hending
    · exact ensures_pure fun h => absurd h (by simp)
  · exact ensures_pure fun h => absurd h (by simp)

/-- What is found lies inside the line, and so does the place from which it was looked for.  An end
is found only where a rule is open. -/
theorem ensures_next (g : Grammar) {line : Line} (hline : ∀ i, line.offset i ≤ line.size)
    (pos : Nat) (stack : OpenRules) :
    Ensures (next g line pos stack) fun answer => ∀ hit found, answer = some (hit, found) →
      pos ≤ line.size ∧ found.Inside line ∧ (hit = .ending → stack ≠ []) := by
  unfold next
  split
  · exact ensures_pure fun hit found h => by cases h
  · rename_i hpos
    refine ensures_bind (ensures_endMatcher g stack) fun ending hending => ?_
    refine ensures_of_bind fun best => ?_
    split
    · exact ensures_pure fun hit found h => by cases h
    · rename_i start hit'
      refine ensures_pure fun hit found h => ?_
      obtain ⟨found', hfound, hpair⟩ := Option.map_eq_some_iff.1 h
      obtain ⟨rfl, rfl⟩ := Prod.mk.inj hpair
      obtain ⟨matcher, hmatcher, hfind⟩ := Option.bind_eq_some_iff.1 hfound
      refine ⟨Nat.le_of_not_lt hpos, Matcher.inside_of_find? hline hfind, ?_⟩
      rintro rfl
      exact hending (Option.isSome_of_eq_some hmatcher)

end Scan

end Highlight
