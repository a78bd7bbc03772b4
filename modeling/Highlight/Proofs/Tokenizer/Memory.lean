import Highlight.Proofs.Tokenizer.Scan
import Highlight.Tokenizer.Line

/-!
# What a tokenizer remembers does not matter

A tokenizer keeps compiled ends from line to line, and forgets where candidates match at the
beginning of every line.  So it is enough that every compiled end is what its text compiles to
(`Caches.Sound`): two computations that begin with sound memories and the same starts give the same
answer, and end with such memories again (`Scan.Oblivious`).

`Tokenizer.Serves` says that a tokenizer is one for a grammar and a configuration, whatever it has
been used for before; it then answers what a new one answers (`Tokenizer.Serves.tokenize_eq`).
-/

namespace Highlight

/-! ### Memories -/

namespace Caches

/-- Every remembered end is what its text compiles to. -/
def Sound (c : Caches) : Prop :=
  ∀ pattern matcher, (pattern, matcher) ∈ c.ends → Matcher.ofText pattern = .ok matcher

/-- Two memories that a computation cannot tell apart. -/
structure Alike (c d : Caches) : Prop where
  starts_eq : c.starts = d.starts
  left : c.Sound
  right : d.Sound

theorem sound_empty : Sound {} := by
  intro pattern matcher h
  exact absurd h (by simp)

theorem Sound.addEnd {c : Caches} (h : c.Sound) {pattern : String} {matcher : Matcher}
    (hp : Matcher.ofText pattern = .ok matcher) : (c.addEnd pattern matcher).Sound := by
  intro other m hm
  rw [Caches.addEnd] at hm
  rcases List.mem_cons.1 hm with heq | hm
  · obtain ⟨rfl, rfl⟩ := Prod.mk.inj heq
    exact hp
  · split at hm
    · exact absurd hm (by simp)
    · exact h other m hm

/-- With the starts forgotten, sound memories are alike. -/
theorem Sound.alike_forgetStarts {c d : Caches} (hc : c.Sound) (hd : d.Sound) :
    c.forgetStarts.Alike d.forgetStarts := ⟨rfl, hc, hd⟩

theorem Alike.addStart {c d : Caches} (h : c.Alike d) (id : RuleId) (start : Option Nat) :
    (c.addStart id start).Alike (d.addStart id start) := by
  refine ⟨?_, h.left, h.right⟩
  show (id, start) :: c.starts.filter _ = (id, start) :: d.starts.filter _
  rw [h.starts_eq]

/-- What is looked up among the ends of a sound memory is what the text compiles to. -/
theorem Sound.lookup {c : Caches} (h : c.Sound) {pattern : String} {matcher : Matcher}
    (hl : c.ends.lookup pattern = some matcher) : Matcher.ofText pattern = .ok matcher := by
  obtain ⟨front, back, hends, -⟩ := List.lookup_eq_some_iff.1 hl
  exact h pattern matcher (by rw [hends]; simp)

end Caches

/-! ### Computations -/

namespace Scan

variable {α β : Type}

/-- Two memories that cannot be told apart lead to the same answer, and to two such memories. -/
def Oblivious (m : Scan α) : Prop :=
  ∀ c d : Caches, c.Alike d →
    (m.run.run c).1 = (m.run.run d).1 ∧ (m.run.run c).2.Alike (m.run.run d).2

theorem oblivious_pure (a : α) : Oblivious (pure a) := fun _ _ h => ⟨rfl, h⟩

theorem oblivious_throw (e : MatchError) : Oblivious (throw e : Scan α) := fun _ _ h => ⟨rfl, h⟩

theorem oblivious_forgetStarts : Oblivious (modify Caches.forgetStarts) :=
  fun _ _ h => ⟨rfl, h.left.alike_forgetStarts h.right⟩

theorem oblivious_addStart (id : RuleId) (start : Option Nat) :
    Oblivious (modify fun c => c.addStart id start) :=
  fun _ _ h => ⟨rfl, h.addStart id start⟩

theorem oblivious_bind {m : Scan α} {f : α → Scan β} (hm : Oblivious m)
    (hf : ∀ a, Oblivious (f a)) : Oblivious (m >>= f) := by
  intro c d h
  obtain ⟨hanswer, halike⟩ := hm c d h
  -- both fail, or both go on with one answer
  rcases hc : m.run.run c with ⟨e | a, c'⟩ <;> rcases hd : m.run.run d with ⟨e' | a', d'⟩ <;>
    rw [hc, hd] at hanswer halike
  · obtain rfl : e = e' := Except.error.inj hanswer
    rw [run_bind_error hc, run_bind_error hd]
    exact ⟨rfl, halike⟩
  · exact absurd hanswer (by simp)
  · exact absurd hanswer (by simp)
  · obtain rfl : a = a' := Except.ok.inj hanswer
    rw [run_bind_ok hc, run_bind_ok hd]
    exact hf a c' d' halike

/-! ### Searches -/

/-- An end is compiled when it is not remembered, and both come to the same. -/
theorem run_compileEnd {c : Caches} (hc : c.Sound) (pattern : String) :
    (compileEnd pattern).run.run c =
      match Matcher.ofText pattern with
      | .error cause => (.error (.dynamicEnd cause), c)
      | .ok matcher =>
        (.ok matcher, if (c.ends.lookup pattern).isSome then c else c.addEnd pattern matcher) := by
  rw [compileEnd, run_bind_ok (run_get c)]
  cases hl : c.ends.lookup pattern with
  | some matcher =>
    -- what is remembered is what would have been compiled
    rw [hc.lookup hl]
    rfl
  | none =>
    cases hp : Matcher.ofText pattern with
    | error cause => rfl
    | ok matcher => rfl

theorem oblivious_compileEnd (pattern : String) : Oblivious (compileEnd pattern) := by
  intro c d h
  rw [run_compileEnd h.left, run_compileEnd h.right]
  cases hp : Matcher.ofText pattern with
  | error cause => exact ⟨rfl, h⟩
  | ok matcher =>
    refine ⟨rfl, ?_, ?_, ?_⟩
    · show (if _ then c else c.addEnd pattern matcher).starts =
        (if _ then d else d.addEnd pattern matcher).starts
      split <;> split <;> exact h.starts_eq
    · show (if _ then c else c.addEnd pattern matcher).Sound
      split
      · exact h.left
      · exact h.left.addEnd hp
    · show (if _ then d else d.addEnd pattern matcher).Sound
      split
      · exact h.right
      · exact h.right.addEnd hp

theorem oblivious_endMatcher (g : Grammar) (stack : OpenRules) :
    Oblivious (endMatcher g stack) := by
  unfold endMatcher
  split
  · split
    · exact oblivious_pure _
    · exact oblivious_bind (oblivious_compileEnd _) fun _ => oblivious_pure _
    · exact oblivious_pure _
  · exact oblivious_pure _

/-- A search that is made because nothing is remembered. -/
theorem oblivious_search (g : Grammar) (line : Line) (pos : Nat) (id : RuleId) :
    Oblivious (match (g.rule? id).bind Rule.matcher? with
      | none => return none
      | some matcher => do
        let start := matcher.findStart? line pos
        modify fun caches => caches.addStart id start
        return start) := by
  split
  · exact oblivious_pure _
  · exact oblivious_bind (oblivious_addStart id _) fun _ => oblivious_pure _

theorem oblivious_candidateStart (g : Grammar) (line : Line) (pos : Nat) (id : RuleId) :
    Oblivious (candidateStart g line pos id) := by
  intro c d h
  rw [candidateStart, run_bind_ok (run_get c), run_bind_ok (run_get d), h.starts_eq]
  cases d.starts.lookup id with
  | none => exact oblivious_search g line pos id c d h
  | some start =>
    cases start with
    | none => exact ⟨rfl, h⟩
    | some start =>
      by_cases hpos : pos ≤ start
      · simp only [if_pos hpos]
        exact ⟨rfl, h⟩
      · simp only [if_neg hpos]
        exact oblivious_search g line pos id c d h

theorem oblivious_considerAll (g : Grammar) (line : Line) (pos : Nat) (best : Best)
    (ids : List RuleId) : Oblivious (considerAll g line pos best ids) := by
  induction ids generalizing best with
  | nil => exact oblivious_pure best
  | cons id ids ih =>
    rw [considerAll]
    split
    · exact oblivious_pure best
    · exact oblivious_bind (oblivious_candidateStart g line pos id) fun _ => ih _

theorem oblivious_nextStart (g : Grammar) (line : Line) (pos : Nat) (stack : OpenRules)
    (ending : Option Matcher) (endLast : Bool) :
    Oblivious (nextStart g line pos stack ending endLast) :=
  oblivious_bind (oblivious_considerAll g line pos _ _) fun _ => oblivious_pure _

theorem oblivious_next (g : Grammar) (line : Line) (pos : Nat) (stack : OpenRules) :
    Oblivious (next g line pos stack) := by
  unfold next
  split
  · exact oblivious_pure none
  · refine oblivious_bind (oblivious_endMatcher g stack) fun ending => ?_
    refine oblivious_bind (oblivious_nextStart g line pos stack _ _) fun best => ?_
    split <;> exact oblivious_pure _

end Scan

/-! ### Lines -/

namespace Tokenizer

theorem oblivious_round (g : Grammar) (line : Line) (p : LineProgress) :
    Scan.Oblivious (round g line p) := by
  unfold round
  refine Scan.oblivious_bind (Scan.oblivious_next g line p.pos p.stack) fun answer => ?_
  have hforget (r : Round) : Scan.Oblivious (do modify Caches.forgetStarts; return r) :=
    Scan.oblivious_bind Scan.oblivious_forgetStarts fun _ => Scan.oblivious_pure r
  split
  · exact Scan.oblivious_pure _
  · simp only
    split
    · exact hforget _
    · split
      · exact Scan.oblivious_pure _
      · split
        · exact hforget _
        · exact Scan.oblivious_pure _
      · exact Scan.oblivious_pure _

theorem oblivious_rounds (g : Grammar) (line : Line) (limit n : Nat) (p : LineProgress) :
    Scan.Oblivious (rounds g line limit n p) := by
  induction n generalizing p with
  | zero => exact Scan.oblivious_throw _
  | succ n ih =>
    refine Scan.oblivious_bind (oblivious_round g line p) fun r => ?_
    cases r with
    | done q => exact Scan.oblivious_pure q
    | more q => exact ih q

/-- A line begins with no starts remembered, so sound memories need not be alike before it. -/
theorem tokenizeShort_sound (g : Grammar) (limit : Nat) (text : String) (state : OpenRules)
    {c d : Caches} (hc : c.Sound) (hd : d.Sound) :
    ((tokenizeShort g limit text state).run.run c).1 =
        ((tokenizeShort g limit text state).run.run d).1 ∧
      ((tokenizeShort g limit text state).run.run c).2.Sound := by
  unfold tokenizeShort
  split
  · exact ⟨rfl, hc⟩
  · rw [Scan.run_bind_ok (Scan.run_modify _ c), Scan.run_bind_ok (Scan.run_modify _ d)]
    obtain ⟨hanswer, halike⟩ := Scan.oblivious_bind
      (oblivious_rounds g (Line.ofString text) limit limit { stack := state })
      (fun p => Scan.oblivious_pure (LineTokens.mk
        (p.tokens.finish (Line.ofString text).size (contentScopes g p.stack)) p.stack))
      _ _ (hc.alike_forgetStarts hd)
    exact ⟨hanswer, halike.left⟩

/-- A tokenizer is one for a grammar and a configuration, with a sound memory. -/
structure Serves (t : Tokenizer) (g : Grammar) (config : Config) : Prop where
  grammar_eq : t.grammar = g
  stepLimit_eq : t.stepLimit = (new g config).stepLimit
  maxLineLength_eq : t.maxLineLength = (new g config).maxLineLength
  sound : t.caches.Sound

theorem serves_new (g : Grammar) (config : Config) : (new g config).Serves g config :=
  ⟨rfl, rfl, rfl, Caches.sound_empty⟩

theorem Serves.forget {t : Tokenizer} {g : Grammar} {config : Config} (h : t.Serves g config) :
    t.forget.Serves g config :=
  ⟨h.grammar_eq, h.stepLimit_eq, h.maxLineLength_eq, Caches.sound_empty⟩

/-- A tokenizer answers what a new one answers. -/
theorem Serves.tokenize_eq {t : Tokenizer} {g : Grammar} {config : Config} (h : t.Serves g config)
    (text : String) (state : OpenRules) :
    (t.tokenize text state).1 = ((new g config).tokenize text state).1 := by
  unfold tokenize
  rw [h.maxLineLength_eq, h.grammar_eq, h.stepLimit_eq]
  split
  · rfl
  · exact (tokenizeShort_sound _ _ _ _ h.sound Caches.sound_empty).1

/-- A tokenizer stays one for its grammar and configuration. -/
theorem Serves.tokenize {t : Tokenizer} {g : Grammar} {config : Config} (h : t.Serves g config)
    (text : String) (state : OpenRules) : (t.tokenize text state).2.Serves g config := by
  unfold Tokenizer.tokenize
  split
  · exact h
  · exact ⟨h.grammar_eq, h.stepLimit_eq, h.maxLineLength_eq,
      (tokenizeShort_sound _ _ _ _ h.sound h.sound).2⟩

/-- A tokenizer that is new, or has tokenized lines and forgotten what it remembers, in any
order. -/
inductive Reachable (g : Grammar) (config : Config) : Tokenizer → Prop where
  | new : Reachable g config (new g config)
  | tokenize {t : Tokenizer} (text : String) (state : OpenRules) :
    Reachable g config t → Reachable g config (t.tokenize text state).2
  | forget {t : Tokenizer} : Reachable g config t → Reachable g config t.forget

theorem Reachable.serves {g : Grammar} {config : Config} {t : Tokenizer}
    (h : Reachable g config t) : t.Serves g config := by
  induction h with
  | new => exact serves_new g config
  | tokenize text state _ ih => exact ih.tokenize text state
  | forget _ ih => exact ih.forget

end Tokenizer

end Highlight
