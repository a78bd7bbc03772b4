import Highlight.Proofs.Tokenizer.OpenRules
import Mathlib.Logic.Relation

/-!
# A tokenizer may be used again

A tokenizer that has been used answers what a new one answers, and it remembers few ends
(`Tokenizer.Reachable.tokenize_eq_new`).

What a computation does to the memory is a sequence of three changes: the starts are forgotten, a
start is added, or an end that was not there is compiled and added (`Caches.Change`).  Every search
is made of these, also one that fails (`Scan.changing_next`), so what they keep holds of the memory
at any moment.  One of the three forgets all ends when there would be too many
(`Caches.Bounded.change`); the end that is looked for is in memory all the same
(`Scan.rememberedEnd_eq`).
-/

namespace Highlight

/-! ### Changes of the memory -/

namespace Caches

/-- What is done to the memory at once. -/
inductive Change : Caches → Caches → Prop where
  | forgetStarts (c : Caches) : Change c c.forgetStarts
  | addStart (c : Caches) (id : RuleId) (start : Option Nat) : Change c (c.addStart id start)
  | addEnd {c : Caches} {pattern : String} {matcher : Matcher}
    (lookup_eq : c.ends.lookup pattern = none) (ofText_eq : Matcher.ofText pattern = .ok matcher) :
    Change c (c.addEnd pattern matcher)

/-- One memory comes of another by changes. -/
abbrev Changes : Caches → Caches → Prop := Relation.ReflTransGen Change

/-- No end is remembered twice, and not too many are. -/
structure Bounded (c : Caches) : Prop where
  nodup : (c.ends.map Prod.fst).Nodup
  length_le : c.ends.length ≤ endLimit

theorem bounded_empty : Bounded {} := ⟨.nil, Nat.zero_le _⟩

/-- Where there would be one end too many, the new one is the only one that is left. -/
theorem Bounded.change {c d : Caches} (h : c.Bounded) (hcd : Change c d) : d.Bounded := by
  cases hcd with
  | forgetStarts => exact ⟨h.nodup, h.length_le⟩
  | addStart => exact ⟨h.nodup, h.length_le⟩
  | @addEnd pattern matcher hlookup _ =>
    constructor
    case nodup =>
      show (pattern :: (if endLimit ≤ c.ends.length then [] else c.ends).map Prod.fst).Nodup
      rw [List.nodup_cons]
      split
      · exact ⟨List.not_mem_nil, .nil⟩
      · refine ⟨fun hmem => ?_, h.nodup⟩
        obtain ⟨⟨p, m⟩, hpm, rfl⟩ := List.mem_map.1 hmem
        exact absurd (List.lookup_eq_none_iff.1 hlookup _ hpm) (by simp)
    case length_le =>
      show ((pattern, matcher) :: if endLimit ≤ c.ends.length then [] else c.ends).length ≤
        endLimit
      split
      · exact Nat.le_of_ble_eq_true rfl
      · rename_i hlt
        exact Nat.lt_of_not_le hlt

theorem Bounded.changes {c d : Caches} (h : c.Bounded) (hcd : Changes c d) : d.Bounded := by
  induction hcd with
  | refl => exact h
  | tail _ hstep ih => exact ih.change hstep

end Caches

namespace Scan

variable {α β : Type} {R : Caches → Caches → Prop}

/-- All that a computation does to the memory, also when it fails, is done in steps of a kind. -/
def Changing (R : Caches → Caches → Prop) (m : Scan α) : Prop :=
  ∀ c : Caches, Relation.ReflTransGen R c (m.run.run c).2

theorem changing_pure (a : α) : Changing R (pure a) := fun _ => .refl

theorem changing_throw (e : MatchError) : Changing R (throw e : Scan α) := fun _ => .refl

theorem changing_modify {f : Caches → Caches} (h : ∀ c, R c (f c)) :
    Changing R (modify f) := fun c => .single (h c)

theorem changing_bind {m : Scan α} {f : α → Scan β} (hm : Changing R m)
    (hf : ∀ a, Changing R (f a)) : Changing R (m >>= f) := by
  intro c
  have hcd := hm c
  rcases hrun : m.run.run c with ⟨e | a, d⟩ <;> rw [hrun] at hcd
  · rw [run_bind_error hrun]
    exact hcd
  · rw [run_bind_ok hrun]
    exact hcd.trans (hf a d)

/-- A computation that looks at the memory first. -/
theorem changing_get {f : Caches → Scan α} (hf : ∀ c, Changing R (f c)) :
    Changing R (get >>= f) := changing_bind (fun _ => .refl) hf

/-! ### Searches -/

section Candidates

variable (hstart : ∀ c id start, R c (Caches.addStart c id start))
include hstart

theorem changing_candidateStart (g : Grammar) (line : Line) (pos : Nat) (id : RuleId) :
    Changing R (candidateStart g line pos id) := by
  have hsearch : Changing R (search g line pos id) := by
    unfold search
    split
    · exact changing_pure _
    · exact changing_bind (changing_modify fun c => hstart c id _) fun _ => changing_pure _
  rw [candidateStart_eq]
  refine changing_get fun c => ?_
  split
  · exact hsearch
  · exact changing_pure _
  · split
    · exact changing_pure _
    · exact hsearch

theorem changing_considerAll (g : Grammar) (line : Line) (pos : Nat) (best : Best)
    (ids : List RuleId) : Changing R (considerAll g line pos best ids) := by
  induction ids generalizing best with
  | nil => exact changing_pure best
  | cons id ids ih =>
    rw [considerAll]
    split
    · exact changing_pure best
    · exact changing_bind (changing_candidateStart hstart g line pos id) fun _ => ih _

theorem changing_nextStart (g : Grammar) (line : Line) (pos : Nat) (stack : OpenRules)
    (ending : Option Matcher) (endLast : Bool) :
    Changing R (nextStart g line pos stack ending endLast) :=
  changing_bind (changing_considerAll hstart g line pos _ _) fun _ => changing_pure _

end Candidates

/-- An end is added only when it is not in memory. -/
theorem changing_compileEnd (pattern : String) :
    Changing Caches.Change (compileEnd pattern) := by
  intro c
  rw [compileEnd, run_bind_ok (run_get c)]
  cases hlookup : c.ends.lookup pattern with
  | some matcher => exact .refl
  | none =>
    cases htext : Matcher.ofText pattern with
    | error cause => exact .refl
    | ok matcher => exact .single (.addEnd hlookup htext)

theorem changing_endMatcher (g : Grammar) (stack : OpenRules) :
    Changing Caches.Change (endMatcher g stack) := by
  unfold endMatcher
  split
  · split
    · exact changing_pure _
    · exact changing_bind (changing_compileEnd _) fun _ => changing_pure _
    · exact changing_pure _
  · exact changing_pure _

theorem changing_next (g : Grammar) (line : Line) (pos : Nat) (stack : OpenRules) :
    Changing Caches.Change (next g line pos stack) := by
  unfold next
  split
  · exact changing_pure none
  · refine changing_bind (changing_endMatcher g stack) fun ending => ?_
    refine changing_bind (changing_nextStart .addStart g line pos stack _ _) fun best => ?_
    split <;> exact changing_pure _

/-! ### Ends in memory -/

/-- The end of the innermost rule, looked up in memory where it depends on what the beginning
matched. -/
def rememberedEnd (g : Grammar) (stack : OpenRules) (c : Caches) : Option Matcher :=
  match g.rule? (innermost g stack) with
  | some (.span rule) =>
    match rule.ending with
    | .fixed matcher => if stack.isEmpty then none else some matcher
    | .dynamic _ => stack.ending?.bind fun pattern => c.ends.lookup pattern
    | .never => none
  | _ => none

/-- An end that has been compiled is in memory, whatever has been forgotten for it. -/
theorem lookup_of_compileEnd {pattern : String} {c d : Caches} {matcher : Matcher}
    (h : (compileEnd pattern).run.run c = (.ok matcher, d)) :
    d.ends.lookup pattern = some matcher := by
  rw [compileEnd, run_bind_ok (run_get c)] at h
  cases hlookup : c.ends.lookup pattern with
  | some found =>
    rw [hlookup] at h
    obtain ⟨hfound, rfl⟩ := Prod.mk.inj h
    rw [hlookup, Except.ok.inj hfound]
  | none =>
    rw [hlookup] at h
    cases htext : Matcher.ofText pattern with
    | error cause =>
      rw [htext] at h
      exact absurd (congrArg Prod.fst h) (by simp)
    | ok found =>
      rw [htext] at h
      obtain ⟨hfound, rfl⟩ := Prod.mk.inj h
      obtain rfl : found = matcher := Except.ok.inj hfound
      exact List.lookup_cons_self

/-- The end that a search has to look for is in memory. -/
theorem rememberedEnd_of_endMatcher {g : Grammar} {stack : OpenRules} {c d : Caches}
    {ending : Option Matcher} {endLast : Bool}
    (h : (endMatcher g stack).run.run c = (.ok (ending, endLast), d)) :
    rememberedEnd g stack d = ending := by
  have hpure {found : Option Matcher} {last : Bool}
      (heq : (pure (found, last) : Scan (Option Matcher × Bool)).run.run c =
        (.ok (ending, endLast), d)) : found = ending :=
    (Prod.mk.inj (Except.ok.inj (Prod.mk.inj heq).1)).1
  rw [endMatcher] at h
  rw [rememberedEnd]
  cases hrule : g.rule? (innermost g stack) with
  | none =>
    rw [hrule] at h
    exact hpure h
  | some found =>
    rw [hrule] at h
    cases found with
    | matching rule => exact hpure h
    | group patterns => exact hpure h
    | span rule =>
      simp only at h ⊢
      cases hending : rule.ending with
      | fixed matcher =>
        rw [hending] at h
        exact hpure h
      | never =>
        rw [hending] at h
        exact hpure h
      | dynamic source =>
        cases hpattern : stack.ending? with
        | none =>
          rw [hending, hpattern] at h
          exact hpure h
        | some pattern =>
          rw [hending, hpattern] at h
          simp only at h
          rcases hrun : (compileEnd pattern).run.run c with ⟨e | matcher, d'⟩
          · rw [run_bind_error hrun] at h
            exact absurd (congrArg Prod.fst h) (by simp)
          · rw [run_bind_ok hrun] at h
            obtain ⟨hanswer, rfl⟩ := Prod.mk.inj h
            rw [← (Prod.mk.inj (Except.ok.inj hanswer)).1]
            exact lookup_of_compileEnd hrun

/-- A search for candidates leaves the ends as they are. -/
theorem ends_nextStart (g : Grammar) (line : Line) (pos : Nat) (stack : OpenRules)
    (ending : Option Matcher) (endLast : Bool) (c : Caches) :
    ((nextStart g line pos stack ending endLast).run.run c).2.ends = c.ends := by
  have hsteps := changing_nextStart (R := fun c d => d.ends = c.ends) (fun _ _ _ => rfl)
    g line pos stack ending endLast c
  generalize ((nextStart g line pos stack ending endLast).run.run c).2 = d at hsteps
  induction hsteps with
  | refl => rfl
  | tail _ hstep ih => exact hstep.trans ih

/-- **The end that is looked for is in memory, before and after the candidates are looked for.** -/
theorem rememberedEnd_eq {g : Grammar} {stack : OpenRules} {c d : Caches}
    {ending : Option Matcher} {endLast : Bool}
    (h : (endMatcher g stack).run.run c = (.ok (ending, endLast), d)) (line : Line) (pos : Nat) :
    rememberedEnd g stack d = ending ∧
      rememberedEnd g stack ((nextStart g line pos stack ending endLast).run.run d).2 = ending := by
  have hd := rememberedEnd_of_endMatcher h
  refine ⟨hd, ?_⟩
  rw [← hd, rememberedEnd, rememberedEnd, ends_nextStart]

end Scan

/-! ### Lines -/

namespace Tokenizer

theorem changing_round (g : Grammar) (line : Line) (p : LineProgress) :
    Scan.Changing Caches.Change (round g line p) := by
  unfold round
  refine Scan.changing_bind (Scan.changing_next g line p.pos p.stack) fun answer => ?_
  have hforget (r : Round) :
      Scan.Changing Caches.Change (do modify Caches.forgetStarts; return r) :=
    Scan.changing_bind (Scan.changing_modify .forgetStarts) fun _ => Scan.changing_pure r
  split
  · exact Scan.changing_pure _
  · simp only
    split
    · exact hforget _
    · split
      · exact Scan.changing_pure _
      · split
        · exact hforget _
        · exact Scan.changing_pure _
      · exact Scan.changing_pure _

theorem changing_rounds (g : Grammar) (line : Line) (limit n : Nat) (p : LineProgress) :
    Scan.Changing Caches.Change (rounds g line limit n p) := by
  induction n generalizing p with
  | zero => exact Scan.changing_throw _
  | succ n ih =>
    refine Scan.changing_bind (changing_round g line p) fun r => ?_
    cases r with
    | done q => exact Scan.changing_pure q
    | more q => exact ih q

theorem changing_tokenizeShort (g : Grammar) (limit : Nat) (text : String) (state : OpenRules) :
    Scan.Changing Caches.Change (tokenizeShort g limit text state) := by
  unfold tokenizeShort
  split
  · exact Scan.changing_throw _
  · refine Scan.changing_bind (Scan.changing_modify .forgetStarts) fun _ => ?_
    exact Scan.changing_bind (changing_rounds _ _ _ _ _) fun _ => Scan.changing_pure _

/-- A line changes what a tokenizer remembers. -/
theorem changes_tokenize (t : Tokenizer) (text : String) (state : OpenRules) :
    t.caches.Changes (t.tokenize text state).2.caches := by
  unfold tokenize
  split
  · exact .refl
  · exact changing_tokenizeShort t.grammar t.stepLimit text state t.caches

theorem Reachable.bounded {g : Grammar} {config : Config} {t : Tokenizer}
    (h : Reachable g config t) : t.caches.Bounded := by
  induction h with
  | new => exact Caches.bounded_empty
  | tokenize text state _ ih => exact ih.changes (changes_tokenize _ text state)
  | forget => exact Caches.bounded_empty

/-- **A tokenizer that has been used answers what a new one answers.**  It remembers no end twice
and not too many of them, also in the midst of a line: after any number of rounds. -/
theorem Reachable.tokenize_eq_new {g : Grammar} {config : Config} {t : Tokenizer}
    (h : Reachable g config t) :
    (∀ text state, (t.tokenize text state).1 = ((Tokenizer.new g config).tokenize text state).1) ∧
      t.caches.Bounded ∧
      ∀ text state n, ((rounds g (Line.ofString text) t.stepLimit n { stack := state }).run.run
        t.caches.forgetStarts).2.Bounded := by
  refine ⟨h.serves.tokenize_eq, h.bounded, fun text state n => ?_⟩
  have hforgotten := h.bounded.change (.forgetStarts t.caches)
  exact hforgotten.changes (changing_rounds g _ t.stepLimit n { stack := state } _)

/-- A line that took too many rounds has left an end in memory, and the next line needs it. -/
theorem tokenize_eq_new_elements :
    ((Tokenizer.new Grammar.elements { stepLimitPerLine := 2 }).tokenize "<a><b>" []).1 =
        .error (.stepLimitExceeded 2 6) ∧
      ((Tokenizer.new Grammar.elements { stepLimitPerLine := 2 }).tokenize "<a><b>"
        []).2.caches.ends.map Prod.fst = ["</a>"] ∧
      (((Tokenizer.new Grammar.elements { stepLimitPerLine := 2 }).tokenize "<a><b>" []).2.tokenize
          "x</a>" [OpenRules.element "</a>" ["text"]]).1 =
        ((Tokenizer.new Grammar.elements { stepLimitPerLine := 2 }).tokenize
          "x</a>" [OpenRules.element "</a>" ["text"]]).1 := by
  have hnew : Reachable Grammar.elements { stepLimitPerLine := 2 } (Tokenizer.new _ _) := .new
  have hused := hnew.tokenize "<a><b>" []
  exact ⟨by decide +kernel, by decide +kernel, hused.tokenize_eq_new.1 _ _⟩

end Tokenizer

end Highlight
