import Highlight.Proofs.Tokenizer.Alternatives
import Highlight.Proofs.Tokenizer.StepLimit

/-!
# What a search chooses

A search of a line remembers where candidates match while it goes on.  This comes to the same as
looking for all alternatives anew each time (`Tokenizer.Reachable.next_chooses`): what is remembered
of a candidate is what an earlier search has found (`Caches.Faithful`), and that is still what a
search finds unless it has been passed.  Where the best alternative begins, a search for it finds
what a search from further back does (`Matcher.Anchored.find?_eq_of_le`).
-/

namespace Highlight

/-! ### What is remembered -/

namespace Caches

/-- What is remembered of a line up to a place: of candidates, what some search has found that began
there or before, and of ends, what their text compiles to. -/
structure Faithful (g : Grammar) (line : Line) (pos : Nat) (c : Caches) : Prop where
  sound : c.Sound
  starts : ∀ id start, (id, start) ∈ c.starts → ∃ matcher earlier,
    (g.rule? id).bind Rule.matcher? = some matcher ∧ earlier ≤ pos ∧
      matcher.findStart? line earlier = start

variable {g : Grammar} {line : Line} {pos pos' : Nat} {c : Caches}

theorem Faithful.mono (h : c.Faithful g line pos) (hle : pos ≤ pos') :
    c.Faithful g line pos' where
  sound := h.sound
  starts id start hmem := by
    obtain ⟨matcher, earlier, hmatcher, hearlier, hfound⟩ := h.starts id start hmem
    exact ⟨matcher, earlier, hmatcher, hearlier.trans hle, hfound⟩

theorem faithful_forgetStarts (h : c.Sound) : c.forgetStarts.Faithful g line pos where
  sound := h
  starts _ _ hmem := absurd hmem List.not_mem_nil

theorem Faithful.addStart (h : c.Faithful g line pos) {id : RuleId} {matcher : Matcher}
    (hmatcher : (g.rule? id).bind Rule.matcher? = some matcher) :
    (c.addStart id (matcher.findStart? line pos)).Faithful g line pos where
  sound := h.sound
  starts id' start hmem := by
    rcases List.mem_cons.1 hmem with heq | hmem
    · obtain ⟨rfl, rfl⟩ := Prod.mk.inj heq
      exact ⟨matcher, pos, hmatcher, Nat.le_refl pos, rfl⟩
    · exact h.starts id' start (List.mem_of_mem_filter hmem)

theorem Faithful.addEnd (h : c.Faithful g line pos) {pattern : String} {matcher : Matcher}
    (hpattern : Matcher.ofText pattern = .ok matcher) :
    (c.addEnd pattern matcher).Faithful g line pos :=
  ⟨h.sound.addEnd hpattern, h.starts⟩

end Caches

/-! ### Searches -/

namespace Scan

variable {α β : Type} {I : Caches → Prop} {P : α → Prop} {Q : β → Prop}

/-- With a memory of some kind a computation does not fail, and it leaves such a memory. -/
def Yields (I : Caches → Prop) (m : Scan α) (P : α → Prop) : Prop :=
  ∀ c, I c → ∃ a d, m.run.run c = (.ok a, d) ∧ P a ∧ I d

theorem yields_pure {a : α} (h : P a) : Yields I (pure a) P :=
  fun c hc => ⟨a, c, run_pure a c, h, hc⟩

theorem yields_bind {m : Scan α} {f : α → Scan β} (hm : Yields I m P)
    (hf : ∀ a, P a → Yields I (f a) Q) : Yields I (m >>= f) Q := by
  intro c hc
  obtain ⟨a, d, hrun, ha, hd⟩ := hm c hc
  rw [run_bind_ok hrun]
  exact hf a ha d hd

theorem yields_modify {f : Caches → Caches} (h : ∀ c, I c → I (f c)) :
    Yields I (modify f) fun _ => True :=
  fun c hc => ⟨(), f c, run_modify f c, trivial, h c hc⟩

section Line

variable {g : Grammar} {text : String} {pos : Nat}

/-- A candidate is found where a search finds it, also when it is remembered. -/
theorem yields_candidateStart (hg : g.Anchored) (id : RuleId) :
    Yields (Caches.Faithful g (Line.ofString text) pos)
      (candidateStart g (Line.ofString text) pos id) fun start =>
        start = ((g.rule? id).bind Rule.matcher?).bind fun matcher =>
          matcher.findStart? (Line.ofString text) pos := by
  have hsearch : Yields (Caches.Faithful g (Line.ofString text) pos)
      (search g (Line.ofString text) pos id) fun start =>
        start = ((g.rule? id).bind Rule.matcher?).bind fun matcher =>
          matcher.findStart? (Line.ofString text) pos := by
    unfold search
    cases hmatcher : (g.rule? id).bind Rule.matcher? with
    | none => exact yields_pure rfl
    | some matcher =>
      exact yields_bind (yields_modify fun c hc => hc.addStart hmatcher) fun _ _ => yields_pure rfl
  intro c hc
  rw [candidateStart_eq, run_bind_ok (run_get c)]
  cases hlookup : c.starts.lookup id with
  | none => exact hsearch c hc
  | some remembered =>
    obtain ⟨front, back, hstarts, -⟩ := List.lookup_eq_some_iff.1 hlookup
    have hmem : (id, remembered) ∈ c.starts := by
      rw [hstarts]
      exact List.mem_append_right _ List.mem_cons_self
    obtain ⟨matcher, earlier, hmatcher, hle, hfound⟩ := hc.starts id remembered hmem
    have hanchored := hg.matcher id matcher hmatcher
    cases remembered with
    | none =>
      refine yields_pure ?_ c hc
      have hnone := Matcher.find?_eq_none_of_le (hanchored.findStart?_eq_none_iff.1 hfound) hle
      rw [hmatcher]
      exact (hanchored.findStart?_eq_none_iff.2 hnone).symm
    | some start =>
      by_cases hpos : pos ≤ start
      · simp only [if_pos hpos]
        refine yields_pure ?_ c hc
        rw [hmatcher]
        exact (hanchored.findStart?_eq_of_le hfound hle hpos).symm
      · simp only [if_neg hpos]
        exact hsearch c hc

/-- **The best candidate is found, although not all are looked at and some are remembered.** -/
theorem yields_considerAll (hg : g.Anchored) (ids : List RuleId) {seen : List (Hit × Matcher)}
    {best : Best} (h : Leads (Line.ofString text) pos seen best) :
    Yields (Caches.Faithful g (Line.ofString text) pos)
      (considerAll g (Line.ofString text) pos best ids)
      (Leads (Line.ofString text) pos (seen ++ rulesOf g ids)) := by
  induction ids generalizing seen best with
  | nil =>
    refine yields_pure ?_
    rwa [rulesOf, List.filterMap_nil, List.append_nil]
  | cons id ids ih =>
    rw [considerAll]
    split
    · -- the best one so far matches right here
      rename_i hhere
      obtain ⟨⟨start, hit⟩, rfl, hstart⟩ := (Option.any_eq_true _ _).1 hhere
      obtain rfl : start = pos := by simpa using hstart
      exact yields_pure (h.append _)
    · refine yields_bind (yields_candidateStart hg id) fun start hstart => ?_
      cases hmatcher : (g.rule? id).bind Rule.matcher? with
      | none =>
        -- a group matches nothing
        have hrules : rulesOf g (id :: ids) = rulesOf g ids := by
          rw [rulesOf, List.filterMap_cons, hmatcher]
          rfl
        rw [hmatcher] at hstart
        rw [hstart, hrules]
        exact ih h
      | some matcher =>
        have hrules : rulesOf g (id :: ids) = (.rule id, matcher) :: rulesOf g ids := by
          rw [rulesOf, List.filterMap_cons, hmatcher]
          rfl
        rw [hmatcher] at hstart
        rw [hstart, hrules, List.append_cons]
        exact ih (h.consider (.rule id) matcher)

theorem yields_nextStart (hg : g.Anchored) (stack : OpenRules) (ending : Option Matcher) :
    Yields (Caches.Faithful g (Line.ofString text) pos)
      (nextStart g (Line.ofString text) pos stack ending (endsLast g stack))
      (Leads (Line.ofString text) pos (alternatives g stack ending)) := by
  have hempty : Leads (Line.ofString text) pos [] none := fun a ha => absurd ha List.not_mem_nil
  -- the end is one more alternative, if there is one
  have hend {seen : List (Hit × Matcher)} {best : Best}
      (h : Leads (Line.ofString text) pos seen best) :
      Leads (Line.ofString text) pos (seen ++ ending.toList.map fun matcher => (.ending, matcher))
        (consider best (ending.bind fun matcher =>
          matcher.findStart? (Line.ofString text) pos) .ending) := by
    cases ending with
    | none => simpa [consider] using h
    | some matcher => exact h.consider .ending matcher
  unfold nextStart alternatives
  cases endsLast g stack with
  | true =>
    refine yields_bind (yields_considerAll hg _ hempty) fun best hbest => yields_pure ?_
    exact hend hbest
  | false =>
    refine yields_bind (yields_considerAll hg _ (hend hempty)) fun best hbest => yields_pure ?_
    exact hbest

/-- The end of the innermost rule is the same from memory. -/
theorem exists_run_endMatcher (stack : OpenRules) {c : Caches}
    (hc : c.Faithful g (Line.ofString text) pos) :
    ∃ d, (endMatcher g stack).run.run c =
        ((ending g stack).map fun matcher => (matcher, endsLast g stack), d) ∧
      d.Faithful g (Line.ofString text) pos := by
  unfold endMatcher ending endsLast
  rcases hrule : g.rule? (innermost g stack) with _ | (rule | rule | patterns)
  · exact ⟨c, rfl, hc⟩
  · exact ⟨c, rfl, hc⟩
  · simp only
    rcases rule.ending with matcher | pattern | _
    · exact ⟨c, rfl, hc⟩
    · rcases stack.ending? with _ | pattern
      · exact ⟨c, rfl, hc⟩
      · have hrun := run_compileEnd hc.sound pattern
        simp only
        cases hof : Matcher.ofText pattern with
        | error cause =>
          rw [hof] at hrun
          exact ⟨c, run_bind_error hrun _, hc⟩
        | ok matcher =>
          rw [hof] at hrun
          refine ⟨_, run_bind_ok hrun _, ?_⟩
          show Caches.Faithful g (Line.ofString text) pos
            (if _ then c else c.addEnd pattern matcher)
          split
          · exact hc
          · exact hc.addEnd hof
    · exact ⟨c, rfl, hc⟩
  · exact ⟨c, rfl, hc⟩

/-- **A search chooses what a search chooses that remembers nothing and looks for all
alternatives.** -/
theorem yields_next (hg : g.Anchored) (hpos : pos ≤ (Line.ofString text).size) {stack : OpenRules}
    {ending : Option Matcher} (hending : Scan.ending g stack = .ok ending) :
    Yields (Caches.Faithful g (Line.ofString text) pos) (next g (Line.ofString text) pos stack)
      (Chooses (Line.ofString text) pos (alternatives g stack ending)) := by
  have hend : Yields (Caches.Faithful g (Line.ofString text) pos) (endMatcher g stack)
      (· = (ending, endsLast g stack)) := by
    intro c hc
    obtain ⟨d, hrun, hd⟩ := exists_run_endMatcher stack hc
    rw [hending] at hrun
    exact ⟨_, d, hrun, rfl, hd⟩
  have hanchored (hit : Hit) (matcher : Matcher)
      (h : (hit, matcher) ∈ alternatives g stack ending) : matcher.Anchored :=
    anchored_of_mem_alternatives hg hending h
  unfold next
  rw [if_neg (Nat.not_lt.2 hpos)]
  refine yields_bind hend ?_
  rintro _ rfl
  refine yields_bind (yields_nextStart hg stack ending) fun best hbest => ?_
  match best with
  | none =>
    refine yields_pure (.none fun a ha => ?_)
    exact (hanchored a.1 a.2 ha).findStart?_eq_none_iff.1 (hbest a ha)
  | some (start, hit) =>
    obtain ⟨matcher, hwins⟩ := hbest
    have hmem := hwins.mem
    have hstart := hwins.start_eq
    -- where the best one begins, a search for it finds what a search from here does
    have hle : pos ≤ start := Matcher.le_of_findStart? hstart
    have hfind := (hanchored hit matcher hmem).find?_eq_of_le hstart hle (Nat.le_refl start)
    obtain ⟨found, hfound, -⟩ := Option.bind_eq_some_iff.1 hstart
    have hlast : ((matcherOf? g ending hit).bind fun matcher =>
        matcher.find? (Line.ofString text) start) = some found := by
      rw [matcherOf?_of_mem_alternatives hmem]
      exact hfind.trans hfound
    have hchooses : Chooses (Line.ofString text) pos (alternatives g stack ending)
        (some (hit, found)) := .some hwins hfound
    refine yields_pure ?_
    show Chooses _ _ _ (Option.map (fun found => (hit, found)) ((matcherOf? g ending hit).bind _))
    rwa [hlast]

/-- Where the end of the innermost rule is no pattern a search fails. -/
theorem run_next_of_ending_error (hpos : pos ≤ (Line.ofString text).size) {stack : OpenRules}
    {e : MatchError} (hending : ending g stack = .error e) {c : Caches}
    (hc : c.Faithful g (Line.ofString text) pos) :
    ((next g (Line.ofString text) pos stack).run.run c).1 = .error e := by
  obtain ⟨d, hrun, -⟩ := exists_run_endMatcher stack hc
  rw [hending] at hrun
  unfold next
  rw [if_neg (Nat.not_lt.2 hpos), run_bind_error hrun]

/-- A round remembers what its search has found, or forgets it. -/
theorem yields_round (hg : g.Anchored) {p : LineProgress}
    (hpos : p.pos ≤ (Line.ofString text).size) {ending : Option Matcher}
    (hending : Scan.ending g p.stack = .ok ending) :
    Yields (Caches.Faithful g (Line.ofString text) p.pos)
      (Tokenizer.round g (Line.ofString text) p) fun _ => True := by
  have hforget (r : Round) : Yields (Caches.Faithful g (Line.ofString text) p.pos)
      (do modify Caches.forgetStarts; return r) fun _ => True :=
    yields_bind (yields_modify fun c hc => Caches.faithful_forgetStarts hc.sound)
      fun _ _ => yields_pure trivial
  unfold Tokenizer.round
  refine yields_bind (yields_next hg hpos hending) fun answer _ => ?_
  split
  · exact yields_pure trivial
  · simp only
    split
    · exact hforget _
    · split
      · exact yields_pure trivial
      · split
        · exact hforget _
        · exact yields_pure trivial
      · exact yields_pure trivial

end Line

end Scan

/-! ### Lines -/

namespace Moment

variable {g : Grammar} {text : String} {m m' : Moment}

/-- **What is remembered stays true from one round to the next.** -/
theorem faithful_next? (hg : g.Anchored) (hm : m.WellFormed g (Line.ofString text).size)
    (hc : m.caches.Faithful g (Line.ofString text) m.progress.pos)
    (h : m.next? g (Line.ofString text) = some m') :
    m'.caches.Faithful g (Line.ofString text) m'.progress.pos := by
  obtain ⟨answer, c, p, hrun, -, hm'⟩ := exists_answer h
  obtain ⟨whole, hwhole, hpos, -⟩ := exists_onward hm.pos_le h
  have hle : m.progress.pos ≤ m'.progress.pos := by
    rw [hpos]
    exact hwhole.le_stop
  refine Caches.Faithful.mono ?_ hle
  -- the search has succeeded, so the end of the innermost rule is a pattern
  cases hending : Scan.ending g m.progress.stack with
  | error e =>
    have herror := Scan.run_next_of_ending_error hm.pos_le hending hc
    exact absurd ((congrArg Prod.fst hrun).symm.trans herror) (by simp)
  | ok ending =>
    obtain ⟨r, d, hround, -, hd⟩ := Scan.yields_round hg hm.pos_le hending m.caches hc
    have hcaches : m'.caches = d := by
      rw [hm', hround]
    rwa [hcaches]

theorem faithful_of_mem_run (hg : g.Anchored) (hm : m.WellFormed g (Line.ofString text).size)
    (hc : m.caches.Faithful g (Line.ofString text) m.progress.pos) {n : Nat}
    (h : m' ∈ m.run g (Line.ofString text) n) :
    m'.caches.Faithful g (Line.ofString text) m'.progress.pos := by
  induction n generalizing m with
  | zero =>
    obtain rfl := List.mem_singleton.1 h
    exact hc
  | succ n ih =>
    rw [run] at h
    rcases List.mem_cons.1 h with rfl | h
    · exact hc
    · split at h
      · exact absurd h List.not_mem_nil
      · rename_i hnext
        exact ih (hm.next? hnext) (faithful_next? hg hm hc hnext) h

end Moment

namespace Tokenizer

/-- **At every moment of a line a search chooses among the alternatives as if nothing were
remembered and all of them were looked for.** -/
theorem Reachable.next_chooses {source : WrittenGrammar} {set : GrammarSet} {g : Grammar}
    {config : Config} {t : Tokenizer} (hg : Grammar.compile source set = .ok g)
    (h : Reachable g config t) (text : String) (state : OpenRules) :
    ∀ m ∈ t.moments text state,
      (∀ e, Scan.ending g m.progress.stack = .error e →
        ((Scan.next g (Line.ofString text) m.progress.pos m.progress.stack).run.run m.caches).1 =
          .error e) ∧
        ∀ ending, Scan.ending g m.progress.stack = .ok ending → ∀ answer,
          ((Scan.next g (Line.ofString text) m.progress.pos m.progress.stack).run.run
              m.caches).1 = .ok answer ↔
            Scan.Chooses (Line.ofString text) m.progress.pos
              (Scan.alternatives g m.progress.stack ending) answer := by
  intro m hm
  have hanchored := Grammar.anchored_of_compile hg
  obtain rfl := h.serves.grammar_eq
  -- nothing is remembered of a line when it begins
  have hfaithful := Moment.faithful_of_mem_run hanchored (Moment.wellFormed_start _ _ state _)
    (Caches.faithful_forgetStarts h.serves.sound) hm
  have hpos := (wellFormed_of_mem_moments hm).pos_le
  constructor
  · intro e hending
    exact Scan.run_next_of_ending_error hpos hending hfaithful
  · intro ending hending answer
    obtain ⟨chosen, d, hrun, hchooses, -⟩ :=
      Scan.yields_next hanchored hpos hending m.caches hfaithful
    rw [hrun]
    constructor
    · intro hanswer
      obtain rfl := Except.ok.inj hanswer
      exact hchooses
    · intro hanswer
      exact congrArg Except.ok (hchooses.unique hanswer)

end Tokenizer

/-! ### A rule whose end yields -/

/-- A list in which arrows may stand, although its end looks like the half of one. -/
def WrittenGrammar.arrows : WrittenGrammar where
  scopeName := "text"
  patterns := [{
    beginPattern := some "<"
    endPattern := some ">"
    patterns := [.matching ">>" "arrow", .matching "x" "item"]
    applyEndPatternLast := true }]

namespace Tokenizer

/-- Behind the item the arrow is known from the search that has found the item, and it is chosen
although the list could end at the same place. -/
theorem next_chooses_arrows :
    ∃ g, Grammar.compile .arrows [] = .ok g ∧ ∃ m ∈ (Tokenizer.new g {}).moments "<x>>" [],
      m.progress.pos = 2 ∧ (2, some 2) ∈ m.caches.starts ∧
        ∃ matcher, Scan.ending g m.progress.stack = .ok (some matcher) ∧
          matcher.findStart? (Line.ofString "<x>>") 2 = some 2 ∧
          Scan.Chooses (Line.ofString "<x>>") 2
            (Scan.alternatives g m.progress.stack (some matcher))
            (some (.rule 2, ⟨#[some ⟨2, 4⟩]⟩)) := by
  have hok : (Grammar.compile .arrows []).toOption.any (fun g => decide
      (∃ m ∈ (Tokenizer.new g {}).moments "<x>>" [],
        m.progress.pos = 2 ∧ (2, some 2) ∈ m.caches.starts ∧
          ((Scan.ending g m.progress.stack).toOption.join.bind
            fun matcher => matcher.findStart? (Line.ofString "<x>>") 2) = some 2 ∧
          ((Scan.next g (Line.ofString "<x>>") m.progress.pos m.progress.stack).run.run
            m.caches).1 = .ok (some (.rule 2, ⟨#[some ⟨2, 4⟩]⟩)))) = true := by
    decide +kernel
  obtain ⟨g, hg, hmoment⟩ := Grammar.exists_ok_of_any hok
  obtain ⟨m, hm, hpos, hstarts, hend, hanswer⟩ := of_decide_eq_true hmoment
  obtain ⟨matcher, hmatcher, hstart⟩ := Option.bind_eq_some_iff.1 hend
  have hending : Scan.ending g m.progress.stack = .ok (some matcher) := by
    cases h : Scan.ending g m.progress.stack with
    | error e => exact absurd hmatcher (by simp [h, Except.toOption])
    | ok ending => exact congrArg _ (by simpa [h, Except.toOption] using hmatcher)
  have hnew : Reachable g {} (Tokenizer.new g {}) := .new
  obtain ⟨-, hchooses⟩ := hnew.next_chooses hg "<x>>" [] m hm
  have hanswer := (hchooses _ hending _).1 hanswer
  rw [hpos] at hanswer
  exact ⟨g, hg, m, hm, hpos, hstarts, matcher, hending, hstart, hanswer⟩

end Tokenizer

end Highlight
