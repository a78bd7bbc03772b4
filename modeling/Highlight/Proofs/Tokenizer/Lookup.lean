import Highlight.Proofs.Grammar.Candidates
import Highlight.Proofs.Tokenizer.OpenRules

/-!
# Every rule that is looked up is there

A grammar answers nothing for a number that it does not have, so a search goes on when it looks up
such a number.  Here a line is tokenized in the same steps with lookups that are stuck instead
(`CheckedScan.rule`, `CheckedScan.candidates`).

With a closed grammar that comes to the same (`Tokenizer.tokenizeChecked_eq`): the rules that are
open at the beginning are checked, every search looks for the candidates of an open rule or of the
root, and what it finds is one of them, so the rules that are open are rules of the grammar
throughout (`CheckedScan.follows_rounds`).
-/

namespace Highlight

/-! ### Checked lookups -/

/-- A computation that may fail and remembers searches, and that is stuck when it looks up a rule
that the grammar does not have. -/
abbrev CheckedScan := ExceptT MatchError (StateT Caches Option)

namespace CheckedScan

variable {α β : Type}

/-- What has been looked up; stuck where it is not there. -/
def present : Option α → CheckedScan α
  | some a => return a
  | none => ExceptT.mk fun _ => none

/-- The rule of the given number. -/
def rule (g : Grammar) (id : RuleId) : CheckedScan Rule := present (g.rule? id)

/-- The candidates of a rule. -/
def candidates (g : Grammar) (id : RuleId) : CheckedScan (List RuleId) := present g.candidates[id]?

/-- A computation that looks up no rules. -/
def ofScan (m : Scan α) : CheckedScan α := ExceptT.mk fun c => some (m.run.run c)

/-! ### Tokenizing with checked lookups -/

/-- The end of the innermost rule, and whether it yields to candidates. -/
def endMatcher (g : Grammar) (stack : OpenRules) : CheckedScan (Option Matcher × Bool) := do
  match ← rule g (Scan.innermost g stack) with
  | .span rule =>
    match rule.ending, stack.ending? with
    | .fixed matcher, _ => return (if stack.isEmpty then none else some matcher, rule.endLast)
    | .dynamic _, some pattern =>
      return (some (← ofScan (Scan.compileEnd pattern)), rule.endLast)
    | _, _ => return (none, rule.endLast)
  | .matching _ | .group _ => return (none, false)

/-- A search for a candidate. -/
def search (g : Grammar) (line : Line) (pos : Nat) (id : RuleId) : CheckedScan (Option Nat) := do
  match (← rule g id).matcher? with
  | none => return none
  | some matcher =>
    let start := matcher.findStart? line pos
    modify fun caches => caches.addStart id start
    return start

/-- Where a candidate matches next, by a search or from memory. -/
def candidateStart (g : Grammar) (line : Line) (pos : Nat) (id : RuleId) :
    CheckedScan (Option Nat) := do
  match (← get).starts.lookup id with
  | none => search g line pos id
  | some none => return none
  | some (some start) => if pos ≤ start then return some start else search g line pos id

/-- Compares with candidates in turn, until one matches right here. -/
def considerAll (g : Grammar) (line : Line) (pos : Nat) :
    Scan.Best → List RuleId → CheckedScan Scan.Best
  | best, [] => return best
  | best, id :: ids => do
    if best.any fun (start, _) => start == pos then return best
    let start ← candidateStart g line pos id
    considerAll g line pos (Scan.consider best start (.rule id)) ids

/-- The alternative that matches first at or after a byte offset, and where. -/
def nextStart (g : Grammar) (line : Line) (pos : Nat) (stack : OpenRules)
    (ending : Option Matcher) (endLast : Bool) : CheckedScan Scan.Best := do
  let endStart := ending.bind fun matcher => matcher.findStart? line pos
  let best := if endLast then none else Scan.consider none endStart .ending
  let best ← considerAll g line pos best (← candidates g (Scan.innermost g stack))
  return if endLast then Scan.consider best endStart .ending else best

/-- What matches next at or after a byte offset, with its match. -/
def next (g : Grammar) (line : Line) (pos : Nat) (stack : OpenRules) :
    CheckedScan (Option (Hit × Match)) := do
  if line.size < pos then return none
  let (ending, endLast) ← endMatcher g stack
  match ← nextStart g line pos stack ending endLast with
  | none => return none
  | some (start, hit) =>
    let matcher ← match hit with
      | .ending => pure ending
      | .rule id => Rule.matcher? <$> rule g id
    return (matcher.bind fun matcher => matcher.find? line start).map fun found => (hit, found)

/-- The captures of the end of a rule. -/
def endCaptures (g : Grammar) (stack : OpenRules) : CheckedScan Captures :=
  match stack.top? with
  | none => return []
  | some id => do
    match ← rule g id with
    | .span rule => return rule.endCaptures
    | .matching _ | .group _ => return []

/-- The end of the innermost rule has been found. -/
def close (g : Grammar) (p : LineProgress) (whole : Span) (found : Match) : CheckedScan Round := do
  let name := p.stack.nameScopes
  let tokens := p.tokens.extend whole.start (Tokenizer.contentScopes g p.stack)
  let tokens := tokens.addCaptures name (← endCaptures g p.stack) found
  let tokens := tokens.extend whole.stop name
  let closed := { p with stack := p.stack.tail, tokens }
  if whole.isEmpty && p.opened.any fun o =>
      o.depth == p.stack.length && o.offset == whole.stop then return .done closed
  else return .more { closed with pos := whole.stop }

/-- One round: finds what matches next and acts on it. -/
def round (g : Grammar) (line : Line) (p : LineProgress) : CheckedScan Round := do
  match ← next g line p.pos p.stack with
  | none => return .done p
  | some (hit, found) =>
    let whole := found.whole?.getD ⟨p.pos, p.pos⟩
    match hit with
    | .ending =>
      modify Caches.forgetStarts
      close g p whole found
    | .rule id =>
      match ← rule g id with
      | .matching rule => return Tokenizer.take g p rule whole found
      | .span rule =>
        let next := Tokenizer.enter g line p id rule whole found
        if next matches .more _ then modify Caches.forgetStarts
        return next
      | .group _ => return .done p

/-- Goes on for at most the given number of rounds; `limit` is how many there may be in all. -/
def rounds (g : Grammar) (line : Line) (limit : Nat) : Nat → LineProgress →
    CheckedScan LineProgress
  | 0, p => throw (.stepLimitExceeded limit p.pos)
  | n + 1, p => do
    match ← round g line p with
    | .done p => return p
    | .more p => rounds g line limit n p

/-- Tokenizes a line that is not too long. -/
def tokenizeShort (g : Grammar) (limit : Nat) (text : String) (state : OpenRules) :
    CheckedScan LineTokens := do
  match state.find? fun f => (g.rule? f.rule).isNone with
  | some f => throw (.unknownRule f.rule g.ruleCount)
  | none =>
    modify Caches.forgetStarts
    let line := Line.ofString text
    let p ← rounds g line limit limit { stack := state }
    return ⟨p.tokens.finish line.size (Tokenizer.contentScopes g p.stack), p.stack⟩

end CheckedScan

/-- Tokenizes a line with checked lookups; there is no answer if one of them is stuck. -/
def Tokenizer.tokenizeChecked (t : Tokenizer) (text : String) (state : OpenRules) :
    Option (Except MatchError LineTokens × Tokenizer) :=
  if t.maxLineLength < text.utf8ByteSize then
    some (.ok ⟨Tokens.finish [] text.utf8ByteSize (contentScopes t.grammar state), state⟩, t)
  else
    ((CheckedScan.tokenizeShort t.grammar t.stepLimit text state).run.run t.caches).map
      fun (result, caches) => (result, { t with caches })

/-! ### Following -/

namespace CheckedScan

variable {α β : Type} {g : Grammar} {line : Line} {stack : OpenRules} {pos : Nat}

/-- A computation with checked lookups is never stuck and does the same as one without checks, whose
answers satisfy a predicate. -/
structure Follows (m : CheckedScan α) (n : Scan α) (P : α → Prop) : Prop where
  run_eq : ∀ c, m.run.run c = some (n.run.run c)
  ensures : Scan.Ensures n P

theorem follows_pure {P : α → Prop} {a : α} (h : P a) : Follows (pure a) (pure a) P :=
  ⟨fun _ => rfl, Scan.ensures_pure h⟩

theorem follows_throw (e : MatchError) (P : α → Prop) : Follows (throw e) (throw e) P :=
  ⟨fun _ => rfl, Scan.ensures_throw e P⟩

theorem follows_get : Follows get get fun _ => True := ⟨fun _ => rfl, Scan.ensures_trivial _⟩

theorem follows_modify (f : Caches → Caches) : Follows (modify f) (modify f) fun _ => True :=
  ⟨fun _ => rfl, Scan.ensures_trivial _⟩

theorem follows_ofScan (m : Scan α) : Follows (ofScan m) m fun _ => True :=
  ⟨fun _ => rfl, Scan.ensures_trivial m⟩

theorem run_bind (m : CheckedScan α) (f : α → CheckedScan β) (c : Caches) :
    (m >>= f).run.run c = (m.run.run c).bind fun
      | (.ok a, d) => (f a).run.run d
      | (.error e, d) => some (.error e, d) := by
  rw [ExceptT.run_bind, StateT.run_bind]
  show Option.bind _ _ = Option.bind _ _
  congr 1
  funext ⟨answer, d⟩
  cases answer <;> rfl

theorem follows_bind {P : α → Prop} {Q : β → Prop} {m : CheckedScan α} {n : Scan α}
    {f : α → CheckedScan β} {f' : α → Scan β} (hm : Follows m n P)
    (hf : ∀ a, P a → Follows (f a) (f' a) Q) : Follows (m >>= f) (n >>= f') Q := by
  refine ⟨fun c => ?_, Scan.ensures_bind hm.ensures fun a ha => (hf a ha).ensures⟩
  rw [run_bind, hm.run_eq]
  rcases hrun : n.run.run c with ⟨e | a, d⟩
  · rw [Scan.run_bind_error hrun]
    rfl
  · rw [Scan.run_bind_ok hrun]
    exact (hf a (hm.ensures c a (by rw [hrun]))).run_eq d

theorem rule_eq {id : RuleId} {r : Rule} (h : g.rule? id = some r) : rule g id = pure r := by
  rw [rule, h]
  rfl

end CheckedScan

/-! ### Closed grammars -/

/-- The open rules are rules of the grammar. -/
def OpenRules.In (stack : OpenRules) (g : Grammar) : Prop := ∀ f ∈ stack, f.rule < g.ruleCount

/-- The alternative is no rule or one of the given ones. -/
def Hit.Among (ids : List RuleId) : Hit → Prop
  | ending => True
  | rule id => id ∈ ids

namespace CheckedScan

variable {g : Grammar} {line : Line} {stack : OpenRules} {pos : Nat} {id : RuleId}

theorem innermost_lt (hg : g.Closed) (hstack : stack.In g) :
    Scan.innermost g stack < g.ruleCount := by
  cases stack with
  | nil => exact hg.root_lt
  | cons f outer => exact hstack f List.mem_cons_self

theorem follows_endMatcher (hg : g.Closed) (hstack : stack.In g) :
    Follows (endMatcher g stack) (Scan.endMatcher g stack) fun _ => True := by
  obtain ⟨r, hr⟩ := Grammar.exists_rule?_of_lt (innermost_lt hg hstack)
  rw [endMatcher, Scan.endMatcher, rule_eq hr, pure_bind, hr]
  cases r with
  | matching => exact follows_pure trivial
  | group => exact follows_pure trivial
  | span rule =>
    simp only
    cases rule.ending with
    | fixed matcher => exact follows_pure trivial
    | never => exact follows_pure trivial
    | dynamic pattern =>
      cases stack.ending? with
      | none => exact follows_pure trivial
      | some text => exact follows_bind (follows_ofScan _) fun _ _ => follows_pure trivial

theorem follows_search (hid : id < g.ruleCount) :
    Follows (search g line pos id) (Scan.search g line pos id) fun _ => True := by
  obtain ⟨r, hr⟩ := Grammar.exists_rule?_of_lt hid
  rw [search, Scan.search, rule_eq hr, pure_bind, hr, Option.bind_some]
  cases r.matcher? with
  | none => exact follows_pure trivial
  | some matcher => exact follows_bind (follows_modify _) fun _ _ => follows_pure trivial

theorem follows_candidateStart (hid : id < g.ruleCount) :
    Follows (candidateStart g line pos id) (Scan.candidateStart g line pos id) fun _ => True := by
  rw [candidateStart, Scan.candidateStart_eq]
  refine follows_bind follows_get fun c _ => ?_
  cases c.starts.lookup id with
  | none => exact follows_search hid
  | some start =>
    cases start with
    | none => exact follows_pure trivial
    | some start =>
      simp only
      split
      · exact follows_pure trivial
      · exact follows_search hid

theorem among_consider {ids : List RuleId} {best : Scan.Best}
    (h : ∀ b, best = some b → b.2.Among ids) (start : Option Nat) {hit : Hit}
    (hhit : hit.Among ids) :
    ∀ b, Scan.consider best start hit = some b → b.2.Among ids := by
  intro b hb
  unfold Scan.consider at hb
  split at hb
  · exact h b hb
  · split at hb
    · obtain rfl := Option.some.inj hb
      exact hhit
    · split at hb
      · obtain rfl := Option.some.inj hb
        exact hhit
      · exact h b hb

theorem follows_considerAll {all ids : List RuleId} (hlt : ∀ id ∈ all, id < g.ruleCount)
    (hids : ids ⊆ all) {best : Scan.Best} (hbest : ∀ b, best = some b → b.2.Among all) :
    Follows (considerAll g line pos best ids) (Scan.considerAll g line pos best ids) fun best =>
      ∀ b, best = some b → b.2.Among all := by
  induction ids generalizing best with
  | nil => exact follows_pure hbest
  | cons id ids ih =>
    obtain ⟨hid, hrest⟩ := List.cons_subset.1 hids
    rw [considerAll, Scan.considerAll]
    split
    · exact follows_pure hbest
    · exact follows_bind (follows_candidateStart (hlt id hid)) fun start _ =>
        ih hrest (among_consider hbest start hid)

/-- The rule whose candidates are looked for has candidates. -/
theorem candidatesOf_mem (hg : g.Closed) (hstack : stack.In g) :
    g.candidatesOf (Scan.innermost g stack) ∈ g.candidates := by
  have hlt : Scan.innermost g stack < g.candidates.size :=
    hg.candidates_size ▸ innermost_lt hg hstack
  rw [Grammar.candidatesOf, Array.getD, dif_pos hlt]
  exact Array.getElem_mem hlt

theorem candidates_eq (hg : g.Closed) (hstack : stack.In g) :
    candidates g (Scan.innermost g stack) = pure (g.candidatesOf (Scan.innermost g stack)) := by
  have hlt : Scan.innermost g stack < g.candidates.size :=
    hg.candidates_size ▸ innermost_lt hg hstack
  rw [candidates, Grammar.candidatesOf, Array.getElem?_eq_getElem hlt, Array.getD, dif_pos hlt]
  rfl

/-- What is found is the end of the innermost rule or one of its candidates. -/
theorem follows_nextStart (hg : g.Closed) (hstack : stack.In g) (ending : Option Matcher)
    (endLast : Bool) :
    Follows (nextStart g line pos stack ending endLast)
      (Scan.nextStart g line pos stack ending endLast) fun best =>
        ∀ b, best = some b → b.2.Among (g.candidatesOf (Scan.innermost g stack)) := by
  unfold nextStart Scan.nextStart
  simp only [candidates_eq hg hstack, pure_bind]
  refine follows_bind (follows_considerAll
    (fun id => hg.candidate_lt (candidatesOf_mem hg hstack)) (List.Subset.refl _) ?_)
    fun best hbest => follows_pure ?_
  · split
    · exact fun b hb => absurd hb (by simp)
    · exact among_consider (fun b hb => absurd hb (by simp)) _ trivial
  · split
    · exact among_consider hbest _ trivial
    · exact hbest

theorem follows_next (hg : g.Closed) (hstack : stack.In g) :
    Follows (next g line pos stack) (Scan.next g line pos stack) fun answer =>
      ∀ id found, answer = some (.rule id, found) → id < g.ruleCount := by
  unfold next Scan.next
  split
  · exact follows_pure fun id found h => absurd h (by simp)
  · refine follows_bind (follows_endMatcher hg hstack) fun ending _ => ?_
    refine follows_bind (follows_nextStart hg hstack _ _) fun best hbest => ?_
    cases best with
    | none => exact follows_pure fun id found h => absurd h (by simp)
    | some alternative =>
      obtain ⟨start, hit⟩ := alternative
      cases hit with
      | ending =>
        refine follows_pure fun id found h => ?_
        obtain ⟨found', -, hpair⟩ := Option.map_eq_some_iff.1 h
        exact absurd hpair (by simp)
      | rule id =>
        -- it is a candidate, and those are rules of the grammar
        have hid : id < g.ruleCount := hg.candidate_lt (candidatesOf_mem hg hstack) (hbest _ rfl)
        obtain ⟨r, hr⟩ := Grammar.exists_rule?_of_lt hid
        simp only [rule_eq hr, map_pure, pure_bind, hr, Option.bind_some]
        refine follows_pure fun id' found h => ?_
        obtain ⟨found', -, hpair⟩ := Option.map_eq_some_iff.1 h
        obtain ⟨hhit, -⟩ := Prod.mk.inj hpair
        exact Hit.rule.inj hhit ▸ hid

/-! ### Rounds -/

/-- The end of an open rule has its captures. -/
theorem endCaptures_eq (hstack : stack.In g) :
    endCaptures g stack = pure (Tokenizer.endCaptures g stack) := by
  cases stack with
  | nil => rfl
  | cons f outer =>
    obtain ⟨r, hr⟩ := Grammar.exists_rule?_of_lt (hstack f List.mem_cons_self)
    have htop : OpenRules.top? (f :: outer) = some f.rule := rfl
    simp only [endCaptures, Tokenizer.endCaptures, htop, rule_eq hr, pure_bind, Option.bind_some,
      hr]
    cases r <;> rfl

variable {p : LineProgress}

theorem close_eq (hstack : p.stack.In g) (whole : Span) (found : Match) :
    close g p whole found = pure (Tokenizer.close g p whole found) := by
  rw [close, Tokenizer.close, endCaptures_eq hstack, pure_bind]
  split <;> rfl

theorem in_enter (hstack : p.stack.In g) {rule : SpanRule} (hid : id < g.ruleCount) (whole : Span)
    (found : Match) : (Tokenizer.enter g line p id rule whole found).progress.stack.In g := by
  simp only [Tokenizer.enter]
  split
  · exact hstack
  · exact List.forall_mem_cons.2 ⟨hid, hstack⟩

/-- What a round finds is a rule of the grammar, so it opens no others. -/
theorem follows_round (hg : g.Closed) (hstack : p.stack.In g) :
    Follows (round g line p) (Tokenizer.round g line p) fun r => r.progress.stack.In g := by
  unfold round Tokenizer.round
  refine follows_bind (follows_next hg hstack) fun answer hanswer => ?_
  match answer with
  | none => exact follows_pure hstack
  | some (.ending, found) =>
    refine follows_bind (follows_modify _) fun _ _ => ?_
    rw [close_eq hstack]
    refine follows_pure ?_
    rw [Tokenizer.stack_close]
    exact fun f hf => hstack f (List.mem_of_mem_tail hf)
  | some (.rule id, found) =>
    have hid : id < g.ruleCount := hanswer id found rfl
    obtain ⟨r, hr⟩ := Grammar.exists_rule?_of_lt hid
    simp only [rule_eq hr, pure_bind, hr]
    cases r with
    | matching rule =>
      refine follows_pure ?_
      rw [Tokenizer.stack_take]
      exact hstack
    | span rule =>
      have henter : (Tokenizer.enter g line p id rule (found.wholeAt p.pos) found).progress.stack.In
          g := in_enter hstack hid _ found
      have hwhole : found.whole?.getD ⟨p.pos, p.pos⟩ = found.wholeAt p.pos := rfl
      simp only [hwhole]
      cases hnext : Tokenizer.enter g line p id rule (found.wholeAt p.pos) found with
      | done q => exact follows_pure (hnext ▸ henter)
      | more q => exact follows_bind (follows_modify _) fun _ _ => follows_pure (hnext ▸ henter)
    | group patterns => exact follows_pure hstack

theorem follows_rounds (hg : g.Closed) (limit n : Nat) (hstack : p.stack.In g) :
    Follows (rounds g line limit n p) (Tokenizer.rounds g line limit n p) fun q =>
      q.stack.In g := by
  induction n generalizing p with
  | zero => exact follows_throw _ _
  | succ n ih =>
    refine follows_bind (follows_round hg hstack) fun r hr => ?_
    cases r with
    | done q => exact follows_pure hr
    | more q => exact ih hr

/-- The rules that are open before a line are looked up before anything else, and where one is
missing nothing else is looked up. -/
theorem follows_tokenizeShort (hg : g.Closed) (limit : Nat) (text : String) (state : OpenRules) :
    Follows (tokenizeShort g limit text state) (Tokenizer.tokenizeShort g limit text state)
      fun _ => True := by
  unfold tokenizeShort Tokenizer.tokenizeShort
  cases hfind : state.find? fun f => (g.rule? f.rule).isNone with
  | some f => exact follows_throw _ _
  | none =>
    have hstate : state.In g := by
      intro f hf
      have hrule := List.find?_eq_none.1 hfind f hf
      rw [Option.isNone_iff_eq_none] at hrule
      obtain ⟨r, hr⟩ := Option.ne_none_iff_exists'.1 hrule
      exact Grammar.lt_of_rule?_eq_some hr
    refine follows_bind (follows_modify _) fun _ _ => ?_
    exact follows_bind (follows_rounds hg limit limit hstate) fun q _ => follows_pure trivial

end CheckedScan

/-- **With a closed grammar no lookup is stuck**, whatever rules are open before the line. -/
theorem Tokenizer.tokenizeChecked_eq {t : Tokenizer} (ht : t.grammar.Closed) (text : String)
    (state : OpenRules) : t.tokenizeChecked text state = some (t.tokenize text state) := by
  unfold tokenizeChecked tokenize
  split
  · rfl
  · rw [(CheckedScan.follows_tokenizeShort ht t.stepLimit text state).run_eq]
    rfl

end Highlight
