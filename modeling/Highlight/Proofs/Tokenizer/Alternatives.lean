import Highlight.Proofs.Grammar.Account
import Highlight.Proofs.Pattern.Finding
import Highlight.Tokenizer.Scan

/-!
# The alternatives of a search

What may come next in a line is the end of the innermost rule and its candidates
(`Scan.alternatives`).  Of these the one is chosen that matches first, and of several that match at
one place the first one in the list (`Scan.Chooses`); this says nothing of how it is found.

`Scan.Leads` says the same of the alternatives that have been looked at.  It is kept when one more
is looked at (`Scan.Leads.consider`), and a candidate that matches right here cannot be beaten, so
the ones after it need not be looked at (`Scan.Leads.append`).
-/

namespace Highlight

/-! ### Patterns of compiled grammars -/

/-- The patterns of all rules begin their matches where these are looked for. -/
structure Grammar.Anchored (g : Grammar) : Prop where
  matcher : ∀ id matcher, (g.rule? id).bind Rule.matcher? = some matcher → matcher.Anchored
  ending : ∀ id rule matcher, g.rule? id = some (.span rule) → rule.ending = .fixed matcher →
    matcher.Anchored

theorem Grammar.anchored_of_compile {source : WrittenGrammar} {set : GrammarSet} {g : Grammar}
    (h : compile source set = .ok g) : g.Anchored := by
  obtain ⟨a, ha⟩ := exists_account h
  -- a rule with a pattern is compiled from a written one
  have hgives (id : RuleId) (rule : Rule) (hrule : g.rule? id = some rule)
      (hpattern : ∀ patterns, rule ≠ .group patterns) :
      ∃ written : WrittenRule, written.Gives rule := by
    obtain ⟨r, -, hexplains⟩ := ha.explains id rule hrule
    have hr := hexplains.gives
    cases r with
    | root g =>
      obtain ⟨ids, hids⟩ := hr
      exact absurd hids (hpattern ids)
    | entry written path around =>
      rw [Referent.Gives] at hr
      split at hr
      · obtain ⟨ids, hids⟩ := hr
        exact absurd hids (hpattern ids)
      · exact ⟨written, hr⟩
  constructor
  case matcher =>
    intro id matcher hmatcher
    obtain ⟨rule, hrule, hsome⟩ := Option.bind_eq_some_iff.1 hmatcher
    have hpattern : ∀ patterns, rule ≠ .group patterns := by
      rintro patterns rfl
      exact absurd hsome (by simp [Rule.matcher?])
    obtain ⟨written, hwritten⟩ := hgives id rule hrule hpattern
    cases hwritten with
    | matching _ _ htext =>
      obtain rfl := Option.some.inj hsome
      exact Matcher.anchored_of_ofText htext
    | span _ _ _ htext =>
      obtain rfl := Option.some.inj hsome
      exact Matcher.anchored_of_ofText htext
    | group _ _ _ _ patterns => exact absurd rfl (hpattern patterns)
  case ending =>
    intro id rule matcher hrule hending
    obtain ⟨written, hwritten⟩ := hgives id (.span rule) hrule (fun _ => Rule.noConfusion)
    cases hwritten with
    | span _ _ _ _ hof =>
      generalize written.endPattern = text at hof
      cases hof with
      | never => exact absurd hending (by simp)
      | dynamic => exact absurd hending (by simp)
      | fixed _ htext =>
        obtain rfl := EndPattern.fixed.inj hending
        exact Matcher.anchored_of_ofText htext

/-! ### Alternatives -/

namespace Scan

/-- The end of the innermost rule, compiled anew where it depends on what the beginning matched. -/
def ending (g : Grammar) (stack : OpenRules) : Except MatchError (Option Matcher) :=
  match g.rule? (innermost g stack) with
  | some (.span rule) =>
    match rule.ending, stack.ending? with
    | .fixed matcher, _ => .ok (if stack.isEmpty then none else some matcher)
    | .dynamic _, some pattern =>
      match Matcher.ofText pattern with
      | .ok matcher => .ok (some matcher)
      | .error cause => .error (.dynamicEnd cause)
    | _, _ => .ok none
  | _ => .ok none

/-- Whether the end of the innermost rule yields to candidates. -/
def endsLast (g : Grammar) (stack : OpenRules) : Bool :=
  match g.rule? (innermost g stack) with
  | some (.span rule) => rule.endLast
  | _ => false

/-- Rules as alternatives; a group has no pattern. -/
def rulesOf (g : Grammar) (ids : List RuleId) : List (Hit × Matcher) :=
  ids.filterMap fun id => ((g.rule? id).bind Rule.matcher?).map fun matcher => (.rule id, matcher)

/-- The end of the innermost rule and its candidates in the order in which they are preferred. -/
def alternatives (g : Grammar) (stack : OpenRules) (ending : Option Matcher) :
    List (Hit × Matcher) :=
  let ends := ending.toList.map fun matcher => (.ending, matcher)
  let candidates := rulesOf g (g.candidatesOf (innermost g stack))
  if endsLast g stack then candidates ++ ends else ends ++ candidates

/-- The pattern with which an alternative is looked for. -/
def matcherOf? (g : Grammar) (ending : Option Matcher) : Hit → Option Matcher
  | .ending => ending
  | .rule id => (g.rule? id).bind Rule.matcher?

theorem matcherOf?_of_mem_alternatives {g : Grammar} {stack : OpenRules} {ending : Option Matcher}
    {hit : Hit} {matcher : Matcher} (h : (hit, matcher) ∈ alternatives g stack ending) :
    matcherOf? g ending hit = some matcher := by
  have hend (h : (hit, matcher) ∈ ending.toList.map fun matcher => (Hit.ending, matcher)) :
      hit = .ending ∧ ending = some matcher := by
    obtain ⟨other, hother, heq⟩ := List.mem_map.1 h
    obtain ⟨rfl, rfl⟩ := Prod.mk.inj heq
    exact ⟨rfl, Option.mem_toList.1 hother⟩
  have hrule {ids : List RuleId} (h : (hit, matcher) ∈ rulesOf g ids) :
      ∃ id, hit = .rule id ∧ (g.rule? id).bind Rule.matcher? = some matcher := by
    obtain ⟨id, -, heq⟩ := List.mem_filterMap.1 h
    obtain ⟨other, hother, heq⟩ := Option.map_eq_some_iff.1 heq
    obtain ⟨rfl, rfl⟩ := Prod.mk.inj heq
    exact ⟨id, rfl, hother⟩
  have hmem : (hit, matcher) ∈ rulesOf g (g.candidatesOf (innermost g stack)) ∨
      (hit, matcher) ∈ ending.toList.map fun matcher => (Hit.ending, matcher) := by
    rw [alternatives] at h
    split at h
    · exact List.mem_append.1 h
    · exact (List.mem_append.1 h).symm
  rcases hmem with h | h
  · obtain ⟨id, rfl, hmatcher⟩ := hrule h
    exact hmatcher
  · obtain ⟨rfl, hmatcher⟩ := hend h
    exact hmatcher

/-- An end that depends on what a beginning matched is a pattern like others. -/
theorem anchored_of_ending {g : Grammar} (hg : g.Anchored) {stack : OpenRules} {matcher : Matcher}
    (h : ending g stack = .ok (some matcher)) : matcher.Anchored := by
  unfold ending at h
  split at h
  · rename_i rule hrule
    split at h
    · rename_i fixed hfixed
      have heq := Except.ok.inj h
      split at heq
      · exact absurd heq (by simp)
      · exact hg.ending _ rule matcher hrule (hfixed.trans (congrArg _ (Option.some.inj heq)))
    · split at h
      · rename_i compiled hof
        obtain rfl := Option.some.inj (Except.ok.inj h)
        exact Matcher.anchored_of_ofText hof
      · exact absurd h (by simp)
    · exact absurd h (by simp)
  · exact absurd h (by simp)

theorem anchored_of_mem_alternatives {g : Grammar} (hg : g.Anchored) {stack : OpenRules}
    {ending : Option Matcher} (hending : Scan.ending g stack = .ok ending) {hit : Hit}
    {matcher : Matcher} (h : (hit, matcher) ∈ alternatives g stack ending) : matcher.Anchored := by
  have hmatcher := matcherOf?_of_mem_alternatives h
  cases hit with
  | ending => exact anchored_of_ending hg (hending.trans (congrArg _ hmatcher))
  | rule id => exact hg.matcher id matcher hmatcher

/-! ### The one that is chosen -/

/-- An alternative matches before all others, and before the ones behind it also where these match
at the same place. -/
structure Wins (line : Line) (pos : Nat) (alternatives : List (Hit × Matcher)) (hit : Hit)
    (matcher : Matcher) (start : Nat) : Prop where
  start_eq : matcher.findStart? line pos = some start
  exists_split : ∃ front back, alternatives = front ++ (hit, matcher) :: back ∧
    (∀ a ∈ front, ∀ s, a.2.findStart? line pos = some s → start < s) ∧
      ∀ a ∈ back, ∀ s, a.2.findStart? line pos = some s → start ≤ s

/-- What a search among alternatives chooses that looks for each of them: the one that matches
first, and of those that match at the same place the first one. -/
inductive Chooses (line : Line) (pos : Nat) (alternatives : List (Hit × Matcher)) :
    Option (Hit × Match) → Prop where
  | none (find_eq : ∀ a ∈ alternatives, a.2.find? line pos = none) :
    Chooses line pos alternatives none
  | some {hit : Hit} {matcher : Matcher} {found : Match} {start : Nat}
    (wins : Wins line pos alternatives hit matcher start)
    (find_eq : matcher.find? line pos = some found) :
    Chooses line pos alternatives (some (hit, found))

section Wins

variable {line : Line} {pos start start' : Nat} {alts : List (Hit × Matcher)} {hit hit' : Hit}
  {matcher matcher' : Matcher}

theorem Wins.mem (h : Wins line pos alts hit matcher start) : (hit, matcher) ∈ alts := by
  obtain ⟨front, back, rfl, -, -⟩ := h.exists_split
  exact List.mem_append_right _ List.mem_cons_self

theorem Wins.start_le (h : Wins line pos alts hit matcher start) {a : Hit × Matcher} (ha : a ∈ alts)
    {s : Nat} (hs : a.2.findStart? line pos = some s) : start ≤ s := by
  obtain ⟨front, back, rfl, hfront, hback⟩ := h.exists_split
  rcases List.mem_append.1 ha with ha | ha
  · exact Nat.le_of_lt (hfront a ha s hs)
  · rcases List.mem_cons.1 ha with rfl | ha
    · exact Nat.le_of_eq (Option.some.inj (h.start_eq.symm.trans hs))
    · exact hback a ha s hs

/-- What does not match earlier may come behind. -/
theorem Wins.append (h : Wins line pos alts hit matcher start) {more : List (Hit × Matcher)}
    (hmore : ∀ a ∈ more, ∀ s, a.2.findStart? line pos = some s → start ≤ s) :
    Wins line pos (alts ++ more) hit matcher start := by
  obtain ⟨front, back, rfl, hfront, hback⟩ := h.exists_split
  refine ⟨h.start_eq, front, back ++ more, by simp, hfront, fun a ha => ?_⟩
  exact (List.mem_append.1 ha).elim (hback a) (hmore a)

/-- The last one wins where it matches before all others. -/
theorem wins_last (hstart : matcher.findStart? line pos = some start)
    (hlt : ∀ a ∈ alts, ∀ s, a.2.findStart? line pos = some s → start < s) :
    Wins line pos (alts ++ [(hit, matcher)]) hit matcher start :=
  ⟨hstart, alts, [], rfl, hlt, fun _ ha => absurd ha List.not_mem_nil⟩

theorem Wins.unique (h : Wins line pos alts hit matcher start)
    (h' : Wins line pos alts hit' matcher' start') : (hit, matcher) = (hit', matcher') := by
  have hle := h.start_le h'.mem h'.start_eq
  have hge := h'.start_le h.mem h.start_eq
  obtain ⟨front, back, heq, hfront, -⟩ := h.exists_split
  obtain ⟨front', back', heq', hfront', -⟩ := h'.exists_split
  -- of two places in the list, the later one would have to match earlier
  rcases List.append_eq_append_iff.1 (heq.symm.trans heq') with ⟨c, hc, hrest⟩ | ⟨c, hc, hrest⟩
  · cases c with
    | nil => exact (List.cons.inj hrest).1
    | cons x c =>
      obtain ⟨rfl, -⟩ := List.cons.inj hrest
      have hlt := hfront' _ (hc ▸ List.mem_append_right _ List.mem_cons_self) _ h.start_eq
      exact absurd hle (Nat.not_le_of_lt hlt)
  · cases c with
    | nil => exact (List.cons.inj hrest).1.symm
    | cons x c =>
      obtain ⟨rfl, -⟩ := List.cons.inj hrest
      have hlt := hfront _ (hc ▸ List.mem_append_right _ List.mem_cons_self) _ h'.start_eq
      exact absurd hge (Nat.not_le_of_lt hlt)

/-- There is one choice at most. -/
theorem Chooses.unique {a b : Option (Hit × Match)} (ha : Chooses line pos alts a)
    (hb : Chooses line pos alts b) : a = b := by
  cases ha with
  | none hnone =>
    cases hb with
    | none => rfl
    | some wins hfind => exact absurd (hfind.symm.trans (hnone _ wins.mem)) (by simp)
  | some wins hfind =>
    cases hb with
    | none hnone => exact absurd (hfind.symm.trans (hnone _ wins.mem)) (by simp)
    | some wins' hfind' =>
      obtain ⟨rfl, rfl⟩ := Prod.mk.inj (wins.unique wins')
      rw [Option.some.inj (hfind.symm.trans hfind')]

end Wins

/-! ### The best one so far -/

/-- Of the alternatives that have been looked at, the best one wins. -/
def Leads (line : Line) (pos : Nat) (seen : List (Hit × Matcher)) : Best → Prop
  | none => ∀ a ∈ seen, a.2.findStart? line pos = none
  | some (start, hit) => ∃ matcher, Wins line pos seen hit matcher start

section Leads

variable {line : Line} {pos : Nat} {seen : List (Hit × Matcher)} {best : Best}

/-- One more alternative is looked at. -/
theorem Leads.consider (h : Leads line pos seen best) (hit : Hit) (matcher : Matcher) :
    Leads line pos (seen ++ [(hit, matcher)])
      (consider best (matcher.findStart? line pos) hit) := by
  have hlast {start : Nat}
      (hle : ∀ s, matcher.findStart? line pos = some s → start ≤ s) :
      ∀ a ∈ [(hit, matcher)], ∀ s, a.2.findStart? line pos = some s → start ≤ s :=
    List.forall_mem_singleton.2 hle
  cases hstart : matcher.findStart? line pos with
  | none =>
    -- it does not match, so the best one stays
    match best with
    | none => exact List.forall_mem_append.2 ⟨h, List.forall_mem_singleton.2 hstart⟩
    | some (start, best) =>
      obtain ⟨first, hfirst⟩ := h
      refine ⟨first, hfirst.append (hlast fun s hs => ?_)⟩
      exact absurd (hs.symm.trans hstart) (by simp)
  | some s =>
    match best with
    | none =>
      refine ⟨matcher, wins_last hstart fun a ha s' hs' => ?_⟩
      exact absurd (hs'.symm.trans (h a ha)) (by simp)
    | some (start, best) =>
      obtain ⟨first, hfirst⟩ := h
      simp only [Scan.consider]
      split
      · -- it matches before all others
        rename_i hlt
        refine ⟨matcher, wins_last hstart fun a ha s' hs' => ?_⟩
        exact Nat.lt_of_lt_of_le hlt (hfirst.start_le ha hs')
      · rename_i hnot
        refine ⟨first, hfirst.append (hlast fun s' hs' => ?_)⟩
        obtain rfl : s = s' := Option.some.inj (hstart.symm.trans hs')
        exact Nat.le_of_not_lt hnot

/-- One that matches right here stays the best, whatever else is looked at. -/
theorem Leads.append {text : String} {hit : Hit}
    (h : Leads (Line.ofString text) pos seen (some (pos, hit))) (more : List (Hit × Matcher)) :
    Leads (Line.ofString text) pos (seen ++ more) (some (pos, hit)) := by
  obtain ⟨first, hfirst⟩ := h
  exact ⟨first, hfirst.append fun a _ s hs => Matcher.le_of_findStart? hs⟩

end Leads

end Scan

end Highlight
