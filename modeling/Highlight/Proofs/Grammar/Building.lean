import Highlight.Proofs.Grammar.Landmarks

/-!
# Building the table

What one step of building the table of rules does (`Build.run_once_known`, `Build.run_once_new`),
and what a rule is compiled to when its patterns have their numbers (`WrittenRule.Gives`).

Compiling a rule that is no include either fails for a reason of its own, or it compiles the
patterns of the rule and then makes a rule of their numbers: nothing else of it depends on how the
rules in it are compiled (`WrittenRule.compileBody_eq`).
-/

namespace Highlight

/-! ### Running -/

namespace Build

variable {α β : Type} {t t' : Table}

theorem run_bind_ok {m : Build α} {a : α} (h : m.run t = .ok (a, t')) (f : α → Build β) :
    (m >>= f).run t = (f a).run t' := by
  rw [StateT.run_bind, h]
  rfl

theorem run_bind_error {m : Build α} {e : GrammarError} (h : m.run t = .error e)
    (f : α → Build β) : (m >>= f).run t = .error e := by
  rw [StateT.run_bind, h]
  rfl

end Build

/-- The table with one more number given out. -/
def Table.reserve (t : Table) : Table := { t with slots := t.slots.push none }

/-- The table in which the next number is that of a path. -/
def Table.open (t : Table) (path : String) : Table :=
  { slots := t.slots.push none, known := (path, t.slots.size) :: t.known }

/-- The table with a rule under a number. -/
def Table.fill (t : Table) (id : RuleId) (rule : Rule) : Table :=
  { t with slots := t.slots.setIfInBounds id (some rule) }

namespace Build

variable {t : Table} {path : String}

/-- What has a number is not compiled again. -/
theorem run_once_known {id : RuleId} (h : t.known.lookup path = some id)
    (compile : RuleId → Build Unit) : (once path compile).run t = .ok (id, t) := by
  rw [once, run_bind_ok (show (get : Build Table).run t = .ok (t, t) from rfl), h]
  rfl

/-- What has no number is compiled with the next one, which is known by then. -/
theorem run_once_new (h : t.known.lookup path = none) (compile : RuleId → Build Unit) :
    (once path compile).run t =
      (compile t.slots.size >>= fun _ => pure t.slots.size : Build RuleId).run (t.open path) := by
  rw [once, run_bind_ok (show (get : Build Table).run t = .ok (t, t) from rfl), h]
  rfl

end Build

/-! ### Rules of their own -/

/-- What the end of a rule is compiled to. -/
inductive EndPattern.Of : Option String → EndPattern → Prop where
  | never : Of none .never
  | dynamic {pattern : String} {matcher : Matcher} (refers : Backreference.isInText pattern = true)
    (ofText_eq : Matcher.ofText (Backreference.resolveText pattern []) = .ok matcher) :
    Of (some pattern) (.dynamic pattern)
  | fixed {pattern : String} {matcher : Matcher} (refers : ¬Backreference.isInText pattern = true)
    (ofText_eq : Matcher.ofText pattern = .ok matcher) : Of (some pattern) (.fixed matcher)

namespace WrittenRule

/-- What a rule that is no include is compiled to, whatever numbers its patterns have. -/
inductive Gives (rule : WrittenRule) : Rule → Prop where
  | matching {pattern : String} {matcher : Matcher} {captures : Captures}
    (while_eq : rule.whilePattern = none) (match_eq : rule.matchPattern = some pattern)
    (ofText_eq : Matcher.ofText pattern = .ok matcher)
    (captures_eq : Captures.ofWritten rule.captures = .ok captures) :
    Gives rule (.matching { name := rule.name, matcher, captures })
  | span {pattern : String} {beginMatcher : Matcher} {ending : EndPattern}
    {beginCaptures endCaptures : Captures} (while_eq : rule.whilePattern = none)
    (match_eq : rule.matchPattern = none) (begin_eq : rule.beginPattern = some pattern)
    (ofText_eq : Matcher.ofText pattern = .ok beginMatcher) (ending_of : ending.Of rule.endPattern)
    (beginCaptures_eq :
      Captures.ofWritten (capturesOr rule.beginCaptures rule.captures) = .ok beginCaptures)
    (endCaptures_eq :
      Captures.ofWritten (capturesOr rule.endCaptures rule.captures) = .ok endCaptures)
    (patterns : List RuleId) :
    Gives rule (.span {
      name := rule.name
      contentName := rule.contentName
      beginMatcher, beginCaptures, ending, endCaptures, patterns
      endLast := rule.applyEndPatternLast })
  | group (while_eq : rule.whilePattern = none) (match_eq : rule.matchPattern = none)
    (begin_eq : rule.beginPattern = none) (end_eq : rule.endPattern = none)
    (patterns : List RuleId) : Gives rule (.group patterns)

/-- The rules that are compiled with a rule; those in a rule for a text are not. -/
def inner (rule : WrittenRule) : List WrittenRule :=
  if rule.matchPattern.isSome then [] else rule.patterns

end WrittenRule

/-- The rules that are compiled with a rule are among its patterns. -/
theorem Place.listed_of_inner {p q : Place} (hq : q ∈ p.inside.listed p.path 0 p.rule.inner) :
    q ∈ p.inside.listed p.path 0 p.rule.patterns := by
  unfold WrittenRule.inner at hq
  split at hq
  · exact absurd hq List.not_mem_nil
  · exact hq

theorem WrittenGrammar.Meets.inner {g : WrittenGrammar} {p q : Place} (hp : g.Meets p)
    (hq : q ∈ p.inside.listed p.path 0 p.rule.inner) : g.Meets q := by
  obtain ⟨lexical, hmeets⟩ := hp
  exact ⟨_, hmeets.listed (Place.listed_of_inner hq)⟩

/-- Whether the error says that a rule was never compiled. -/
def GrammarError.isUnresolved : GrammarError → Bool
  | unsupportedRule _ _ .unresolved => true
  | _ => false

namespace WrittenRule

/-- A computation that fails for a reason of its own, or answers something that satisfies a
predicate, whatever the table. -/
inductive Plain {α : Type} (m : Build α) (P : α → Prop) : Prop where
  | throw {e : GrammarError} (resolved : e.isUnresolved = false) (eq : m = throw e) : Plain m P
  | pure {a : α} (holds : P a) (eq : m = pure a) : Plain m P

theorem Plain.bind {α β : Type} {m : Build α} {f : α → Build β} {P : α → Prop} {Q : β → Prop}
    (hm : Plain m P) (hf : ∀ a, P a → Plain (f a) Q) : Plain (m >>= f) Q := by
  cases hm with
  | throw hresolved heq =>
    rw [heq]
    exact .throw hresolved rfl
  | pure hP heq =>
    rw [heq, pure_bind]
    exact hf _ hP

theorem plain_compilePattern (grammar path pattern : String) :
    Plain (compilePattern grammar path pattern) fun matcher =>
      Matcher.ofText pattern = .ok matcher := by
  unfold compilePattern
  split
  · exact .pure ‹_› rfl
  · exact .throw rfl rfl

theorem plain_compileCaptures (grammar path : String) (sources : WrittenCaptures) :
    Plain (compileCaptures grammar path sources) fun captures =>
      Captures.ofWritten sources = .ok captures := by
  unfold compileCaptures
  split
  · exact .pure ‹_› rfl
  · exact .throw rfl rfl

theorem plain_compileEnd (grammar path : String) (pattern : Option String) :
    Plain (compileEnd grammar path pattern) fun ending => ending.Of pattern := by
  cases pattern with
  | none => exact .pure .never rfl
  | some pattern =>
    rw [compileEnd]
    split
    · rename_i hrefers
      refine (plain_compilePattern grammar path _).bind fun matcher hmatcher => ?_
      exact .pure (.dynamic hrefers hmatcher) rfl
    · rename_i hrefers
      refine (plain_compilePattern grammar path _).bind fun matcher hmatcher => ?_
      exact .pure (.fixed hrefers hmatcher) rfl

/-- What a rule that is no include makes of the numbers of its patterns. -/
def maker (grammar path : String) (rule : WrittenRule) : Build (List RuleId → Rule) :=
  match rule.whilePattern, rule.matchPattern, rule.beginPattern, rule.endPattern with
  | some _, _, _, _ => throw (.unsupportedRule grammar path .whilePattern)
  | none, some pattern, _, _ => do
    let matcher ← compilePattern grammar path pattern
    let captures ← compileCaptures grammar path rule.captures
    return fun _ => .matching { name := rule.name, matcher, captures }
  | none, none, some pattern, endPattern => do
    let beginMatcher ← compilePattern grammar path pattern
    let ending ← compileEnd grammar path endPattern
    let beginCaptures ← compileCaptures grammar path (capturesOr rule.beginCaptures rule.captures)
    let endCaptures ← compileCaptures grammar path (capturesOr rule.endCaptures rule.captures)
    return fun patterns => .span {
      name := rule.name
      contentName := rule.contentName
      beginMatcher, beginCaptures, ending, endCaptures, patterns
      endLast := rule.applyEndPatternLast }
  | none, none, none, some _ => throw (.unsupportedRule grammar path .endWithoutBegin)
  | none, none, none, none => return .group

/-- A rule that is no include is made when the rules in it have their numbers; nothing else of it
depends on how these are compiled. -/
theorem compileBody_eq (compile : CompileRule) (rule : WrittenRule) (around : Surroundings)
    (path : String) : compileBody compile rule around path =
      (do
        let make ← rule.maker around.grammar.scopeName path
        return make (← compileList compile (around.nested rule path) path 0 rule.inner)) := by
  unfold compileBody maker inner
  cases rule.whilePattern with
  | some => rfl
  | none =>
    cases rule.matchPattern with
    | some => simp [compileList]
    | none =>
      cases rule.beginPattern with
      | some => simp
      | none =>
        cases rule.endPattern with
        | some => rfl
        | none => simp

theorem plain_maker (grammar path : String) (rule : WrittenRule) :
    Plain (rule.maker grammar path) fun make => ∀ ids, ids.length = rule.inner.length →
      rule.Gives (make ids) ∧ (make ids).patterns = ids := by
  unfold maker
  split
  · exact .throw rfl rfl
  · rename_i pattern hwhile hmatch
    refine (plain_compilePattern grammar path pattern).bind fun matcher hmatcher => ?_
    refine (plain_compileCaptures grammar path _).bind fun captures hcaptures => ?_
    refine .pure (fun ids hlength => ⟨.matching hwhile hmatch hmatcher hcaptures, ?_⟩) rfl
    -- the rules in a rule for a text are not compiled
    rw [inner, hmatch] at hlength
    exact (List.eq_nil_of_length_eq_zero hlength).symm
  · rename_i pattern hwhile hmatch hbegin
    refine (plain_compilePattern grammar path pattern).bind fun matcher hmatcher => ?_
    refine (plain_compileEnd grammar path _).bind fun ending hending => ?_
    refine (plain_compileCaptures grammar path _).bind fun captures hcaptures => ?_
    refine (plain_compileCaptures grammar path _).bind fun captures' hcaptures' => ?_
    exact .pure (fun ids _ => ⟨.span hwhile hmatch hbegin hmatcher hending hcaptures hcaptures'
      ids, rfl⟩) rfl
  · exact .throw rfl rfl
  · rename_i hwhile hmatch hbegin hend
    exact .pure (fun ids _ => ⟨.group hwhile hmatch hbegin hend ids, rfl⟩) rfl

end WrittenRule

end Highlight
