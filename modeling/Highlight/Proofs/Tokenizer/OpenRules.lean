import Highlight.Grammar.Table
import Highlight.Proofs.Tokenizer.Memory
import Highlight.Proofs.Tokenizer.Rounds

/-!
# Open rules that agree are equal

`OpenRules.agrees` compares open rules by their numbers and ends, and never by their scope paths.
In the rules open after a line that is enough: the scope paths of an open rule follow from the rule
and from the rules around it (`OpenRules.Scoped`), every round of tokenizing a line keeps it so
(`Tokenizer.scoped_follow`), and so such rules that agree are equal
(`OpenRules.Scoped.eq_of_agrees`).

Hence lines may be passed over where the rules open before them agree with those that were
(`OpenRules.tokenize_eq_of_agrees`).
-/

namespace Highlight

namespace OpenRules

/-- The scope paths of every open rule are those that the rule and the rules around it lead to. -/
inductive Scoped (g : Grammar) : OpenRules → Prop where
  | nil : Scoped g []
  | cons {f : OpenRule} {outer : OpenRules} {rule : SpanRule}
    (rule_eq : g.rule? f.rule = some (.span rule))
    (name_eq : f.nameScopes = (Tokenizer.contentScopes g outer).push rule.name)
    (content_eq : f.contentScopes = f.nameScopes.push rule.contentName)
    (outer_scoped : Scoped g outer) : Scoped g (f :: outer)

variable {g : Grammar} {a b : OpenRules}

theorem Scoped.tail (h : Scoped g a) : Scoped g a.tail := by
  cases h with
  | nil => exact .nil
  | cons _ _ _ houter => exact houter

theorem agrees_cons (f f' : OpenRule) (a b : OpenRules) :
    agrees (f :: a) (f' :: b) = true ↔ f.key = f'.key ∧ agrees a b = true := by
  simp [agrees]

/-- Open rules with the same rules and ends have the same scope paths. -/
theorem Scoped.eq_of_agrees (ha : Scoped g a) (hb : Scoped g b) (h : agrees a b = true) :
    a = b := by
  induction ha generalizing b with
  | nil =>
    cases hb with
    | nil => rfl
    | cons => exact absurd h (by simp [agrees])
  | @cons f outer rule hrule hname hcontent _ ih =>
    cases hb with
    | nil => exact absurd h (by simp [agrees])
    | @cons f' outer' rule' hrule' hname' hcontent' houter' =>
      obtain ⟨hkey, hagrees⟩ := (agrees_cons f f' outer outer').1 h
      obtain ⟨hid, hending⟩ := Prod.mk.inj hkey
      -- the rules around are equal, so the same scope paths stand around this one
      obtain rfl := ih houter' hagrees
      have hsame : rule = rule' := by
        rw [hid, hrule'] at hrule
        simpa using hrule.symm
      have hnames : f.nameScopes = f'.nameScopes := by rw [hname, hname', hsame]
      have hcontents : f.contentScopes = f'.contentScopes := by
        rw [hcontent, hcontent', hnames, hsame]
      rw [List.cons.injEq]
      refine ⟨?_, rfl⟩
      cases f
      cases f'
      simp only at hid hending hnames hcontents
      rw [hid, hending, hnames, hcontents]

end OpenRules

/-! ### Rounds -/

namespace Tokenizer

variable {g : Grammar} {line : Line}

theorem stack_close (g : Grammar) (p : LineProgress) (whole : Span) (found : Match) :
    (close g p whole found).progress.stack = p.stack.tail := by
  unfold close
  split <;> rfl

theorem stack_take (g : Grammar) (p : LineProgress) (rule : MatchRule) (whole : Span)
    (found : Match) : (take g p rule whole found).progress.stack = p.stack := by
  unfold take
  split <;> rfl

/-- A rule that is opened has the scope paths that it leads to. -/
theorem scoped_enter {p : LineProgress} (h : p.stack.Scoped g) {id : RuleId} {rule : SpanRule}
    (hrule : g.rule? id = some (.span rule)) (whole : Span) (found : Match) :
    (enter g line p id rule whole found).progress.stack.Scoped g := by
  simp only [enter]
  split
  · exact h
  · exact .cons hrule rfl rfl h

theorem scoped_follow {p : LineProgress} (h : p.stack.Scoped g)
    (answer : Option (Hit × Match)) : (follow g line p answer).progress.stack.Scoped g := by
  match answer with
  | none => exact h
  | some (.ending, found) =>
    rw [follow, stack_close]
    exact h.tail
  | some (.rule id, found) =>
    rw [follow]
    split
    · rw [stack_take]
      exact h
    · exact scoped_enter h ‹_› _ found
    · exact h

/-- The rules open after a line have the scope paths that they lead to if those before it have. -/
theorem scoped_tokenize (t : Tokenizer) (text : String) {state : OpenRules}
    (h : state.Scoped t.grammar) {answer : LineTokens}
    (hanswer : (t.tokenize text state).1 = .ok answer) : answer.state.Scoped t.grammar := by
  unfold tokenize at hanswer
  split at hanswer
  · rw [← Except.ok.inj hanswer]
    exact h
  · obtain ⟨p, hp, rfl⟩ := ensures_tokenizeShort (P := fun p => p.stack.Scoped t.grammar) h
      (fun p hp => Scan.ensures_mono (ensures_round (Line.offset_ofString_le text) p) (by
        rintro r ⟨found, -, rfl⟩
        exact scoped_follow hp found)) t.stepLimit t.caches answer hanswer
    exact hp

end Tokenizer

/-! ### States between lines -/

namespace OpenRules

/-- What can be open between two lines of some document: no rule, or the rules open after a line
before which such rules are open. -/
inductive Reachable (g : Grammar) : OpenRules → Prop where
  | nil : Reachable g []
  | line {state : OpenRules} {t : Tokenizer} {text : String} {answer : LineTokens} :
    Reachable g state → t.grammar = g → (t.tokenize text state).1 = .ok answer →
    Reachable g answer.state

variable {g : Grammar} {a b : OpenRules}

theorem Reachable.scoped (h : Reachable g a) : a.Scoped g := by
  induction h with
  | nil => exact .nil
  | @line state t text answer _ hg hanswer ih =>
    rw [← hg] at ih ⊢
    exact t.scoped_tokenize text ih hanswer

/-- **Agreement is a sound test for having arrived where an earlier pass was.**  Rules open between
lines that agree have the same scope paths, and every line has the same outcome after either,
whatever the two tokenizers have been used for before. -/
theorem tokenize_eq_of_agrees (ha : Reachable g a) (hb : Reachable g b) (h : agrees a b = true) :
    a.map OpenRule.nameScopes = b.map OpenRule.nameScopes ∧
      a.map OpenRule.contentScopes = b.map OpenRule.contentScopes ∧
      ∀ (config : Config) (t u : Tokenizer), Tokenizer.Reachable g config t →
        Tokenizer.Reachable g config u → ∀ text, (t.tokenize text a).1 = (u.tokenize text b).1 := by
  obtain rfl := ha.scoped.eq_of_agrees hb.scoped h
  refine ⟨rfl, rfl, fun config t u ht hu text => ?_⟩
  rw [ht.serves.tokenize_eq, hu.serves.tokenize_eq]

end OpenRules

/-! ### A grammar of elements -/

/-- Elements that may stand in one another, each of which ends where its name does. -/
@[irreducible] def Grammar.elements : Grammar :=
  ((Grammar.compile
    { scopeName := "text"
      patterns := [{
        beginPattern := some "<([ab])>"
        endPattern := some "</\\1>"
        name := some "element"
        contentName := some "content"
        patterns := [.including "$self"] }] } []).toOption).getD default

namespace OpenRules

/-- An open element. -/
def element (ending : String) (around : ScopePath) : OpenRule :=
  ⟨1, some ending, around ++ ["element"], around ++ ["element", "content"]⟩

/-- An element is open after the line that opens it, and also after another one in it has been
opened and closed. -/
theorem tokenize_eq_of_agrees_elements :
    agrees [element "</a>" ["text"]] [element "</a>" ["text"]] = true ∧
      ((Tokenizer.new Grammar.elements {}).tokenize "x</a>" [element "</a>" ["text"]]).1 =
        (((Tokenizer.new Grammar.elements {}).tokenize "<a>" []).2.tokenize "x</a>"
          [element "</a>" ["text"]]).1 := by
  have hopened : ((Tokenizer.new Grammar.elements {}).tokenize "<a>" []).1 =
      .ok ⟨[⟨0, 3, ["text", "element"]⟩], [element "</a>" ["text"]]⟩ := by
    decide +kernel
  have hnested : ((Tokenizer.new Grammar.elements {}).tokenize "<a><b>" []).1 =
      .ok ⟨[⟨0, 3, ["text", "element"]⟩, ⟨3, 6, ["text", "element", "content", "element"]⟩],
        [element "</b>" ["text", "element", "content"], element "</a>" ["text"]]⟩ := by
    decide +kernel
  have hclosed : ((Tokenizer.new Grammar.elements {}).tokenize "</b>"
        [element "</b>" ["text", "element", "content"], element "</a>" ["text"]]).1 =
      .ok ⟨[⟨0, 4, ["text", "element", "content", "element"]⟩], [element "</a>" ["text"]]⟩ := by
    decide +kernel
  have ha := Reachable.line .nil rfl hopened
  have hb := Reachable.line (.line .nil rfl hnested) rfl hclosed
  exact ⟨rfl, (tokenize_eq_of_agrees ha hb rfl).2.2 {} _ _ .new (.tokenize _ _ .new) _⟩

end OpenRules

end Highlight
