import Highlight.Proofs.Tokenizer.OpenRules
import Mathlib.Data.List.Chain

/-!
# Tokens cover their line

The tokens of a line follow one another from its beginning to its end, and neighbours have different
scope paths (`CoversLine`).  Tokens are added in many places, with ends that may lie behind what is
covered already; but all of them go through `Tokens.extend`, which keeps the tokens made so far
without gaps and joined (`Tokens.Tiled`).

`Tokens.Within` adds what has to be known of the arguments: ends lie inside the line, and scope
paths satisfy a predicate that goes on into longer paths.  With the predicate "begins with the scope
of the grammar" this gives the first scope of every token.
-/

namespace Highlight

/-- The tokens cover a line of the given size in bytes: they begin and end where the line does, each
begins where the one before it ends and has another scope path than that, and none is empty unless
the line is. -/
structure CoversLine (size : Nat) (tokens : List Token) : Prop where
  head_start : tokens.head?.map Token.start = some 0
  last_stop : tokens.getLast?.map Token.stop = some size
  adjacent : tokens.IsChain fun a b => a.stop = b.start ∧ a.scopes ≠ b.scopes
  start_lt_stop : 0 < size → ∀ t ∈ tokens, t.start < t.stop
  single : size = 0 → ∃ scopes, tokens = [⟨0, 0, scopes⟩]

namespace Tokens

/-! ### Without gaps and joined -/

/-- Tokens made so far, the last one first: each begins where what is before it ends, takes some
text, and has another scope path than its neighbour. -/
inductive Tiled : Tokens → Prop where
  | nil : Tiled []
  | cons {t : Token} {before : Tokens} (start_eq : t.start = covered before)
    (start_lt : t.start < t.stop) (scopes_ne : ∀ last ∈ before.head?, last.scopes ≠ t.scopes)
    (tiled : Tiled before) : Tiled (t :: before)

theorem Tiled.extend {tokens : Tokens} (h : tokens.Tiled) (stop : Nat) (scopes : ScopePath) :
    (tokens.extend stop scopes).Tiled := by
  unfold Tokens.extend
  split
  · exact h
  · rename_i hstop
    have hlt : covered tokens < stop := Nat.lt_of_not_le hstop
    cases h with
    | nil => exact .cons rfl hlt (by simp) .nil
    | @cons last before hstart hle hne htiled =>
      simp only
      split
      · -- the last token goes on
        rename_i heq
        obtain rfl : last.scopes = scopes := by simpa using heq
        exact .cons hstart (Nat.lt_trans hle hlt) hne htiled
      · -- a token with other scopes begins where the last one ends
        rename_i hscopes
        refine .cons rfl hlt ?_ (.cons hstart hle hne htiled)
        rintro t ht rfl
        obtain rfl : last = t := by simpa using ht
        exact hscopes (by simp)

theorem covered_extend (tokens : Tokens) (stop : Nat) (scopes : ScopePath) :
    (tokens.extend stop scopes).covered = max tokens.covered stop := by
  unfold Tokens.extend
  split
  · rw [Nat.max_eq_left ‹_›]
  · rw [Nat.max_eq_right (by omega)]
    split
    · rfl
    · split <;> rfl

theorem Tiled.isChain {tokens : Tokens} (h : tokens.Tiled) :
    tokens.IsChain fun b a => a.stop = b.start ∧ a.scopes ≠ b.scopes := by
  induction h with
  | nil => exact .nil
  | @cons t before hstart _ hne _ ih =>
    cases before with
    | nil => exact .singleton t
    | cons last before => exact .cons_cons ⟨hstart.symm, hne last rfl⟩ ih

theorem Tiled.getLast_start {tokens : Tokens} (h : tokens.Tiled) (hne : tokens ≠ []) :
    (tokens.getLast hne).start = 0 := by
  induction h with
  | nil => exact absurd rfl hne
  | @cons t before hstart _ _ _ ih =>
    cases before with
    | nil => exact hstart
    | cons last before =>
      rw [List.getLast_cons (List.cons_ne_nil last before)]
      exact ih _

theorem Tiled.start_lt_stop {tokens : Tokens} (h : tokens.Tiled) :
    ∀ t ∈ tokens, t.start < t.stop := by
  induction h with
  | nil => exact fun t ht => absurd ht (by simp)
  | cons _ hlt _ _ ih =>
    intro t ht
    rcases List.mem_cons.1 ht with rfl | ht
    · exact hlt
    · exact ih t ht

/-- Tokens that cover nothing are none. -/
theorem Tiled.eq_nil {tokens : Tokens} (h : tokens.Tiled) (hc : tokens.covered = 0) :
    tokens = [] := by
  cases h with
  | nil => rfl
  | @cons t before _ hlt _ _ =>
    have : t.stop = 0 := hc
    omega

/-- When the rest is covered as well, the tokens cover the line. -/
theorem Tiled.coversLine_finish {tokens : Tokens} (h : tokens.Tiled) {size : Nat}
    (hsize : tokens.covered ≤ size) (scopes : ScopePath) :
    CoversLine size (tokens.finish size scopes) := by
  have hext := h.extend size scopes
  have hcov : (tokens.extend size scopes).covered = size := by
    rw [covered_extend, Nat.max_eq_right hsize]
  unfold finish
  split
  · -- nothing is covered in the end, so the line is empty
    rename_i hnil
    rw [hnil] at hcov
    obtain rfl : 0 = size := hcov
    exact ⟨rfl, rfl, .singleton _, fun h => absurd h (by omega), fun _ => ⟨scopes, rfl⟩⟩
  · rename_i all hnil
    have hne : tokens.extend size scopes ≠ [] := fun h => hnil h
    constructor
    case head_start =>
      rw [List.head?_reverse, List.getLast?_eq_some_getLast hne, Option.map_some,
        hext.getLast_start hne]
    case last_stop =>
      rw [List.getLast?_reverse]
      obtain ⟨last, before, heq⟩ := List.exists_cons_of_ne_nil hne
      rw [heq] at hcov ⊢
      rw [List.head?_cons, Option.map_some]
      exact congrArg some hcov
    case adjacent => exact List.isChain_reverse.2 hext.isChain
    case start_lt_stop =>
      exact fun _ t ht => hext.start_lt_stop t (List.mem_reverse.1 ht)
    case single =>
      intro h0
      exact absurd (hext.eq_nil (hcov.trans h0)) hne

/-! ### Inside the line, with scope paths of a kind -/

/-- Tokens made so far that end inside the line, with scope paths that satisfy a predicate. -/
structure Within (P : ScopePath → Prop) (size : Nat) (tokens : Tokens) : Prop where
  tiled : tokens.Tiled
  covered_le : tokens.covered ≤ size
  scopes : ∀ t ∈ tokens, P t.scopes

variable {P : ScopePath → Prop} {size : Nat}

theorem within_nil : Within P size [] := ⟨.nil, Nat.zero_le _, fun t ht => absurd ht (by simp)⟩

theorem scopes_extend {tokens : Tokens} (h : ∀ t ∈ tokens, P t.scopes) (stop : Nat)
    {scopes : ScopePath} (hs : P scopes) : ∀ t ∈ tokens.extend stop scopes, P t.scopes := by
  unfold extend
  split
  · exact h
  · cases tokens with
    | nil => simpa using hs
    | cons last before =>
      simp only
      split
      · exact List.forall_mem_cons.2 ⟨hs, (List.forall_mem_cons.1 h).2⟩
      · exact List.forall_mem_cons.2 ⟨hs, h⟩

theorem Within.extend {tokens : Tokens} (h : Within P size tokens) {stop : Nat}
    (hstop : stop ≤ size) {scopes : ScopePath} (hs : P scopes) :
    Within P size (tokens.extend stop scopes) := by
  refine ⟨h.tiled.extend stop scopes, ?_, scopes_extend h.scopes stop hs⟩
  rw [covered_extend]
  exact Nat.max_le.2 ⟨h.covered_le, hstop⟩

theorem scopes_finish {tokens : Tokens} (h : ∀ t ∈ tokens, P t.scopes) (size : Nat)
    {scopes : ScopePath} (hs : P scopes) : ∀ t ∈ tokens.finish size scopes, P t.scopes := by
  unfold finish
  split
  · simpa using hs
  · intro t ht
    exact scopes_extend h size hs t (List.mem_reverse.1 ht)

/-! ### Captures -/

/-- The groups that are open end inside the line, and the scope paths in them satisfy the
predicate. -/
def OpenedWithin (P : ScopePath → Prop) (size : Nat) (opened : List (Nat × ScopePath)) : Prop :=
  ∀ group ∈ opened, group.1 ≤ size ∧ P group.2

theorem within_closeAll {tokens : Tokens} {opened : List (Nat × ScopePath)}
    (h : Within P size tokens) (ho : OpenedWithin P size opened) :
    Within P size (closeAll tokens opened) := by
  induction opened generalizing tokens with
  | nil => exact h
  | cons group outer ih =>
    obtain ⟨hgroup, houter⟩ := List.forall_mem_cons.1 ho
    exact ih (h.extend hgroup.1 hgroup.2) houter

theorem within_closeBefore (start : Nat) {tokens : Tokens} {opened : List (Nat × ScopePath)}
    (h : Within P size tokens) (ho : OpenedWithin P size opened) :
    Within P size (closeBefore start tokens opened).tokens ∧
      OpenedWithin P size (closeBefore start tokens opened).opened := by
  induction opened generalizing tokens with
  | nil => exact ⟨h, ho⟩
  | cons group outer ih =>
    obtain ⟨hgroup, houter⟩ := List.forall_mem_cons.1 ho
    rw [closeBefore]
    split
    · exact ih (h.extend hgroup.1 hgroup.2) houter
    · exact ⟨h, ho⟩

section Groups

variable (hpush : ∀ path scope, P path → P (ScopePath.push path scope))
include hpush

theorem within_addGroup {base : ScopePath} (hbase : P base) {found : Match} {line : Line}
    (hfound : found.Inside line) {n : Nesting} (h : Within P line.size n.tokens)
    (ho : OpenedWithin P line.size n.opened) (capture : Nat × Scope) :
    Within P line.size (n.addGroup base found capture).tokens ∧
      OpenedWithin P line.size (n.addGroup base found capture).opened := by
  unfold Nesting.addGroup
  split
  · exact ⟨h, ho⟩
  · rename_i span hspan
    obtain ⟨hstart, hstop⟩ := hfound _ span hspan
    split
    · exact ⟨h, ho⟩
    · obtain ⟨h, ho⟩ := within_closeBefore span.start h ho
      refine (fun houter : P _ => ⟨h.extend hstart houter,
        List.forall_mem_cons.2 ⟨⟨hstop, hpush _ (some capture.2) houter⟩, ho⟩⟩) ?_
      -- the group is added inside the innermost one that is still open
      split
      · exact hbase
      · rename_i heq
        exact (ho _ (by rw [heq]; exact List.mem_cons_self)).2

theorem within_addCaptures {base : ScopePath} (hbase : P base) {found : Match} {line : Line}
    (hfound : found.Inside line) {tokens : Tokens} (h : Within P line.size tokens)
    (captures : Captures) :
    Within P line.size (tokens.addCaptures base captures found) := by
  have hfold : ∀ (captures : Captures) (n : Nesting), Within P line.size n.tokens →
      OpenedWithin P line.size n.opened →
      Within P line.size (captures.foldl (Nesting.addGroup base found) n).tokens ∧
        OpenedWithin P line.size (captures.foldl (Nesting.addGroup base found) n).opened := by
    intro captures
    induction captures with
    | nil => exact fun n h ho => ⟨h, ho⟩
    | cons capture captures ih =>
      intro n h ho
      obtain ⟨h, ho⟩ := within_addGroup hpush hbase hfound h ho capture
      exact ih _ h ho
  obtain ⟨h, ho⟩ := hfold captures ⟨tokens, []⟩ h (fun group hg => absurd hg (by simp))
  exact within_closeAll h ho

end Groups

end Tokens

/-! ### Rounds -/

/-- The scope paths of all open rules satisfy a predicate. -/
def OpenRules.ScopesSatisfy (P : ScopePath → Prop) (stack : OpenRules) : Prop :=
  ∀ f ∈ stack, P f.nameScopes ∧ P f.contentScopes

namespace Tokenizer

open OpenRules (ScopesSatisfy)

variable {g : Grammar} {line : Line} {P : ScopePath → Prop}

theorem satisfies_contentScopes (hroot : P [g.scopeName]) {stack : OpenRules}
    (h : ScopesSatisfy P stack) : P (contentScopes g stack) := by
  cases stack with
  | nil => exact hroot
  | cons f outer => exact (h f List.mem_cons_self).2

section Follow

variable (hroot : P [g.scopeName]) (hpush : ∀ path scope, P path → P (ScopePath.push path scope))

/-- What rounds preserve of the tokens and the open rules. -/
def Covering (P : ScopePath → Prop) (line : Line) (p : LineProgress) : Prop :=
  p.tokens.Within P line.size ∧ ScopesSatisfy P p.stack

include hroot hpush

theorem covering_close {p : LineProgress} (h : Covering P line p) (hne : p.stack ≠ [])
    {found : Match} (hfound : found.Inside line) {whole : Span}
    (hwhole : whole.start ≤ line.size ∧ whole.stop ≤ line.size) :
    Covering P line (close g p whole found).progress := by
  have hname : P p.stack.nameScopes := by
    obtain ⟨f, outer, heq⟩ := List.exists_cons_of_ne_nil hne
    rw [heq]
    exact (h.2 f (by rw [heq]; exact List.mem_cons_self)).1
  have htokens := Tokens.within_addCaptures hpush hname hfound
    (h.1.extend hwhole.1 (satisfies_contentScopes hroot h.2)) (endCaptures g p.stack)
  have hstack : ScopesSatisfy P p.stack.tail := fun f hf => h.2 f (List.mem_of_mem_tail hf)
  simp only [close]
  split
  · exact ⟨htokens.extend hwhole.2 hname, hstack⟩
  · exact ⟨htokens.extend hwhole.2 hname, hstack⟩

theorem covering_take {p : LineProgress} (h : Covering P line p) (rule : MatchRule)
    {found : Match} (hfound : found.Inside line) {whole : Span}
    (hwhole : whole.start ≤ line.size ∧ whole.stop ≤ line.size) :
    Covering P line (take g p rule whole found).progress := by
  have hcontent : P (contentScopes g p.stack) := satisfies_contentScopes hroot h.2
  have hname := hpush _ rule.name hcontent
  have htokens := Tokens.within_addCaptures hpush hname hfound
    (h.1.extend hwhole.1 hcontent) rule.captures
  simp only [take]
  split
  · exact ⟨htokens.extend hwhole.2 hname, h.2⟩
  · exact ⟨htokens.extend hwhole.2 hname, h.2⟩

theorem covering_enter {p : LineProgress} (h : Covering P line p) (id : RuleId) (rule : SpanRule)
    {found : Match} (hfound : found.Inside line) {whole : Span}
    (hwhole : whole.start ≤ line.size ∧ whole.stop ≤ line.size) :
    Covering P line (enter g line p id rule whole found).progress := by
  have hcontent : P (contentScopes g p.stack) := satisfies_contentScopes hroot h.2
  have hname := hpush _ rule.name hcontent
  have htokens := Tokens.within_addCaptures hpush hname hfound
    (h.1.extend hwhole.1 hcontent) rule.beginCaptures
  simp only [enter]
  split
  · exact h
  · exact ⟨htokens.extend hwhole.2 hname,
      List.forall_mem_cons.2 ⟨⟨hname, hpush _ rule.contentName hname⟩, h.2⟩⟩

theorem covering_follow {p : LineProgress} (h : Covering P line p)
    {answer : Option (Hit × Match)} (hanswer : Found line p answer) :
    Covering P line (follow g line p answer).progress := by
  match answer, hanswer with
  | none, _ => exact h
  | some (.ending, found), hanswer =>
    obtain ⟨hpos, hfound, hne⟩ := hanswer _ _ rfl
    exact covering_close hroot hpush h (hne rfl) hfound (hfound.wholeAt hpos)
  | some (.rule id, found), hanswer =>
    obtain ⟨hpos, hfound, -⟩ := hanswer _ _ rfl
    rw [follow]
    split
    · exact covering_take hroot hpush h _ hfound (hfound.wholeAt hpos)
    · exact covering_enter hroot hpush h id _ hfound (hfound.wholeAt hpos)
    · exact h

/-- The tokens of a line cover it, and their scope paths satisfy what those of the open rules do. -/
theorem covers_tokenize {t : Tokenizer} (hg : t.grammar = g) {text : String} {state : OpenRules}
    (hstate : ScopesSatisfy P state) {answer : LineTokens}
    (h : (t.tokenize text state).1 = .ok answer) :
    CoversLine text.utf8ByteSize answer.tokens ∧ ∀ token ∈ answer.tokens, P token.scopes := by
  subst hg
  unfold tokenize at h
  split at h
  · rw [← Except.ok.inj h]
    exact ⟨Tokens.Tiled.nil.coversLine_finish (Nat.zero_le _) _,
      Tokens.scopes_finish (by simp) _ (satisfies_contentScopes hroot hstate)⟩
  · obtain ⟨p, ⟨htokens, hstack⟩, rfl⟩ := ensures_tokenizeShort
      (P := Covering P (Line.ofString text)) ⟨Tokens.within_nil, hstate⟩
      (fun p hp => Scan.ensures_mono (ensures_round (Line.offset_ofString_le text) p) (by
        rintro r ⟨found, hfound, rfl⟩
        exact covering_follow hroot hpush hp hfound)) t.stepLimit t.caches answer h
    exact ⟨htokens.tiled.coversLine_finish htokens.covered_le _,
      Tokens.scopes_finish htokens.scopes _ (satisfies_contentScopes hroot hstack)⟩

end Follow

/-! ### The scope of the grammar -/

/-- Scope paths that begin with the scope of the grammar. -/
def Rooted (g : Grammar) (path : ScopePath) : Prop := path.head? = some g.scopeName

theorem rooted_push {path : ScopePath} (h : Rooted g path) (scope : Option Scope) :
    Rooted g (path.push scope) := by
  cases scope with
  | none => exact h
  | some scope =>
    show (path ++ [scope]).head? = some g.scopeName
    rw [List.head?_append, h]
    rfl

/-- The scope paths that open rules lead to begin with the scope of the grammar. -/
theorem rooted_of_scoped {stack : OpenRules} (h : stack.Scoped g) :
    ScopesSatisfy (Rooted g) stack := by
  induction h with
  | nil => exact fun f hf => absurd hf (by simp)
  | cons _ hname hcontent _ ih =>
    have hrooted := rooted_push (satisfies_contentScopes (P := Rooted g) rfl ih)
    refine List.forall_mem_cons.2 ⟨⟨?_, ?_⟩, ih⟩
    · rw [hname]
      exact hrooted _
    · rw [hcontent, hname]
      exact rooted_push (hrooted _) _

/-- **The tokens of a line cover it without gaps, and no two neighbours could be one.**  Where the
rules open before the line are ones that can be open between two lines, every token lies in the
scope of the grammar. -/
theorem coversLine_tokenize (t : Tokenizer) (text : String) (state : OpenRules)
    {answer : LineTokens} (h : (t.tokenize text state).1 = .ok answer) :
    CoversLine text.utf8ByteSize answer.tokens ∧
      (OpenRules.Reachable t.grammar state →
        ∀ token ∈ answer.tokens, token.scopes.head? = some t.grammar.scopeName) := by
  constructor
  · exact (covers_tokenize (P := fun _ => True) trivial (fun _ _ _ => trivial) rfl
      (fun _ _ => ⟨trivial, trivial⟩) h).1
  · intro hstate
    exact (covers_tokenize (P := Rooted t.grammar) rfl (fun _ scope hp => rooted_push hp scope) rfl
      (rooted_of_scoped hstate.scoped) h).2

/-- A beginning, the text before it and the text after it are a token each. -/
theorem coversLine_tokenize_elements :
    CoversLine "x<a>y".utf8ByteSize [⟨0, 1, ["text"]⟩, ⟨1, 4, ["text", "element"]⟩,
        ⟨4, 5, ["text", "element", "content"]⟩] ∧
      ∀ token ∈ [Token.mk 0 1 ["text"], ⟨1, 4, ["text", "element"]⟩,
          ⟨4, 5, ["text", "element", "content"]⟩],
        token.scopes.head? = some Grammar.elements.scopeName := by
  have h : ((Tokenizer.new Grammar.elements {}).tokenize "x<a>y" []).1 =
      .ok ⟨[⟨0, 1, ["text"]⟩, ⟨1, 4, ["text", "element"]⟩, ⟨4, 5, ["text", "element", "content"]⟩],
        [OpenRules.element "</a>" ["text"]]⟩ := by
    decide +kernel
  obtain ⟨hcovers, hscopes⟩ := coversLine_tokenize (Tokenizer.new Grammar.elements {}) "x<a>y" [] h
  exact ⟨hcovers, hscopes .nil⟩

end Tokenizer

end Highlight
