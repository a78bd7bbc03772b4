import Highlight.Editor
import Highlight.Proofs.Incremental.Equivalence

/-!
# What an editor shows

An editor keeps three things that an operation may outdate: the document, the results of the
incremental tokenizer, and the styles found with the theme.  `Editor.Reachable` is what an editor
can come to, beside the text, the grammar and the theme that the operations lead to; these are
counted from the operations alone and not read off the editor.  Whatever has happened, the tokenizer
tracks the text, and every style that is remembered is the theme's (`Editor.Tracks`).  So every line
is shown with the tokens of the current text in the styles of the current theme
(`Editor.Reachable.tokens_eq_styled`).
-/

namespace Highlight

/-- A token in the style of a theme. -/
def Token.styled (theme : Theme) (t : Token) : StyledToken :=
  ⟨t.start, t.stop, t.scopes, theme.styleOf t.scopes⟩

namespace Editor

/-- The editor holds a text, tracks it with the grammar if there is one, and remembers only styles
of the theme. -/
structure Tracks (config : Config) (text : List Char) (grammar : Option Grammar) (theme : Theme)
    (e : Editor) : Prop where
  text_eq : e.document.text = text
  theme_eq : e.theme = theme
  config_eq : e.config = config
  tokenizer : Option.Rel (fun g d => IncrementalTokenizer.Tracks g config (Lines.ofText text) d)
    grammar e.tokenizer
  style_eq : ∀ scopes style, (scopes, style) ∈ e.styles → style = theme.styleOf scopes

variable {config : Config} {text : List Char} {grammar : Option Grammar} {theme : Theme}
  {e : Editor}

theorem Tracks.lines_eq (h : Tracks config text grammar theme e) :
    e.document.lines = Lines.ofText text := by
  rw [e.document.lines_eq, h.text_eq]

theorem Tracks.lineCount_eq (h : Tracks config text grammar theme e) :
    e.lineCount = (Lines.ofText text).count := by
  show e.document.lines.count = _
  rw [h.lines_eq]

/-- There is a tokenizer that tracks the document when there is a grammar, and none otherwise. -/
theorem Tracks.cases (h : Tracks config text grammar theme e) :
    (grammar = none ∧ e.tokenizer = none) ∨
      ∃ g d, grammar = some g ∧ e.tokenizer = some d ∧
        IncrementalTokenizer.Tracks g config e.document.lines d := by
  have htokenizer := h.tokenizer
  rw [← h.lines_eq] at htokenizer
  cases grammar <;> cases hd : e.tokenizer <;> rw [hd] at htokenizer
  case none.none => exact .inl ⟨rfl, rfl⟩
  case some.some g d =>
    cases htokenizer with
    | some hd => exact .inr ⟨g, d, rfl, rfl, hd⟩
  all_goals exact absurd htokenizer nofun

/-- With another tokenizer that tracks the document, and then with the grammar of that. -/
theorem Tracks.withTokenizer (h : Tracks config text grammar theme e) {g : Grammar}
    {d : IncrementalTokenizer} (hd : IncrementalTokenizer.Tracks g config e.document.lines d) :
    Tracks config text (some g) theme { e with tokenizer := some d } :=
  ⟨h.text_eq, h.theme_eq, h.config_eq, .some (h.lines_eq ▸ hd), h.style_eq⟩

/-! ### Changes -/

theorem tracks_new (config : Config) (text : String) (grammar : Option Grammar) (theme : Theme) :
    Tracks config text.toList grammar theme (new text grammar theme config) where
  text_eq := rfl
  theme_eq := rfl
  config_eq := rfl
  tokenizer := by
    cases grammar with
    | none => exact .none
    | some g => exact .some (IncrementalTokenizer.tracks_new g config _ _)
  style_eq scopes style hmem := absurd hmem List.not_mem_nil

theorem Tracks.edit (h : Tracks config text grammar theme e) {edit : TextEdit}
    (hedit : ¬ edit.JoinsBreak text) :
    Tracks config (edit.result text) grammar theme (e.edit edit).2 where
  text_eq := congrArg (fun old => (edit.apply old).1) h.text_eq
  theme_eq := h.theme_eq
  config_eq := h.config_eq
  tokenizer := by
    have hlines := h.lines_eq
    rw [← h.text_eq] at hedit hlines ⊢
    rcases h.cases with ⟨rfl, hnone⟩ | ⟨g, d, rfl, hsome, hd⟩
    · show Option.Rel _ none (e.tokenizer.map _)
      rw [hnone]
      exact .none
    · show Option.Rel _ (some g) (e.tokenizer.map _)
      rw [hsome]
      rw [hlines] at hd
      exact .some (hd.follow (edit.describes_apply e.document.text hedit))
  style_eq := h.style_eq

theorem Tracks.withText (h : Tracks config text grammar theme e) (text' : String) :
    Tracks config text'.toList grammar theme (e.withText text') where
  text_eq := rfl
  theme_eq := h.theme_eq
  config_eq := h.config_eq
  tokenizer := by
    rcases h.cases with ⟨rfl, hnone⟩ | ⟨g, d, rfl, hsome, hd⟩
    · show Option.Rel _ none (e.tokenizer.map _)
      rw [hnone]
      exact .none
    · show Option.Rel _ (some g) (e.tokenizer.map _)
      rw [hsome]
      exact .some (hd.forget _)
  style_eq := h.style_eq

theorem Tracks.changeGrammar (h : Tracks config text grammar theme e) (grammar' : Option Grammar) :
    Tracks config text grammar' theme (e.changeGrammar grammar') := by
  cases grammar' with
  | none => exact ⟨h.text_eq, h.theme_eq, h.config_eq, .none, h.style_eq⟩
  | some g =>
    refine h.withTokenizer ?_
    rcases h.cases with ⟨rfl, hnone⟩ | ⟨_, d, rfl, hsome, hd⟩
    · rw [hnone, h.config_eq]
      exact IncrementalTokenizer.tracks_new g config _ _
    · rw [hsome]
      exact hd.changeGrammar g _

/-- The styles found with another theme are forgotten. -/
theorem Tracks.withTheme (h : Tracks config text grammar theme e) (theme' : Theme) :
    Tracks config text grammar theme' (e.withTheme theme') :=
  ⟨h.text_eq, rfl, h.config_eq, h.tokenizer, fun _ _ hmem => absurd hmem List.not_mem_nil⟩

theorem Tracks.close (h : Tracks config text grammar theme e) :
    Tracks config text none theme e.close :=
  ⟨h.text_eq, h.theme_eq, h.config_eq, .none, fun _ _ hmem => absurd hmem List.not_mem_nil⟩

/-! ### Styles -/

/-- A style that is asked for is the theme's, and so is what is remembered of it. -/
theorem Tracks.styleOf_eq (h : Tracks config text grammar theme e) (scopes : ScopePath) :
    (e.styleOf scopes).1 = theme.styleOf scopes ∧
      Tracks config text grammar theme (e.styleOf scopes).2 := by
  unfold Editor.styleOf
  cases hlookup : e.styles.lookup scopes with
  | some style =>
    obtain ⟨front, back, hstyles, -⟩ := List.lookup_eq_some_iff.1 hlookup
    exact ⟨h.style_eq scopes style (by rw [hstyles]; simp), h⟩
  | none =>
    refine ⟨by rw [h.theme_eq], h.text_eq, h.theme_eq, h.config_eq, h.tokenizer, ?_⟩
    intro other style hmem
    rcases List.mem_cons.1 hmem with heq | hmem
    · obtain ⟨rfl, rfl⟩ := Prod.mk.inj heq
      rw [h.theme_eq]
    · exact h.style_eq other style hmem

theorem Tracks.styleTokens_eq (h : Tracks config text grammar theme e) (tokens : List Token) :
    (e.styleTokens tokens).1 = tokens.map (Token.styled theme) ∧
      Tracks config text grammar theme (e.styleTokens tokens).2 := by
  induction tokens generalizing e with
  | nil => exact ⟨rfl, h⟩
  | cons t ts ih =>
    obtain ⟨hstyle, he⟩ := h.styleOf_eq t.scopes
    obtain ⟨htokens, he'⟩ := ih he
    refine ⟨?_, he'⟩
    show StyledToken.mk t.start t.stop t.scopes (e.styleOf t.scopes).1 ::
      ((e.styleOf t.scopes).2.styleTokens ts).1 = _
    rw [hstyle, htokens]
    rfl

/-! ### Tokens -/

theorem Tracks.advance (h : Tracks config text grammar theme e) :
    Tracks config text grammar theme e.advance.2 := by
  unfold Editor.advance
  rcases h.cases with ⟨rfl, hnone⟩ | ⟨g, d, rfl, hsome, hd⟩
  · rw [hnone]
    exact h
  · rw [hsome]
    exact h.withTokenizer (hd.advance _).tracks

theorem Tracks.finish (h : Tracks config text grammar theme e) :
    Tracks config text grammar theme e.finish.2 := by
  unfold Editor.finish
  rcases h.cases with ⟨rfl, hnone⟩ | ⟨g, d, rfl, hsome, hd⟩
  · rw [hnone]
    exact h
  · rw [hsome]
    exact h.withTokenizer (hd.advance _).tracks

/-- Beyond the last line there is nothing to show. -/
theorem tokens_of_lineCount_le {i : Nat} (hi : e.lineCount ≤ i) : e.tokens i = ([], e) := by
  rw [Editor.tokens, if_pos hi]

/-- Without a grammar a line is one token. -/
theorem Tracks.tokens_of_none (h : Tracks config text none theme e) {i : Nat}
    (hi : i < e.lineCount) :
    e.tokens i = ([⟨0, ((Lines.ofText text).text i).utf8ByteSize, [], theme.defaults⟩], e) := by
  rcases h.cases with ⟨-, hnone⟩ | ⟨g, d, hg, -, -⟩
  · rw [Editor.tokens, if_neg (Nat.not_le_of_lt hi), hnone]
    show (e.plainTokens i, e) = _
    rw [plainTokens, h.lines_eq, h.theme_eq]
  · exact absurd hg nofun

/-- With a grammar a line has the tokens of the text. -/
theorem Tracks.tokens_of_some {g : Grammar} (h : Tracks config text (some g) theme e) {i : Nat}
    (hi : i < e.lineCount) :
    ∃ line, (tokenizeAll g config (Lines.ofText text))[i]? = some line ∧
      (e.tokens i).1 = line.tokens.map (Token.styled theme) ∧
      Tracks config text (some g) theme (e.tokens i).2 := by
  rcases h.cases with ⟨hg, -⟩ | ⟨_, d, hg, hsome, hd⟩
  · exact absurd hg nofun
  · obtain rfl := Option.some.inj hg
    have hcount : i < (tokenizeAll g config e.document.lines).length := by
      rw [length_tokenizeAll]
      exact hi
    have hline := List.getElem?_eq_getElem hcount
    have htokens := hd.tokens_eq i
    rw [hline, Option.map_some] at htokens
    rw [← h.lines_eq, Editor.tokens, if_neg (Nat.not_le_of_lt hi), hsome]
    simp only [htokens]
    exact ⟨_, hline, (h.withTokenizer (hd.tokens i)).styleTokens_eq _⟩

theorem Tracks.tokens (h : Tracks config text grammar theme e) (i : Nat) :
    Tracks config text grammar theme (e.tokens i).2 := by
  rcases Nat.lt_or_ge i e.lineCount with hi | hi
  · cases grammar with
    | none =>
      rw [h.tokens_of_none hi]
      exact h
    | some g =>
      obtain ⟨-, -, -, he⟩ := h.tokens_of_some hi
      exact he
  · rw [tokens_of_lineCount_le hi]
    exact h

/-! ### Runs -/

/-- What an editor can come to, with the text, the grammar and the theme that the operations lead
to.  Also an editor that `Editor.load` makes is a new one. -/
inductive Reachable (config : Config) : List Char → Option Grammar → Theme → Editor → Prop where
  | new (text : String) (grammar : Option Grammar) (theme : Theme) :
    Reachable config text.toList grammar theme (new text grammar theme config)
  | edit {text : List Char} {grammar : Option Grammar} {theme : Theme} {e : Editor}
    {edit : TextEdit} : Reachable config text grammar theme e → ¬ edit.JoinsBreak text →
    Reachable config
      (text.take (edit.startIn text) ++ edit.inserted ++ text.drop (edit.stopIn text))
      grammar theme (e.edit edit).2
  | withText {text : List Char} {grammar : Option Grammar} {theme : Theme} {e : Editor}
    (text' : String) : Reachable config text grammar theme e →
    Reachable config text'.toList grammar theme (e.withText text')
  | changeGrammar {text : List Char} {grammar : Option Grammar} {theme : Theme} {e : Editor}
    (grammar' : Option Grammar) : Reachable config text grammar theme e →
    Reachable config text grammar' theme (e.changeGrammar grammar')
  | withTheme {text : List Char} {grammar : Option Grammar} {theme : Theme} {e : Editor}
    (theme' : Theme) : Reachable config text grammar theme e →
    Reachable config text grammar theme' (e.withTheme theme')
  | advance {text : List Char} {grammar : Option Grammar} {theme : Theme} {e : Editor} :
    Reachable config text grammar theme e → Reachable config text grammar theme e.advance.2
  | finish {text : List Char} {grammar : Option Grammar} {theme : Theme} {e : Editor} :
    Reachable config text grammar theme e → Reachable config text grammar theme e.finish.2
  | tokens {text : List Char} {grammar : Option Grammar} {theme : Theme} {e : Editor} (i : Nat) :
    Reachable config text grammar theme e → Reachable config text grammar theme (e.tokens i).2
  | styleOf {text : List Char} {grammar : Option Grammar} {theme : Theme} {e : Editor}
    (scopes : ScopePath) : Reachable config text grammar theme e →
    Reachable config text grammar theme (e.styleOf scopes).2
  | close {text : List Char} {grammar : Option Grammar} {theme : Theme} {e : Editor} :
    Reachable config text grammar theme e → Reachable config text none theme e.close

theorem Reachable.tracks (h : Reachable config text grammar theme e) :
    Tracks config text grammar theme e := by
  induction h with
  | new text grammar theme => exact tracks_new config text grammar theme
  | edit _ hedit ih => exact ih.edit hedit
  | withText text' _ ih => exact ih.withText text'
  | changeGrammar grammar' _ ih => exact ih.changeGrammar grammar'
  | withTheme theme' _ ih => exact ih.withTheme theme'
  | advance _ ih => exact ih.advance
  | finish _ ih => exact ih.finish
  | tokens i _ ih => exact ih.tokens i
  | styleOf scopes _ ih => exact (ih.styleOf_eq scopes).2
  | close _ ih => exact ih.close

/-- **An editor shows the current text with the current grammar in the current theme.**  Whatever
has been done before, every line of the text has the tokens that tokenizing the whole text gives it,
each in the style that the theme gives its scope path; without a grammar it is one token in the
theme's default style.  Beyond the last line nothing is shown, and a style that is asked for is the
theme's. -/
theorem Reachable.tokens_eq_styled (h : Reachable config text grammar theme e) :
    e.lineCount = (Lines.ofText text).count ∧
      (∀ i, e.lineCount ≤ i → (e.tokens i).1 = []) ∧
      (∀ g, grammar = some g → ∀ i < e.lineCount,
        ∃ line, (tokenizeAll g config (Lines.ofText text))[i]? = some line ∧
          (e.tokens i).1 = line.tokens.map (Token.styled theme)) ∧
      (grammar = none → ∀ i < e.lineCount, (e.tokens i).1 =
        [⟨0, ((Lines.ofText text).text i).utf8ByteSize, [], theme.defaults⟩]) ∧
      ∀ scopes, (e.styleOf scopes).1 = theme.styleOf scopes := by
  have htracks := h.tracks
  refine ⟨htracks.lineCount_eq, fun i hi => ?_, ?_, ?_, fun scopes => (htracks.styleOf_eq scopes).1⟩
  · rw [tokens_of_lineCount_le hi]
  · rintro g rfl i hi
    obtain ⟨line, hline, htokens, -⟩ := htracks.tokens_of_some hi
    exact ⟨line, hline, htokens⟩
  · rintro rfl i hi
    rw [htracks.tokens_of_none hi]

/-- Elements in red. -/
def redElements : Theme :=
  { selectors := [⟨"element", [], 0, { foreground := some ⟨255, 0, 0⟩ }⟩], defaults := .base }

/-- A line is asked for in one theme, then an element is opened before it, and then the theme is
changed: the line is shown inside the element, in the new style. -/
theorem tokens_eq_styled_elements :
    ¬ (TextEdit.insert 0 "<a>").JoinsBreak "x\ny".toList ∧
      ((((((new "x\ny" (some Grammar.elements) .plain {}).tokens 1).2.edit
        (.insert 0 "<a>")).2).withTheme redElements).tokens 1).1 =
          [⟨0, 1, ["text", "element", "content"],
            ⟨⟨255, 0, 0⟩, Style.base.background, .plain⟩⟩] := by
  have hedit : ¬ (TextEdit.insert 0 "<a>").JoinsBreak "x\ny".toList := by decide +kernel
  have hnew : Reachable {} "x\ny".toList (some Grammar.elements) .plain
    (new "x\ny" (some Grammar.elements) .plain {}) := .new _ _ _
  have hrun := ((hnew.tokens 1).edit hedit).withTheme redElements
  obtain ⟨line, hline, htokens⟩ := hrun.tokens_eq_styled.2.2.1 _ rfl 1 (by decide +kernel)
  refine ⟨hedit, htokens.trans ?_⟩
  have hanswer : (tokenizeAll Grammar.elements {} (Lines.ofText "<a>x\ny".toList))[1]? =
      some ⟨[⟨0, 1, ["text", "element", "content"]⟩], [OpenRules.element "</a>" ["text"]]⟩ := by
    decide +kernel
  have hresult : "x\ny".toList.take ((TextEdit.insert 0 "<a>").startIn "x\ny".toList) ++
      (TextEdit.insert 0 "<a>").inserted ++
      "x\ny".toList.drop ((TextEdit.insert 0 "<a>").stopIn "x\ny".toList) = "<a>x\ny".toList := by
    decide +kernel
  rw [hresult, hanswer] at hline
  rw [← Option.some.inj hline]
  decide +kernel

end Editor

end Highlight
