import Highlight.Assets
import Highlight.Document.Text
import Highlight.Incremental.Tokenizer

/-!
# Editors

An `Editor` holds a document, keeps its tokens up to date while it is edited, and gives them the
styles of a theme.  Without a grammar every line is one token in the theme's default style.
-/

namespace Highlight

/-- A token with its style. -/
structure StyledToken where
  start : Nat
  stop : Nat
  scopes : ScopePath
  style : Style
  deriving Repr, DecidableEq, Inhabited

/-- A document being edited. -/
structure Editor where
  document : Document
  /-- Keeps the tokens, if there is a grammar. -/
  tokenizer : Option IncrementalTokenizer
  theme : Theme
  /-- The styles already found with the theme. -/
  styles : List (ScopePath × Style) := []
  config : Config
  deriving Inhabited

namespace Editor

/-- An editor for a text. -/
def new (text : String) (grammar : Option Grammar) (theme : Theme) (config : Config) : Editor :=
  let document := Document.ofText text
  { document
    tokenizer := grammar.map fun g => .new g config document.lineCount
    theme, config }

/-- The compiled grammar of a scope name, if it can be had. -/
def loadGrammar (assets : Assets) (scope : String) : Option Grammar := do
  let (source, set) ← (assets.grammarSet scope).toOption
  (Grammar.compile source set).toOption

/-- An editor for a text with the grammar of a scope name and the theme, as far as they can be
had. -/
def load (assets : Assets) (scope : String) (text : String) (config : Config) : Editor :=
  let rules := assets.theme.toOption.getD []
  let theme := { Theme.ofRules rules .base with tieBreak := config.themeTieBreak }
  new text (loadGrammar assets scope) theme config

/-- The number of lines. -/
def lineCount (e : Editor) : Nat := e.document.lineCount

/-- The grammar in use. -/
def grammar (e : Editor) : Option Grammar := e.tokenizer.map IncrementalTokenizer.grammar

/-! ### Changes -/

/-- Follows an edit that the document has been through. -/
def follow (e : Editor) (event : LineChange) : Editor :=
  { e with tokenizer := e.tokenizer.map fun d => d.follow event e.lineCount }

/-- Makes a change to the document, and tells what it does to the lines. -/
def edit (e : Editor) (edit : TextEdit) : LineChange × Editor :=
  let (document, event) := e.document.edit edit
  (event, { e with document }.follow event)

/-- Puts another text in place of the document. -/
def withText (e : Editor) (text : String) : Editor :=
  let document := Document.ofText text
  { e with document, tokenizer := e.tokenizer.map fun d => d.forget document.lineCount }

/-- Goes over to another grammar, or to none. -/
def changeGrammar (e : Editor) : Option Grammar → Editor
  | none => { e with tokenizer := none }
  | some g =>
    { e with
      tokenizer := some <|
        match e.tokenizer with
        | some d => d.changeGrammar g e.lineCount
        | none => .new g e.config e.lineCount }

/-- Goes over to another theme. -/
def withTheme (e : Editor) (theme : Theme) : Editor := { e with theme, styles := [] }

/-- Drops all that is known about tokens and styles, and the grammar. -/
def close (e : Editor) : Editor := { e with tokenizer := none, styles := [] }

/-! ### Tokens -/

/-- The style of a scope path, from memory if it has been found before. -/
def styleOf (e : Editor) (scopes : ScopePath) : Style × Editor :=
  match e.styles.lookup scopes with
  | some style => (style, e)
  | none =>
    let style := e.theme.styleOf scopes
    (style, { e with styles := (scopes, style) :: e.styles })

/-- Gives tokens their styles. -/
def styleTokens (e : Editor) : List Token → List StyledToken × Editor
  | [] => ([], e)
  | t :: ts =>
    let (style, e) := e.styleOf t.scopes
    let (styled, e) := e.styleTokens ts
    (⟨t.start, t.stop, t.scopes, style⟩ :: styled, e)

/-- A line as one token in the theme's default style. -/
def plainTokens (e : Editor) (i : Nat) : List StyledToken :=
  [⟨0, (e.document.lines.text i).utf8ByteSize, [], e.theme.defaults⟩]

/-- The tokens of a line with their styles; none beyond the last line. -/
def tokens (e : Editor) (i : Nat) : List StyledToken × Editor :=
  if e.lineCount ≤ i then ([], e)
  else match e.tokenizer with
    | none => (e.plainTokens i, e)
    | some d =>
      let (tokens, d) := d.tokens e.document.lines i
      let e := { e with tokenizer := some d }
      match tokens with
      | none => (e.plainTokens i, e)
      | some tokens => e.styleTokens tokens

/-- Tokenizes as many lines as are tokenized at a time. -/
def advance (e : Editor) : Progress × Editor :=
  match e.tokenizer with
  | none => (⟨0, none⟩, e)
  | some d =>
    let (progress, d) := d.advanceSome e.document.lines
    (progress, { e with tokenizer := some d })

/-- Tokenizes until nothing is left to do; also how many lines were tokenized. -/
def finish (e : Editor) : Nat × Editor :=
  match e.tokenizer with
  | none => (0, e)
  | some d =>
    let (visited, d) := d.finish e.document.lines
    (visited, { e with tokenizer := some d })

end Editor

end Highlight
