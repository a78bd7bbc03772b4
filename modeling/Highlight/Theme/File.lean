import Highlight.Json.Decode
import Highlight.Theme.Theme

/-!
# Theme files

A theme file is a JSON object with `colors`, a map from names of colours to colours, and
`tokenColors`, a list of scopes with settings.  `ThemeRule.listOfText` reads such a file as the
rules of a theme, in order.  The colours of the editor come first, as a rule without a selector; an
entry without scopes keeps its place and changes the defaults there.
-/

namespace Highlight

namespace ThemeFile

open Json (Doc Decoder Fault)
open Json.Decode

/-- The settings of an entry, as written. -/
structure Settings where
  foreground : Option String := none
  background : Option String := none
  fontStyle : Option String := none
  deriving Repr, Inhabited

/-- An entry: its selectors, one to an item, and its settings. -/
structure Entry where
  scope : Option (List String) := none
  settings : Settings := {}
  deriving Repr, Inhabited

/-- A theme file as written. -/
structure Contents where
  colors : List (String × String) := []
  tokenColors : List Entry := []
  deriving Repr, Inhabited

/-- The attributes that settings ask for; what is no colour is not set. -/
def Settings.spec (s : Settings) : StyleSpec where
  foreground := s.foreground.bind Color.parse?
  background := s.background.bind Color.parse?
  fontStyle := s.fontStyle.map FontStyle.parse

/-- All strings of a list of values. -/
def strings? : List Json → Option (List String)
  | [] => some []
  | .string s :: items => (strings? items).map (s :: ·)
  | _ => none

/-- The scopes of an entry: a string or a list of strings. -/
def decodeScope (room : Nat) : Decoder (List String) := fun d => do
  match ← anyValue room d with
  | .string s => return [s]
  | .array items =>
    match strings? items with
    | some scopes => return scopes
    | none => throw .mismatch
  | _ => throw .mismatch

/-- The settings of an entry. -/
def decodeSettings (room : Nat) : Decoder Settings :=
  record room
    [field "foreground" (option string) fun x s => { s with foreground := x },
      field "background" (option string) fun x s => { s with background := x },
      field "fontStyle" (option string) fun x s => { s with fontStyle := x }]
    {}

/-- An entry of a theme file. -/
def decodeEntry (room : Nat) : Decoder Entry :=
  record room
    [field "scope" (option (decodeScope (room - 1))) fun x e => { e with scope := x },
      field "settings" (decodeSettings (room - 1)) fun x e => { e with settings := x }]
    {}

/-- A theme file. -/
def decode (room : Nat) : Decoder Contents :=
  record room
    [field "colors" (map (room - 1) string) fun x c => { c with colors := x },
      field "tokenColors" (list (room - 1) (decodeEntry (room - 2))) fun x c =>
        { c with tokenColors := x }]
    {}

/-- The colours of the editor in a theme file. -/
def Contents.editorStyle (c : Contents) : StyleSpec where
  foreground := (c.colors.lookup "editor.foreground").bind Color.parse?
  background := (c.colors.lookup "editor.background").bind Color.parse?

/-- The rule that an entry stands for. -/
def Entry.rule (e : Entry) : ThemeRule := ⟨",".intercalate (e.scope.getD []), e.settings.spec⟩

/-- The rules that a theme file stands for. -/
def Contents.rules (c : Contents) : List ThemeRule :=
  let editor := if c.editorStyle == {} then [] else [⟨"", c.editorStyle⟩]
  editor ++ c.tokenColors.map Entry.rule

end ThemeFile

/-- Reads a theme file as the rules of a theme. -/
def ThemeRule.listOfText (text : String) : Except Json.Fault (List ThemeRule) := do
  return (← Json.Decode.text ThemeFile.decode text).rules

end Highlight
