import Highlight.Config
import Highlight.Language

/-!
# Settings

What the user may change: the limits of highlighting and the languages known.  `Settings.ofText`
reads settings from JSON; `Settings.ofFile` takes the defaults where there is no readable file.
-/

namespace Highlight

/-- The settings of the user. -/
structure Settings where
  highlight : Config := {}
  languages : List LanguageRegistration := []
  deriving Repr, DecidableEq, Inhabited

namespace Settings

open Json (Decoder)
open Json.Decode

/-- Settings; what is not given has its usual value. -/
def decode (room : Nat) : Decoder Settings :=
  record room
    [field "highlight" (Config.decode (room - 1)) fun x s => { s with highlight := x },
      field "languages" (list (room - 1) (LanguageRegistration.decode (room - 2))) fun x s =>
        { s with languages := x }]
    {}

/-- The written form of settings; an empty list of languages is left out. -/
def toJson (s : Settings) : Json :=
  .object ([("highlight", s.highlight.toJson)] ++
    if s.languages.isEmpty then []
    else [("languages", .array (s.languages.map LanguageRegistration.toJson))])

/-- Reads settings from the text of a JSON value. -/
def ofText (text : String) : Except Json.Fault Settings := Json.Decode.text decode text

/-- The settings in a file with the given text; the usual ones when there is no text, or when it
holds no settings. -/
def ofFile : Option String → Settings
  | none => {}
  | some text =>
    match ofText text with
    | .ok s => s
    | .error _ => {}

end Settings

end Highlight
