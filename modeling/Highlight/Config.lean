import Highlight.Json.Decode
import Highlight.Theme.Theme

/-!
# Configuration

The limits within which text is highlighted, and how a theme decides between equally specific
selectors.
-/

namespace Highlight

/-- Limits of highlighting. -/
structure Config where
  /-- Lines longer than this, in bytes, are not looked into. -/
  maxLineLength : Nat := 20000
  /-- How many lines are tokenized at a time. -/
  propagationChunkLines : Nat := 256
  /-- How many rounds the tokenizing of a line may take. -/
  stepLimitPerLine : Nat := 20000
  themeTieBreak : TieBreak := .lastWins
  deriving Repr, DecidableEq, Inhabited

open Json (Decoder)
open Json.Decode

/-- The names of the ways to decide between selectors. -/
def TieBreak.words : List (String × TieBreak) :=
  [("last_wins", .lastWins), ("first_wins", .firstWins)]

/-- The name of a way to decide between selectors. -/
def TieBreak.text : TieBreak → String
  | lastWins => "last_wins"
  | firstWins => "first_wins"

/-- A way to decide between selectors. -/
def TieBreak.decode (room : Nat) : Decoder TieBreak := word room TieBreak.words

namespace Config

/-- A configuration; what is not given has its usual value. -/
def decode (room : Nat) : Decoder Config :=
  record room
    [field "max_line_len" natural fun x c => { c with maxLineLength := x },
      field "propagation_chunk_lines" natural fun x c => { c with propagationChunkLines := x },
      field "step_limit_per_line" natural fun x c => { c with stepLimitPerLine := x },
      field "theme_tie_break" (TieBreak.decode (room - 1)) fun x c =>
        { c with themeTieBreak := x }]
    {}

/-- The written form of a configuration. -/
def toJson (c : Config) : Json :=
  .object [("max_line_len", .integer c.maxLineLength),
    ("propagation_chunk_lines", .integer c.propagationChunkLines),
    ("step_limit_per_line", .integer c.stepLimitPerLine),
    ("theme_tie_break", .string c.themeTieBreak.text)]

end Config

end Highlight
