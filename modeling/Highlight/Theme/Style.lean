import Highlight.Text.Blank

/-!
# Colours, font styles and styles

A **style** is what a token is drawn with: two colours and a font style.  A **style specification**
sets some of the three and leaves the others as they are (`Style.apply`).
-/

namespace Highlight

/-! ### Colours -/

/-- A colour, by the strength of its three channels. -/
structure Color where
  red : UInt8
  green : UInt8
  blue : UInt8
  deriving Repr, DecidableEq, Inhabited

namespace Color

/-- The colour whose channels are the three lowest bytes of a number, blue lowest. -/
def ofNat (n : Nat) : Color :=
  ⟨UInt8.ofNat (n / 65536), UInt8.ofNat (n / 256), UInt8.ofNat n⟩

/-- The upper-case hexadecimal digit of a number below sixteen. -/
def hexDigit (n : Nat) : Char := Char.ofNat (if n < 10 then 48 + n else 55 + n)

/-- Two hexadecimal digits. -/
def channelChars (channel : UInt8) : List Char :=
  [hexDigit (channel.toNat / 16), hexDigit (channel.toNat % 16)]

/-- The colour as `#RRGGBB`. -/
def text (c : Color) : String :=
  String.ofList ('#' :: channelChars c.red ++ channelChars c.green ++ channelChars c.blue)

/-- The value of a hexadecimal digit of either case. -/
def digitValue? (c : Char) : Option Nat :=
  if '0' ≤ c ∧ c ≤ '9' then some (c.toNat - 48)
  else if 'a' ≤ c ∧ c ≤ 'f' then some (c.toNat - 87)
  else if 'A' ≤ c ∧ c ≤ 'F' then some (c.toNat - 55)
  else none

/-- The values of hexadecimal digits, if all are such. -/
def digitValues? : List Char → Option (List Nat)
  | [] => some []
  | c :: cs => do
    let value ← digitValue? c
    let values ← digitValues? cs
    return value :: values

/-- The channel with the given two digits. -/
def channel (high low : Nat) : UInt8 := UInt8.ofNat (high * 16 + low)

/-- The colour with the given digits: one or two for each channel and as many for transparency,
which may be absent and counts for nothing. -/
def ofDigits? : List Nat → Option Color
  | [r, g, b] | [r, g, b, _] => some ⟨channel r r, channel g g, channel b b⟩
  | [r, r', g, g', b, b'] | [r, r', g, g', b, b', _, _] =>
    some ⟨channel r r', channel g g', channel b b'⟩
  | _ => none

/-- Reads a colour written `#RGB`, `#RGBA`, `#RRGGBB` or `#RRGGBBAA`, with blanks around it. -/
def parse? (text : String) : Option Color :=
  match Text.trimChars text.toList with
  | '#' :: cs => (digitValues? cs).bind ofDigits?
  | _ => none

end Color

/-! ### Font styles -/

/-- The ways in which a font may be changed, in any combination. -/
structure FontStyle where
  italic : Bool := false
  bold : Bool := false
  underline : Bool := false
  strikethrough : Bool := false
  deriving Repr, DecidableEq, Inhabited

namespace FontStyle

/-- The plain font. -/
def plain : FontStyle := {}

/-- The sum of 1 for italic, 2 for bold, 4 for underline and 8 for strikethrough. -/
def bits (f : FontStyle) : Nat :=
  f.italic.toNat + 2 * f.bold.toNat + 4 * f.underline.toNat + 8 * f.strikethrough.toNat

/-- Whether the font is plain. -/
def isPlain (f : FontStyle) : Bool := f == plain

/-- Whether `f` changes the font in every way in which `g` does. -/
def contains (f g : FontStyle) : Bool :=
  (f.italic || !g.italic) && (f.bold || !g.bold) && (f.underline || !g.underline) &&
    (f.strikethrough || !g.strikethrough)

/-- Adds what a word asks for; an unknown word asks for nothing. -/
def addWord (f : FontStyle) : String → FontStyle
  | "italic" => { f with italic := true }
  | "bold" => { f with bold := true }
  | "underline" => { f with underline := true }
  | "strikethrough" => { f with strikethrough := true }
  | _ => f

/-- Reads the words of a font style, such as `bold italic`. -/
def parse (text : String) : FontStyle := (Text.words text).foldl addWord plain

end FontStyle

/-! ### Styles -/

/-- The attributes that a theme rule sets. -/
structure StyleSpec where
  foreground : Option Color := none
  background : Option Color := none
  fontStyle : Option FontStyle := none
  deriving Repr, DecidableEq, Inhabited

/-- What a token is drawn with. -/
structure Style where
  foreground : Color
  background : Color
  fontStyle : FontStyle
  deriving Repr, DecidableEq, Inhabited

namespace Style

/-- The style of text to which no theme applies: light grey on dark grey. -/
def base : Style := ⟨.ofNat 0xD4D4D4, .ofNat 0x1E1E1E, .plain⟩

/-- The style with the attributes that are set replaced. -/
def apply (s : Style) (spec : StyleSpec) : Style :=
  ⟨spec.foreground.getD s.foreground, spec.background.getD s.background,
    spec.fontStyle.getD s.fontStyle⟩

end Style

end Highlight
