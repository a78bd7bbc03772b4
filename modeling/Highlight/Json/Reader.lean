import Highlight.Json.Doc

/-!
# Reading JSON

`Json.Doc.ofText` reads a text as JSON.  Reading goes on to the first fault; what stands before it
is in the tree.  A reader answers what it has read and the characters that follow, or no characters
when reading ends there.
-/

namespace Highlight.Json

/-- Whether a character may stand between the parts of a value. -/
def isSpace (c : Char) : Bool := c == ' ' || c == '\n' || c == '\t' || c == '\r'

/-- The characters without the space at their front. -/
def skipSpace (cs : List Char) : List Char := cs.dropWhile isSpace

/-! ### Strings -/

/-- A part of a string: a character, or a unit of sixteen bits given by an escape. -/
inductive Piece where
  | char (c : Char)
  | unit (n : Nat)

/-- The value of a hexadecimal digit. -/
def hexValue? (c : Char) : Option Nat :=
  if '0' ≤ c ∧ c ≤ '9' then some (c.toNat - 48)
  else if 'a' ≤ c ∧ c ≤ 'f' then some (c.toNat - 87)
  else if 'A' ≤ c ∧ c ≤ 'F' then some (c.toNat - 55)
  else none

/-- The number that four hexadecimal digits stand for. -/
def unitOf? (a b c d : Char) : Option Nat := do
  return (((← hexValue? a) * 16 + (← hexValue? b)) * 16 + (← hexValue? c)) * 16 + (← hexValue? d)

/-- The character that a letter after a backslash stands for. -/
def escaped? : Char → Option Char
  | '"' => some '"'
  | '\\' => some '\\'
  | '/' => some '/'
  | 'b' => some '\x08'
  | 'f' => some '\x0C'
  | 'n' => some '\n'
  | 'r' => some '\r'
  | 't' => some '\t'
  | _ => none

/-- The parts of a string up to its closing quote, and what follows the quote, or the fault that
ends the string. -/
def scanString : List Char → List Piece × Except Fault (List Char)
  | [] => ([], .error .unfinished)
  | '"' :: cs => ([], .ok cs)
  | '\\' :: 'u' :: a :: b :: c :: d :: cs =>
    match unitOf? a b c d with
    | none => ([], .error .malformed)
    | some n =>
      let (pieces, ending) := scanString cs
      (.unit n :: pieces, ending)
  | '\\' :: 'u' :: cs =>
    ([], .error (if (String.ofList cs).utf8ByteSize < 4 then .unfinished else .malformed))
  | ['\\'] => ([], .error .unfinished)
  | '\\' :: c :: cs =>
    match escaped? c with
    | none => ([], .error .malformed)
    | some e =>
      let (pieces, ending) := scanString cs
      (.char e :: pieces, ending)
  | c :: cs =>
    if c.toNat < 32 then ([], .error .malformed)
    else
      let (pieces, ending) := scanString cs
      (.char c :: pieces, ending)

/-- Whether a unit is the first of a pair. -/
def isHighSurrogate (n : Nat) : Bool := 0xD800 ≤ n && n < 0xDC00

/-- Whether a unit is the second of a pair. -/
def isLowSurrogate (n : Nat) : Bool := 0xDC00 ≤ n && n < 0xE000

/-- The text that the parts of a string stand for.  Units of a pair must stand together; `stop` is
the fault that ends the string. -/
def textOf (stop : Option Fault) : List Piece → Except Fault (List Char)
  | [] => match stop with
    | none => .ok []
    | some fault => .error fault
  | .char c :: pieces => (textOf stop pieces).map (c :: ·)
  | [.unit high] =>
    if isHighSurrogate high then .error (stop.getD .malformed)
    else if isLowSurrogate high then .error .malformed
    else (textOf stop []).map (Char.ofNat high :: ·)
  | .unit high :: .unit low :: pieces =>
    if isHighSurrogate high then
      if isLowSurrogate low then
        (textOf stop pieces).map
          (Char.ofNat (0x10000 + (high - 0xD800) * 0x400 + (low - 0xDC00)) :: ·)
      else .error .malformed
    else if isLowSurrogate high then .error .malformed
    else (textOf stop (.unit low :: pieces)).map (Char.ofNat high :: ·)
  | .unit high :: .char c :: pieces =>
    if isHighSurrogate high || isLowSurrogate high then .error .malformed
    else (textOf stop (.char c :: pieces)).map (Char.ofNat high :: ·)

/-- A string after its opening quote. -/
def readString (cs : List Char) : Quoted × Option (List Char) :=
  let (pieces, ending) := scanString cs
  let stop := match ending with
    | .ok _ => none
    | .error fault => some fault
  (⟨(textOf stop pieces).map String.ofList, stop⟩, ending.toOption)

/-! ### Numbers and words -/

/-- The number that decimal digits stand for. -/
def decimalValue (digits : List Char) : Nat :=
  digits.foldl (fun n c => n * 10 + (c.toNat - 48)) 0

/-- The digits at the front of the characters, of which there must be one, and what follows. -/
def readDigits (cs : List Char) : Except Fault (List Char × List Char) :=
  match cs with
  | [] => .error .unfinished
  | c :: _ =>
    if c.isDigit then .ok (cs.takeWhile Char.isDigit, cs.dropWhile Char.isDigit)
    else .error .malformed

/-- The digits before a fraction or exponent; a leading zero stands alone. -/
def readWhole (cs : List Char) : Except Fault (List Char × List Char) := do
  let (digits, rest) ← readDigits cs
  if digits.length > 1 && digits.head? == some '0' then throw .malformed
  return (digits, rest)

/-- The digits of a fraction, if there is one. -/
def readFraction (cs : List Char) : Except Fault (List Char × List Char) :=
  match cs with
  | '.' :: rest => readDigits rest
  | _ => .ok ([], cs)

/-- The exponent, if there is one. -/
def readExponent (cs : List Char) : Except Fault (Option Int × List Char) := do
  let rest ← match cs with
    | 'e' :: rest | 'E' :: rest => pure rest
    | _ => return (none, cs)
  let (negative, rest) := match rest with
    | '+' :: rest => (false, rest)
    | '-' :: rest => (true, rest)
    | rest => (false, rest)
  let (digits, rest) ← readDigits rest
  let n : Int := decimalValue digits
  return (some (if negative then -n else n), rest)

/-- A number. -/
def readNumber (cs : List Char) : Except Fault (Numeral × List Char) := do
  let (negative, rest) := match cs with
    | '-' :: rest => (true, rest)
    | rest => (false, rest)
  let (whole, rest) ← readWhole rest
  let (fraction, rest) ← readFraction rest
  let (exponent, rest) ← readExponent rest
  return ({
    negative
    digits := decimalValue (whole ++ fraction)
    exponent := exponent.getD 0 - fraction.length
    isInteger := fraction.isEmpty && exponent.isNone
    written := String.ofList (cs.take (cs.length - rest.length)) }, rest)

/-- What follows a given word. -/
def readWord : (word cs : List Char) → Except Fault (List Char)
  | [], cs => .ok cs
  | _ :: _, [] => .error .unfinished
  | w :: word, c :: cs => if w == c then readWord word cs else .error .malformed

/-! ### Values -/

/-- A value that is the word after its first letter. -/
def readConstant (value : Doc) (word : String) (cs : List Char) : Doc × Option (List Char) :=
  match readWord word.toList cs with
  | .ok rest => (value, some rest)
  | .error fault => (.broken fault, none)

mutual

/-- A value, and what follows it. The first argument bounds the number of characters. -/
def readValue : Nat → List Char → Doc × Option (List Char)
  | 0, _ => (.broken .unfinished, none)
  | fuel + 1, cs =>
    match skipSpace cs with
    | [] => (.broken .unfinished, none)
    | 'n' :: cs => readConstant .null "ull" cs
    | 't' :: cs => readConstant (.bool true) "rue" cs
    | 'f' :: cs => readConstant (.bool false) "alse" cs
    | '"' :: cs =>
      let (s, rest) := readString cs
      (.string s, rest)
    | '[' :: cs =>
      match skipSpace cs with
      | [] => (.array [] (some .unfinished), none)
      | ']' :: rest => (.array [] none, some rest)
      | cs =>
        let (items, stop, rest) := readItems fuel cs
        (.array items stop, rest)
    | '{' :: cs =>
      match skipSpace cs with
      | [] => (.object [] (some .unfinished), none)
      | '}' :: rest => (.object [] none, some rest)
      | '"' :: cs =>
        let (members, stop, rest) := readMembers fuel cs
        (.object members stop, rest)
      | _ => (.object [] (some .malformed), none)
    | c :: cs =>
      if c == '-' || c.isDigit then
        match readNumber (c :: cs) with
        | .ok (n, rest) => (.number n, some rest)
        | .error fault => (.broken fault, none)
      else (.broken .malformed, none)

/-- The elements of an array from one of them on, the fault that ends it, and what follows it. -/
def readItems : Nat → List Char → List Doc × Option Fault × Option (List Char)
  | 0, _ => ([], some .unfinished, none)
  | fuel + 1, cs =>
    match readValue fuel cs with
    | (item, none) => ([item], some .unfinished, none)
    | (item, some rest) =>
      match skipSpace rest with
      | [] => ([item], some .unfinished, none)
      | ']' :: rest => ([item], none, some rest)
      | ',' :: rest =>
        match skipSpace rest with
        | [] => ([item], some .unfinished, none)
        | ']' :: _ => ([item], some .malformed, none)
        | cs =>
          let (items, stop, rest) := readItems fuel cs
          (item :: items, stop, rest)
      | _ => ([item], some .malformed, none)

/-- The members of an object from one of them on, whose opening quote has been taken; the fault that
ends it, and what follows it. -/
def readMembers : Nat → List Char → List (Quoted × Doc) × Option Fault × Option (List Char)
  | 0, _ => ([], some .unfinished, none)
  | fuel + 1, cs =>
    match readString cs with
    | (key, none) => ([(key, .broken .unfinished)], some .unfinished, none)
    | (key, some rest) =>
      match skipSpace rest with
      | [] => ([(key, .broken .unfinished)], some .unfinished, none)
      | ':' :: rest =>
        match readValue fuel rest with
        | (value, none) => ([(key, value)], some .unfinished, none)
        | (value, some rest) =>
          match skipSpace rest with
          | [] => ([(key, value)], some .unfinished, none)
          | '}' :: rest => ([(key, value)], none, some rest)
          | ',' :: rest =>
            match skipSpace rest with
            | [] => ([(key, value)], some .unfinished, none)
            | '"' :: cs =>
              let (members, stop, rest) := readMembers fuel cs
              ((key, value) :: members, stop, rest)
            | _ => ([(key, value)], some .malformed, none)
          | _ => ([(key, value)], some .malformed, none)
      | _ => ([(key, .broken .malformed)], some .malformed, none)

end

/-- A text read as JSON: the document, and the fault that anything but space after it is. -/
structure Text where
  doc : Doc
  trailing : Option Fault
  deriving Repr, Inhabited

/-- Reads a text as JSON. -/
def Text.ofString (text : String) : Text :=
  let cs := text.toList
  match readValue (cs.length + 1) cs with
  | (doc, none) => ⟨doc, none⟩
  | (doc, some rest) => ⟨doc, if (skipSpace rest).isEmpty then none else some .malformed⟩

end Highlight.Json
