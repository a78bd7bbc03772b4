import Highlight.Json.Value

/-!
# JSON documents

`Json.Doc` is a text read as JSON, as far as that goes: a tree that may break off.  Whoever decodes
a document meets its parts in the order of the text and so finds the fault that comes first, be it
in the text or in what the text says (`Json.Decode`).  A part that is passed over need only be well
formed: there a string may name half of a character pair, and a number may have any size.
-/

namespace Highlight.Json

/-- Why a text does not hold the value expected. -/
inductive Fault where
  /-- The text is not JSON. -/
  | malformed
  /-- The text ends too early. -/
  | unfinished
  /-- The text is JSON so far, but not what is expected. -/
  | mismatch
  deriving Repr, DecidableEq, Inhabited

/-- A number as written: `digits` times ten to the power `exponent`. -/
structure Numeral where
  negative : Bool
  digits : Nat
  exponent : Int
  /-- Neither a fraction nor an exponent is written. -/
  isInteger : Bool
  written : String
  deriving Repr, DecidableEq, Inhabited

/-- A string as written: the text it stands for, and the fault that ends it if it is not closed. -/
structure Quoted where
  value : Except Fault String
  stop : Option Fault := none
  deriving Repr, Inhabited

/-- A text read as JSON, as far as that goes. -/
inductive Doc where
  | null
  | bool (b : Bool)
  | number (n : Numeral)
  | string (s : Quoted)
  /-- The elements, and the fault that ends the array if it is not closed. -/
  | array (items : List Doc) (stop : Option Fault)
  /-- The members, and the fault that ends the object if it is not closed. -/
  | object (members : List (Quoted × Doc)) (stop : Option Fault)
  /-- No value stands here. -/
  | broken (fault : Fault)
  deriving Repr, Inhabited

/-! ### Passing over -/

namespace Doc

mutual

/-- The first fault met when the value is passed over. -/
def fault? : Doc → Option Fault
  | null | bool _ | number _ => none
  | string s => s.stop
  | array items stop => (faultOfItems? items).or stop
  | object members stop => (faultOfMembers? members).or stop
  | broken fault => some fault

/-- The first fault met in a list of elements. -/
def faultOfItems? : List Doc → Option Fault
  | [] => none
  | item :: items => item.fault?.or (faultOfItems? items)

/-- The first fault met in a list of members. -/
def faultOfMembers? : List (Quoted × Doc) → Option Fault
  | [] => none
  | (key, value) :: members => (key.stop.or value.fault?).or (faultOfMembers? members)

end

end Doc

/-! ### Numbers -/

/-- The least number too large for a 64-bit word. -/
def wordBound : Nat := Nat.pow 2 64

/-- The least number that rounds to no finite double-precision number. -/
def realBound : Nat := Nat.pow 2 1024 - Nat.pow 2 970

namespace Numeral

/-- Whether the number is within double-precision range. -/
def isInRange (n : Numeral) : Bool :=
  n.digits == 0 || n.exponent + (Nat.toDigits 10 n.digits).length ≤ 300 ||
    (n.exponent + (Nat.toDigits 10 n.digits).length ≤ 310 &&
      n.digits * Nat.pow 10 n.exponent.toNat < realBound * Nat.pow 10 (-n.exponent).toNat)

/-- The value of a number: an integer where it is written as one and fits a signed or unsigned
64-bit word, else a real number.  Minus zero is real. -/
def value (n : Numeral) : Except Fault Json :=
  if n.isInteger && !n.negative && n.digits < wordBound then .ok (.integer n.digits)
  else if n.isInteger && n.negative && 0 < n.digits && n.digits ≤ wordBound / 2 then
    .ok (.integer (-n.digits))
  else if n.isInRange then .ok (.real n.written)
  else .error .malformed

end Numeral

mutual

/-- The document that holds a value. -/
def toDoc : Json → Doc
  | null => .null
  | bool b => .bool b
  | integer n => .number ⟨n < 0, n.natAbs, 0, true, String.ofList (integerChars n)⟩
  | real written => .number ⟨false, 0, 0, false, written⟩
  | string s => .string ⟨.ok s, none⟩
  | array items => .array (docsOfItems items) none
  | object members => .object (docsOfMembers members) none

/-- The documents that hold the elements of an array. -/
def docsOfItems : List Json → List Doc
  | [] => []
  | item :: items => item.toDoc :: docsOfItems items

/-- The documents that hold the members of an object. -/
def docsOfMembers : List (String × Json) → List (Quoted × Doc)
  | [] => []
  | (key, value) :: members => (⟨.ok key, none⟩, value.toDoc) :: docsOfMembers members

end

end Highlight.Json
