/-!
# JSON values

`Json` is a JSON value; its objects keep the order of their members.  `Json.render` writes a value
without blanks, `Json.renderPretty` with one member or element to a line and two blanks for each
level.
-/

namespace Highlight

/-- A JSON value. A number with a fraction or exponent, or too large for a machine integer, is kept
as it was written. -/
inductive Json where
  | null
  | bool (b : Bool)
  | integer (n : Int)
  | real (written : String)
  | string (s : String)
  | array (items : List Json)
  | object (members : List (String × Json))
  deriving Repr, Inhabited

namespace Json

/-! ### Strings -/

/-- The lower-case hexadecimal digit of a number below sixteen. -/
def hexDigit (n : Nat) : Char := Char.ofNat (if n < 10 then 48 + n else 87 + n)

/-- A character as it stands in a written string: quotes, backslashes and control characters are
escaped. -/
def escapeChar (c : Char) : List Char :=
  match c with
  | '"' => ['\\', '"']
  | '\\' => ['\\', '\\']
  | '\x08' => ['\\', 'b']
  | '\x0C' => ['\\', 'f']
  | '\n' => ['\\', 'n']
  | '\r' => ['\\', 'r']
  | '\t' => ['\\', 't']
  | c =>
    if c.toNat < 32 then ['\\', 'u', '0', '0', hexDigit (c.toNat / 16), hexDigit (c.toNat % 16)]
    else [c]

/-- A string with its quotes. -/
def quote (s : String) : List Char := '"' :: s.toList.flatMap escapeChar ++ ['"']

/-! ### Whole values -/

/-- The digits of an integer, with its sign. -/
def integerChars (n : Int) : List Char :=
  if n < 0 then '-' :: Nat.toDigits 10 n.natAbs else Nat.toDigits 10 n.natAbs

mutual

/-- A value without blanks. -/
def chars : Json → List Char
  | null => "null".toList
  | bool true => "true".toList
  | bool false => "false".toList
  | integer n => integerChars n
  | real written => written.toList
  | string s => quote s
  | array [] => ['[', ']']
  | array (item :: items) => '[' :: item.chars ++ charsOfItems items
  | object [] => ['{', '}']
  | object ((key, value) :: members) =>
    '{' :: quote key ++ ':' :: value.chars ++ charsOfMembers members

/-- The further elements of an array, up to its end. -/
def charsOfItems : List Json → List Char
  | [] => [']']
  | item :: items => ',' :: item.chars ++ charsOfItems items

/-- The further members of an object, up to its end. -/
def charsOfMembers : List (String × Json) → List Char
  | [] => ['}']
  | (key, value) :: members => ',' :: quote key ++ ':' :: value.chars ++ charsOfMembers members

end

/-- Writes a value without blanks. -/
def render (j : Json) : String := String.ofList j.chars

/-- A new line, indented by two blanks for each level. -/
def newLine (level : Nat) : List Char := '\n' :: List.replicate (2 * level) ' '

mutual

/-- A value at a level of indentation. -/
def prettyChars (level : Nat) : Json → List Char
  | array (item :: items) =>
    '[' :: newLine (level + 1) ++ item.prettyChars (level + 1) ++ prettyItems level items
  | object ((key, value) :: members) =>
    '{' :: newLine (level + 1) ++ quote key ++ ':' :: ' ' :: value.prettyChars (level + 1) ++
      prettyMembers level members
  | array [] => ['[', ']']
  | object [] => ['{', '}']
  | null => "null".toList
  | bool true => "true".toList
  | bool false => "false".toList
  | integer n => integerChars n
  | real written => written.toList
  | string s => quote s

/-- The further elements of an array at a level, up to its end. -/
def prettyItems (level : Nat) : List Json → List Char
  | [] => newLine level ++ [']']
  | item :: items =>
    ',' :: newLine (level + 1) ++ item.prettyChars (level + 1) ++ prettyItems level items

/-- The further members of an object at a level, up to its end. -/
def prettyMembers (level : Nat) : List (String × Json) → List Char
  | [] => newLine level ++ ['}']
  | (key, value) :: members =>
    ',' :: newLine (level + 1) ++ quote key ++ ':' :: ' ' :: value.prettyChars (level + 1) ++
      prettyMembers level members

end

/-- Writes a value with one member or element to a line. -/
def renderPretty (j : Json) : String := String.ofList (j.prettyChars 0)

/-! ### Members -/

/-- Puts a member into a list ordered by key; a member of the same key is replaced. -/
def putMember {α : Type} (key : String) (value : α) : List (String × α) → List (String × α)
  | [] => [(key, value)]
  | (k, v) :: members =>
    if key < k then (key, value) :: (k, v) :: members
    else if key == k then (key, value) :: members
    else (k, v) :: putMember key value members

/-- The value of a member of an object. -/
def get? (j : Json) (key : String) : Option Json :=
  match j with
  | object members => members.lookup key
  | _ => none

end Json

end Highlight
