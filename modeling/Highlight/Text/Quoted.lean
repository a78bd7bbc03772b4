import Highlight.Unicode.Property

/-!
# Quoted text

A text in quotes in which every character can be seen: quotes and backslashes are escaped, and so is
what prints nothing of its own, such as control characters, marks that join the character before
them, and unassigned characters.
-/

namespace Highlight.Text

/-- The hexadecimal digits of a number, in small letters. -/
def hexChars (n : Nat) : List Char := Nat.toDigits 16 n

/-- What prints nothing of its own: controls and other special characters, separators except the
space, and marks that join the character before them. -/
def invisible : CharSet :=
  (CharSet.unions [Unicode.Category.other, Unicode.Category.separator,
    Unicode.Property.graphemeExtend]).diff (.single ' ')

/-- A character as it stands in quoted text. -/
def quotedChar (c : Char) : List Char :=
  match c with
  | '\x00' => ['\\', '0']
  | '\t' => ['\\', 't']
  | '\r' => ['\\', 'r']
  | '\n' => ['\\', 'n']
  | '\\' => ['\\', '\\']
  | '"' => ['\\', '"']
  | c =>
    if invisible.contains c then ['\\', 'u', '\x7b'] ++ hexChars c.toNat ++ ['\x7d'] else [c]

/-- A text in quotes, with escapes for what could not be seen. -/
def quoted (s : String) : String :=
  String.ofList ('"' :: s.toList.flatMap quotedChar ++ ['"'])

end Highlight.Text
