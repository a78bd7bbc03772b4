/-!
# Back references

The end of a rule may refer to the groups of its beginning as `\1` to `\9`.  `resolve` puts the text
of each group in, with every character escaped that means something in a pattern.  A backslash and
the character after it belong together, so `\\1` is an escaped backslash and a digit.
-/

namespace Highlight.Backreference

/-- The characters that `escape` puts a backslash before. -/
def specials : List Char :=
  ['\\', '.', '+', '*', '?', '(', ')', '|', '[', ']', '\x7b', '\x7d', '^', '$', '#', '&', '-', '~']

/-- A pattern that matches exactly the given characters. -/
def escape (text : List Char) : List Char :=
  text.flatMap fun c => if specials.contains c then ['\\', c] else [c]

/-- The group that a character after a backslash refers to. -/
def groupOf? (c : Char) : Option Nat := if '1' ≤ c ∧ c ≤ '9' then some (c.toNat - 48) else none

/-- Whether a pattern refers back to a group. -/
def isIn : List Char → Bool
  | [] => false
  | '\\' :: c :: cs => (groupOf? c).isSome || isIn cs
  | _ :: cs => isIn cs

/-- A pattern with every reference replaced by the escaped text of its group; a group that took no
part has the empty text. -/
def resolve (groups : List (Option String)) : List Char → List Char
  | [] => []
  | '\\' :: c :: cs =>
    match groupOf? c with
    | some n => escape ((groups[n]?.join.getD "").toList) ++ resolve groups cs
    | none => '\\' :: c :: resolve groups cs
  | c :: cs => c :: resolve groups cs

/-- Whether the text of a pattern refers back to a group. -/
def isInText (pattern : String) : Bool := isIn pattern.toList

/-- The text of a pattern with every reference replaced. -/
def resolveText (pattern : String) (groups : List (Option String)) : String :=
  String.ofList (resolve groups pattern.toList)

end Highlight.Backreference
