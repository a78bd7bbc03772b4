/-!
# Pattern syntax

The written form of a pattern as a tree, before flags are applied: `Pattern.Node` for expressions
and `Pattern.ClassItem` for what stands between brackets.  `PatternError` lists the ways in which a
text fails to be a pattern.
-/

namespace Highlight

/-- Why a text is not a usable pattern. -/
inductive PatternError where
  /-- A bracketed class is not closed. -/
  | classUnclosed
  /-- An escape that stands for more than one character may not stand here in a class. -/
  | classEscape
  /-- An end of a range in a class is not a single character. -/
  | classRangeEnd
  /-- A range in a class runs backwards. -/
  | classRangeOrder
  /-- A number is missing. -/
  | numberMissing
  /-- A number is too large. -/
  | numberTooLarge
  /-- Hexadecimal digits are missing in an escape. -/
  | hexMissing
  /-- A digit of an escape is not hexadecimal. -/
  | hexDigit
  /-- A hexadecimal escape names no character. -/
  | hexValue
  /-- The pattern ends inside an escape. -/
  | escapeUnfinished
  /-- An escape has no meaning. -/
  | escapeUnknown
  /-- The pattern refers back to a group. -/
  | backreference
  /-- A list of flags ends with the sign that switches flags off. -/
  | flagsDangling
  /-- A list of flags holds a flag or the sign twice. -/
  | flagRepeated
  /-- The pattern ends inside a list of flags. -/
  | flagsUnfinished
  /-- A flag is not known. -/
  | flagUnknown
  /-- A group's name is missing, ill-formed or not ended. -/
  | groupName
  /-- Two groups have the same name. -/
  | groupNameRepeated
  /-- A group is not closed. -/
  | groupUnclosed
  /-- A closing parenthesis has no group. -/
  | groupUnopened
  /-- Parts of the pattern are nested too deeply. -/
  | nestedTooDeep
  /-- A repetition's bounds are in the wrong order. -/
  | repetitionOrder
  /-- A repetition has nothing to repeat. -/
  | repetitionMissing
  /-- A counted repetition is not closed. -/
  | repetitionUnclosed
  /-- The name of a word boundary is not known or not ended. -/
  | boundaryName
  /-- A property is asked for in a form that holds no name. -/
  | propertyForm
  /-- No property or value has the name. -/
  | propertyUnknown
  /-- Looking ahead or behind is not supported. -/
  | lookaround
  /-- A property or character above ASCII is used where Unicode is switched off. -/
  | unicodeOff
  /-- The part could match half a character. -/
  | splitsCharacters
  /-- The pattern would take too much memory. -/
  | tooLarge
  deriving Repr, DecidableEq, Inhabited

namespace Pattern

/-- A flag, which holds from where it is set to the end of the group. -/
inductive Flag where
  | caseInsensitive
  | multiLine
  | dotMatchesBreak
  | swapGreed
  | unicode
  | carriageReturn
  | ignoreBlanks
  deriving Repr, DecidableEq

/-- Flags switched on (`true`) or off, in the order written. -/
abbrev FlagChanges := List (Flag × Bool)

/-- The last-written state of a flag in a list without repetitions. -/
def FlagChanges.state? (changes : FlagChanges) (flag : Flag) : Option Bool := changes.lookup flag

/-- A class named by a letter: `\d`, `\s`, `\w`. -/
inductive LetterClass where
  | digit
  | space
  | word
  deriving Repr, DecidableEq

/-- A class of ASCII characters named between colons, such as `[:alpha:]`. -/
inductive AsciiClass where
  | alnum
  | alpha
  | ascii
  | blank
  | cntrl
  | digit
  | graph
  | lower
  | print
  | punct
  | space
  | upper
  | word
  | xdigit
  deriving Repr, DecidableEq

/-- What a property escape asks for. -/
inductive PropertyQuery where
  /-- A binary property, a general category or a script, by name. -/
  | named (name : String)
  /-- A value of a property. -/
  | valued (property value : String)
  deriving Repr, DecidableEq

/-- A character written in a pattern. `twoDigits` marks the form `\xHH`, which denotes a byte where
Unicode is switched off. -/
structure Literal where
  char : Char
  twoDigits : Bool := false
  deriving Repr, DecidableEq

/-- An operation on two parts of a class. -/
inductive ClassOperation where
  | intersection
  | difference
  | symmetricDifference
  deriving Repr, DecidableEq

/-- What stands between the brackets of a class. -/
inductive ClassItem where
  | empty
  | literal (l : Literal)
  | range (first last : Literal)
  | ascii (c : AsciiClass) (negated : Bool)
  | property (query : PropertyQuery) (negated : Bool)
  | letter (c : LetterClass) (negated : Bool)
  | bracketed (negated : Bool) (item : ClassItem)
  | union (items : List ClassItem)
  | operation (op : ClassOperation) (left right : ClassItem)
  deriving Repr

/-- Positions at which something is asserted of the text around. -/
inductive Assertion where
  | lineStart
  | lineEnd
  | textStart
  | textEnd
  | wordBoundary
  | notWordBoundary
  | wordStart
  | wordEnd
  | wordStartHalf
  | wordEndHalf
  deriving Repr, DecidableEq

/-- A pattern as written. -/
inductive Node where
  | empty
  | flags (changes : FlagChanges)
  | literal (l : Literal)
  | dot
  | assertion (a : Assertion)
  | property (query : PropertyQuery) (negated : Bool)
  | letter (c : LetterClass) (negated : Bool)
  | bracketed (negated : Bool) (item : ClassItem)
  | repetition (min : Nat) (max : Option Nat) (greedy : Bool) (node : Node)
  /-- A group, which captures when it has a number. -/
  | group (number : Option Nat) (changes : FlagChanges) (node : Node)
  | alternatives (nodes : List Node)
  | sequence (nodes : List Node)
  deriving Repr

/-! ### Depth -/

mutual

/-- How deeply brackets, unions and operations are nested. -/
def ClassItem.depth : ClassItem → Nat
  | .bracketed _ item => item.depth + 1
  | .union items => ClassItem.depthOfAll items + 1
  | .operation _ left right => max left.depth right.depth + 1
  | _ => 0

/-- The greatest depth in a list. -/
def ClassItem.depthOfAll : List ClassItem → Nat
  | [] => 0
  | item :: items => max item.depth (ClassItem.depthOfAll items)

end

mutual

/-- How deeply classes, repetitions, groups, alternatives and sequences are nested. -/
def Node.depth : Node → Nat
  | .bracketed _ item => item.depth + 1
  | .repetition _ _ _ node => node.depth + 1
  | .group _ _ node => node.depth + 1
  | .alternatives nodes => Node.depthOfAll nodes + 1
  | .sequence nodes => Node.depthOfAll nodes + 1
  | _ => 0

/-- The greatest depth in a list. -/
def Node.depthOfAll : List Node → Nat
  | [] => 0
  | node :: nodes => max node.depth (Node.depthOfAll nodes)

end

/-- A pattern may be nested this deeply. -/
def depthLimit : Nat := 250

/-- A sequence of nodes; one node stands for itself. -/
def Node.ofSequence : List Node → Node
  | [] => .empty
  | [node] => node
  | nodes => .sequence nodes

/-- Alternatives; a single one stands for itself. -/
def Node.ofAlternatives : List Node → Node
  | [] => .empty
  | [node] => node
  | nodes => .alternatives nodes

/-- A union of class items; a single one stands for itself. -/
def ClassItem.ofUnion : List ClassItem → ClassItem
  | [] => .empty
  | [item] => item
  | items => .union items

end Pattern

end Highlight
