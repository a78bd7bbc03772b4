import Highlight.Pattern.Syntax
import Highlight.Unicode.Folding
import Highlight.Unicode.Query

/-!
# Expressions

What a pattern means once its flags have been applied: `Pattern.Expr`, built from sets of characters
and assertions about a position.  `Pattern.Expr.ofNode` gives the meaning of a written pattern;
flags hold from where they stand to the end of the group around, so they are handed from each part
of a pattern to the next.

Of two alternatives the first is preferred, and a repetition prefers more or fewer rounds; which
match is found depends on both.
-/

namespace Highlight.Pattern

/-! ### Assertions -/

/-- Which characters count as parts of words. -/
inductive WordKind where
  | unicode
  | ascii
  deriving Repr, DecidableEq

/-- Whether an ASCII character is a part of words. -/
def isAsciiWord (c : Char) : Bool := c.isAlphanum || c == '_'

/-- Whether a character is a part of words. -/
def WordKind.contains : WordKind → Char → Bool
  | .ascii, c => isAsciiWord c
  | .unicode, c => isAsciiWord c || (128 ≤ c.toNat && Unicode.Property.word.contains c)

/-- What is asserted of a position between two characters. -/
inductive Look where
  | textStart
  | textEnd
  | lineStart
  | lineEnd
  /-- As `lineStart`, where a line ends with a carriage return, a line feed, or both in turn. -/
  | lineStartReturn
  /-- As `lineEnd`, where a line ends with a carriage return, a line feed, or both in turn. -/
  | lineEndReturn
  | boundary (words : WordKind)
  | notBoundary (words : WordKind)
  | wordStart (words : WordKind)
  | wordEnd (words : WordKind)
  | wordStartHalf (words : WordKind)
  | wordEndHalf (words : WordKind)
  deriving Repr, DecidableEq

/-- Whether the assertion holds between the character before a position and the one after; there is
no character beyond the ends of the text. -/
def Look.holds (before after : Option Char) : Look → Bool
  | .textStart => before.isNone
  | .textEnd => after.isNone
  | .lineStart => before.all (· == '\n')
  | .lineEnd => after.all (· == '\n')
  | .lineStartReturn => before.all fun c => c == '\n' || (c == '\r' && after != some '\n')
  | .lineEndReturn => after.all fun c => c == '\r' || (c == '\n' && before != some '\r')
  | .boundary words => before.any words.contains != after.any words.contains
  | .notBoundary words => before.any words.contains == after.any words.contains
  | .wordStart words => !before.any words.contains && after.any words.contains
  | .wordEnd words => before.any words.contains && !after.any words.contains
  | .wordStartHalf words => !before.any words.contains
  | .wordEndHalf words => !after.any words.contains

/-! ### Expressions -/

/-- The meaning of a pattern. -/
inductive Expr where
  | empty
  /-- One character of a set. -/
  | set (members : CharSet)
  | look (l : Look)
  | sequence (first second : Expr)
  /-- The first alternative is preferred. -/
  | either (first second : Expr)
  /-- At least `min` rounds and at most `max`; a greedy repetition prefers more. -/
  | repetition (min : Nat) (max : Option Nat) (greedy : Bool) (body : Expr)
  /-- A group whose position is remembered under its number. -/
  | group (number : Nat) (body : Expr)
  deriving Repr, Inhabited

namespace Expr

/-- Whether the expression can match the empty text. -/
def canBeEmpty : Expr → Bool
  | empty => true
  | set _ => false
  | look _ => true
  | sequence a b => a.canBeEmpty && b.canBeEmpty
  | either a b => a.canBeEmpty || b.canBeEmpty
  | repetition min _ _ body => min == 0 || body.canBeEmpty
  | group _ body => body.canBeEmpty

/-- Whether the expression matches nothing but the empty text. -/
def isOnlyEmpty : Expr → Bool
  | empty => true
  | set _ => false
  | look _ => true
  | sequence a b => a.isOnlyEmpty && b.isOnlyEmpty
  | either a b => a.isOnlyEmpty && b.isOnlyEmpty
  | repetition _ max _ body => max == some 0 || body.isOnlyEmpty
  | group _ body => body.isOnlyEmpty

/-- A repetition in its simplest form: more than one round of the empty text adds nothing, no round
is the empty expression, and exactly one round is the body. -/
def repeated (min : Nat) (max : Option Nat) (greedy : Bool) (body : Expr) : Expr :=
  let (min, max) :=
    if body.isOnlyEmpty then (Min.min min 1, some ((max.map (Min.min · 1)).getD 1)) else (min, max)
  if max == some 0 then empty
  else if min == 1 && max == some 1 then body
  else repetition min max greedy body

/-- The characters with which a match that is not empty can begin. -/
def firsts : Expr → CharSet
  | empty => .empty
  | set s => s
  | look _ => .empty
  | sequence a b => if a.canBeEmpty then a.firsts.union b.firsts else a.firsts
  | either a b => a.firsts.union b.firsts
  | repetition _ _ _ body => body.firsts
  | group _ body => body.firsts

/-! ### Size -/

/-- About how many bytes of memory one character of a set takes in a compiled pattern. -/
def setSize (s : CharSet) : Nat :=
  match s.switches.toList with
  | [lo, hi] =>
    if lo + 1 == hi then 32 * (Char.ofNat lo).utf8Size else if hi ≤ 128 then 72 else 500
  | points =>
    if points.all (· ≤ 128) && points.length % 2 == 0 then 64 + 4 * points.length
    else 500 + 30 * points.length

/-- About how many bytes of memory an expression takes in a compiled pattern.  What it takes exactly
is up to the engine that compiles it, so this is an estimate of what an engine holds against its
limit of 10 MiB.  It decides only which patterns are refused as too large
(`PatternError.tooLarge`), and no theorem depends on it. -/
def size : Expr → Nat
  | empty => 32
  | set s => setSize s
  | look _ => 32
  | sequence a b => a.size + b.size
  | either a b => a.size + b.size + 40
  | repetition min max _ body =>
    match max with
    | none => Max.max min 1 * body.size + 80
    | some max => max * body.size + (max - min) * 40 + 32
  | group _ body => body.size + 64

/-- The memory, in bytes, that a pattern may take by the estimate of `Pattern.Expr.size`. -/
def sizeLimit : Nat := 10 * Nat.pow 2 20

end Expr

/-! ### Flags in force -/

/-- The flags in force at some place in a pattern. -/
structure Flags where
  caseInsensitive : Bool := false
  multiLine : Bool := false
  dotMatchesBreak : Bool := false
  swapGreed : Bool := false
  unicode : Bool := true
  carriageReturn : Bool := false
  deriving Repr, DecidableEq

/-- Sets one flag.  Ignoring blanks concerns the reading of a pattern only. -/
def Flags.set (f : Flags) : Flag → Bool → Flags
  | .caseInsensitive, on => { f with caseInsensitive := on }
  | .multiLine, on => { f with multiLine := on }
  | .dotMatchesBreak, on => { f with dotMatchesBreak := on }
  | .swapGreed, on => { f with swapGreed := on }
  | .unicode, on => { f with unicode := on }
  | .carriageReturn, on => { f with carriageReturn := on }
  | .ignoreBlanks, _ => f

/-- Applies a list of changes. -/
def Flags.apply (f : Flags) (changes : FlagChanges) : Flags :=
  changes.foldl (fun f (flag, on) => f.set flag on) f

/-- Which characters `\w` and word boundaries go by. -/
def Flags.wordKind (f : Flags) : WordKind := if f.unicode then .unicode else .ascii

/-- Adds what differs only in case, where case does not matter. -/
def Flags.fold (f : Flags) (s : CharSet) : CharSet :=
  if !f.caseInsensitive then s
  else if f.unicode then s.closeUnderCase
  else s.closeUnderAsciiCase

/-- The complement of a set if it is negated.  Without Unicode it would hold half characters. -/
def Flags.negate (f : Flags) (negated : Bool) (s : CharSet) : Except PatternError CharSet :=
  if !negated then .ok s
  else if f.unicode then .ok s.compl
  else .error .splitsCharacters

/-! ### Classes -/

/-- The characters of a named class of ASCII characters. -/
def AsciiClass.members : AsciiClass → CharSet
  | .alnum => .ofRanges "30-39 41-5A 61-7A"
  | .alpha => .ofRanges "41-5A 61-7A"
  | .ascii => .ofRanges "0-7F"
  | .blank => .ofRanges "9 20"
  | .cntrl => .ofRanges "0-1F 7F"
  | .digit => .ofRanges "30-39"
  | .graph => .ofRanges "21-7E"
  | .lower => .ofRanges "61-7A"
  | .print => .ofRanges "20-7E"
  | .punct => .ofRanges "21-2F 3A-40 5B-60 7B-7E"
  | .space => .ofRanges "9-D 20"
  | .upper => .ofRanges "41-5A"
  | .word => .ofRanges "30-39 41-5A 5F 61-7A"
  | .xdigit => .ofRanges "30-39 41-46 61-66"

/-- The characters of a class named by a letter. -/
def LetterClass.members : LetterClass → WordKind → CharSet
  | .digit, .unicode => Unicode.Category.decimalNumber
  | .space, .unicode => Unicode.Property.whiteSpace
  | .word, .unicode => Unicode.Property.word
  | .digit, .ascii => AsciiClass.digit.members
  | .space, .ascii => AsciiClass.space.members
  | .word, .ascii => AsciiClass.word.members

/-- The set of two parts of a class joined by an operation. -/
def ClassOperation.apply : ClassOperation → CharSet → CharSet → CharSet
  | .intersection, s, t => s.inter t
  | .difference, s, t => s.diff t
  | .symmetricDifference, s, t => s.symmDiff t

namespace Flags

/-- The character that a literal outside a class stands for. -/
def literal (f : Flags) (l : Literal) : Except PatternError Char :=
  if !f.unicode && l.twoDigits && 128 ≤ l.char.toNat then .error .splitsCharacters else .ok l.char

/-- The character that a literal in a class stands for.  Without Unicode a class holds ASCII
only. -/
def classLiteral (f : Flags) (l : Literal) : Except PatternError Char := do
  let c ← f.literal l
  if !f.unicode && 128 ≤ c.toNat then throw .unicodeOff
  return c

/-- The characters of a class named by a letter. -/
def letterMembers (f : Flags) (c : LetterClass) (negated : Bool) : Except PatternError CharSet :=
  f.negate negated (c.members f.wordKind)

/-- The characters that a property escape stands for. -/
def propertyMembers (f : Flags) (query : PropertyQuery) (negated : Bool) :
    Except PatternError CharSet :=
  if !f.unicode then .error .unicodeOff
  else match Unicode.members? query with
    | none => .error .propertyUnknown
    | some s => f.negate negated (f.fold s)

mutual

/-- The characters of a class. -/
def members (f : Flags) : ClassItem → Except PatternError CharSet
  | .empty => .ok .empty
  | .literal l => do return .single (← f.classLiteral l)
  | .range first last => do
    return .range (← f.classLiteral first).toNat (← f.classLiteral last).toNat
  | .ascii c negated => f.negate negated (f.fold c.members)
  | .property query negated => f.propertyMembers query negated
  | .letter c negated => f.letterMembers c negated
  | .bracketed negated item => do f.negate negated (f.fold (← f.members item))
  | .union items => f.membersOfAll items
  | .operation op left right => do
    let left ← f.members left
    let right ← f.members right
    return op.apply (f.fold left) (f.fold right)

/-- The characters of any of the classes. -/
def membersOfAll (f : Flags) : List ClassItem → Except PatternError CharSet
  | [] => .ok .empty
  | item :: items => do
    let s ← f.members item
    return s.union (← f.membersOfAll items)

end

/-- What an assertion means. -/
def look (f : Flags) : Assertion → Look
  | .lineStart =>
    if !f.multiLine then .textStart else if f.carriageReturn then .lineStartReturn else .lineStart
  | .lineEnd =>
    if !f.multiLine then .textEnd else if f.carriageReturn then .lineEndReturn else .lineEnd
  | .textStart => .textStart
  | .textEnd => .textEnd
  | .wordBoundary => .boundary f.wordKind
  | .notWordBoundary => .notBoundary f.wordKind
  | .wordStart => .wordStart f.wordKind
  | .wordEnd => .wordEnd f.wordKind
  | .wordStartHalf => .wordStartHalf f.wordKind
  | .wordEndHalf => .wordEndHalf f.wordKind

/-- The characters that a dot stands for. -/
def dot (f : Flags) : Except PatternError CharSet :=
  if !f.unicode then .error .splitsCharacters
  else if f.dotMatchesBreak then .ok .all
  else if f.carriageReturn then .ok (CharSet.ofList ['\n', '\r']).compl
  else .ok (CharSet.single '\n').compl

end Flags

/-! ### From written patterns -/

namespace Expr

mutual

/-- The meaning of a written pattern under the flags in force where it begins, with the flags in
force where it ends. -/
def ofNode (f : Flags) : Node → Except PatternError (Expr × Flags)
  | .empty => .ok (empty, f)
  | .flags changes => .ok (empty, f.apply changes)
  | .literal l => do return (set (f.fold (.single (← f.literal l))), f)
  | .dot => do return (set (← f.dot), f)
  | .assertion a => .ok (look (f.look a), f)
  | .property query negated => do return (set (← f.propertyMembers query negated), f)
  | .letter c negated => do return (set (← f.letterMembers c negated), f)
  | .bracketed negated item => do
    return (set (← f.negate negated (f.fold (← f.members item))), f)
  | .repetition min max greedy node => do
    let (body, f') ← ofNode f node
    return (repeated min max (greedy != f.swapGreed) body, f')
  | .group number changes node => do
    let (body, _) ← ofNode (f.apply changes) node
    match number with
    | none => return (body, f)
    | some number => return (group number body, f)
  | .alternatives nodes => ofAlternatives f nodes
  | .sequence nodes => ofSequence f nodes

/-- The meaning of parts that follow one another. -/
def ofSequence (f : Flags) : List Node → Except PatternError (Expr × Flags)
  | [] => .ok (empty, f)
  | [node] => ofNode f node
  | node :: nodes => do
    let (first, f) ← ofNode f node
    let (second, f) ← ofSequence f nodes
    return (sequence first second, f)

/-- The meaning of alternatives, of which earlier ones are preferred. -/
def ofAlternatives (f : Flags) : List Node → Except PatternError (Expr × Flags)
  | [] => .ok (empty, f)
  | [node] => ofNode f node
  | node :: nodes => do
    let (first, f) ← ofNode f node
    let (second, f) ← ofAlternatives f nodes
    return (either first second, f)

end

end Expr

end Highlight.Pattern
