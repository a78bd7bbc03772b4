import Highlight.Pattern.Syntax
import Highlight.Text.Blank
import Highlight.Unicode.Property

/-!
# Reading patterns

`Pattern.Node.ofText` reads the written form of a pattern.  The reader keeps the characters that are
still to come and the three things that reading depends on: whether blanks and comments are ignored,
how many groups have been numbered, and which names groups have (`Pattern.Input`).

Every step takes at least one character, so the number of characters bounds the number of steps; the
functions that repeat take that bound as their first argument.
-/

namespace Highlight.Pattern

open Text (isBlank)

/-- What a reader of patterns works on. -/
structure Input where
  rest : List Char
  ignoreBlanks : Bool := false
  groups : Nat := 0
  names : List String := []

/-- A step of reading, which takes characters off the input or finds that there is no pattern. -/
abbrev Reader := StateT Input (Except PatternError)

namespace Reader

/-- The next character. -/
def peek : Reader (Option Char) := do return (← get).rest.head?

/-- The characters still to come. -/
def remaining : Reader (List Char) := do return (← get).rest

/-- Goes on with other characters. -/
def resume (rest : List Char) : Reader Unit := modify fun input => { input with rest }

/-- Drops the next character. -/
def advance : Reader Unit := modify fun input => { input with rest := input.rest.drop 1 }

/-- The characters without the blanks and comments at their front; a comment runs from `#` to the
end of the line. -/
def dropIgnored (inComment : Bool) : List Char → List Char
  | [] => []
  | c :: cs =>
    if inComment then dropIgnored (c != '\n') cs
    else if isBlank c then dropIgnored false cs
    else if c == '#' then dropIgnored true cs
    else c :: cs

/-- Drops blanks and comments where they are ignored. -/
def skipIgnored : Reader Unit := modify fun input =>
  if input.ignoreBlanks then { input with rest := dropIgnored false input.rest } else input

/-- Drops the next character and what is ignored after it; whether a character is left. -/
def advanceSkipping : Reader Bool := do
  advance
  skipIgnored
  return (← peek).isSome

/-- Drops the next character and what is ignored after it, and fails at the end of the text. -/
def advanceOr (e : PatternError) : Reader Unit := do
  unless ← advanceSkipping do throw e

/-- Takes characters that satisfy `p`, and what is ignored after each. -/
def collect (p : Char → Bool) : Nat → Reader (List Char)
  | 0 => return []
  | n + 1 => do
    match ← peek with
    | some c =>
      if p c then
        let _ ← advanceSkipping
        return c :: (← collect p n)
      else return []
    | none => return []

/-- Takes all characters that satisfy `p` from here, and what is ignored after each. -/
def collectAll (p : Char → Bool) : Reader (List Char) := do collect p (← remaining).length

/-! ### Numbers and hexadecimal escapes -/

/-- Numbers in patterns are below this bound. -/
def numberBound : Nat := Nat.pow 2 32

/-- A decimal number with blanks around it. -/
def number : Reader Nat := do
  modify fun input => { input with rest := input.rest.dropWhile isBlank }
  let digits ← collectAll Char.isDigit
  let _ ← collectAll isBlank
  if digits.isEmpty then throw .numberMissing
  let n := digits.foldl (fun n c => n * 10 + (c.toNat - 48)) 0
  if n < numberBound then return n else throw .numberTooLarge

/-- Whether a character is a hexadecimal digit. -/
def isHexDigit (c : Char) : Bool :=
  c.isDigit || ('a' ≤ c && c ≤ 'f') || ('A' ≤ c && c ≤ 'F')

/-- The character whose code point the digits give. -/
def charOfHex (digits : List Char) : Reader Char :=
  let n := digits.foldl (fun n c => n * 16 + CharSet.hexValue c) 0
  if n.isValidChar then return Char.ofNat n else throw .hexValue

/-- Exactly as many hexadecimal digits as asked for; the first of them is next. -/
def hexDigits : Nat → Reader (List Char)
  | 0 => return []
  | n + 1 => do
    match ← peek with
    | none => throw .escapeUnfinished
    | some c =>
      unless isHexDigit c do throw .hexDigit
      let _ ← advanceSkipping
      return c :: (← hexDigits n)

/-- The rest of a hexadecimal escape, whose letter is next: `\xHH`, `\uHHHH`, `\UHHHHHHHH`, or any
number of digits in braces after one of the letters. -/
def hexEscape (letter : Char) : Reader Literal := do
  advanceOr .escapeUnfinished
  if (← peek) == some '{' then
    advanceOr .escapeUnfinished
    let digits ← collectAll isHexDigit
    match ← peek with
    | none => throw .escapeUnfinished
    | some c =>
      unless c == '}' do throw .hexDigit
      let _ ← advanceSkipping
      if digits.isEmpty then throw .hexMissing
      return { char := ← charOfHex digits }
  else
    let count := if letter == 'x' then 2 else if letter == 'u' then 4 else 8
    let char ← charOfHex (← hexDigits count)
    return { char, twoDigits := letter == 'x' }

/-! ### Escapes -/

/-- What a single escape or plain character stands for. -/
inductive Primitive where
  | literal (l : Literal)
  | dot
  | assertion (a : Assertion)
  | property (query : PropertyQuery) (negated : Bool)
  | letter (c : LetterClass) (negated : Bool)

/-- The expression made of a primitive alone. -/
def Primitive.toNode : Primitive → Node
  | .literal l => .literal l
  | .dot => .dot
  | .assertion a => .assertion a
  | .property query negated => .property query negated
  | .letter c negated => .letter c negated

/-- The text before the first occurrence of a separator and the text after it. -/
def splitOnce (separator : List Char) : List Char → Option (List Char × List Char)
  | [] => none
  | c :: cs =>
    match Text.dropFront? separator (c :: cs) with
    | some rest => some ([], rest)
    | none => (splitOnce separator cs).map fun (before, rest) => (c :: before, rest)

/-- What the text between the braces of a property escape asks for: a value of a property where one
of `!=`, `:` and `=` separates two names, which all mean the same, or else a name. -/
def queryOf (text : List Char) : PropertyQuery :=
  let valued (parts : List Char × List Char) : PropertyQuery :=
    .valued (String.ofList parts.1) (String.ofList parts.2)
  match splitOnce ['!', '='] text with
  | some parts => valued parts
  | none =>
    match splitOnce [':'] text with
    | some parts => valued parts
    | none =>
      match splitOnce ['='] text with
      | some parts => valued parts
      | none => .named (String.ofList text)

/-- The rest of a property escape, whose letter is next: one more character, or a query in
braces. -/
def propertyEscape (negated : Bool) : Reader Primitive := do
  advanceOr .escapeUnfinished
  match ← peek with
  | some '{' =>
    let _ ← advanceSkipping
    let text ← collectAll (· != '}')
    unless (← peek).isSome do throw .escapeUnfinished
    advance
    return .property (queryOf text) negated
  | some c =>
    if c == '\\' then throw .propertyForm
    let _ ← advanceSkipping
    return .property (.named c.toString) negated
  | none => throw .escapeUnfinished

/-- The characters that mean something of their own in patterns. -/
def isMeta (c : Char) : Bool := "\\.+*?()|[]\x7b\x7d^$#&-~".toList.contains c

/-- Whether a backslash before the character leaves it as it is: any ASCII character except letters,
digits and angle brackets. -/
def isEscapable (c : Char) : Bool :=
  isMeta c || (c.toNat < 128 && !c.isAlphanum && c != '<' && c != '>')

/-- After `\b`, a word boundary's name in braces.  Braces that begin with anything but a letter or
hyphen belong to a repetition and are left alone. -/
def boundaryName : Reader (Option Assertion) := do
  let isNameChar (c : Char) : Bool := c.isAlpha || c == '-'
  let start ← remaining
  advanceOr .boundaryName
  unless (← peek).any isNameChar do
    resume start
    return none
  let name ← collectAll isNameChar
  unless (← peek) == some '}' do throw .boundaryName
  advance
  match String.ofList name with
  | "start" => return some .wordStart
  | "end" => return some .wordEnd
  | "start-half" => return some .wordStartHalf
  | "end-half" => return some .wordEndHalf
  | _ => throw .boundaryName

/-- An escape; its backslash is next. -/
def escape : Reader Primitive := do
  advance
  match ← peek with
  | none => throw .escapeUnfinished
  | some c =>
    if c.isDigit then throw .backreference
    match c with
    | 'x' | 'u' | 'U' => return .literal (← hexEscape c)
    | 'p' => propertyEscape false
    | 'P' => propertyEscape true
    | _ =>
      advance
      match c with
      | 'd' => return .letter .digit false
      | 'D' => return .letter .digit true
      | 's' => return .letter .space false
      | 'S' => return .letter .space true
      | 'w' => return .letter .word false
      | 'W' => return .letter .word true
      | 'a' => return .literal ⟨'\x07', false⟩
      | 'f' => return .literal ⟨'\x0C', false⟩
      | 't' => return .literal ⟨'\t', false⟩
      | 'n' => return .literal ⟨'\n', false⟩
      | 'r' => return .literal ⟨'\r', false⟩
      | 'v' => return .literal ⟨'\x0B', false⟩
      | 'A' => return .assertion .textStart
      | 'z' => return .assertion .textEnd
      | 'b' =>
        if (← peek) == some '{' then return .assertion ((← boundaryName).getD .wordBoundary)
        else return .assertion .wordBoundary
      | 'B' => return .assertion .notWordBoundary
      | '<' => return .assertion .wordStart
      | '>' => return .assertion .wordEnd
      | _ => if isEscapable c then return .literal ⟨c, false⟩ else throw .escapeUnknown

/-! ### Classes -/

/-- The class of ASCII characters with the given name. -/
def asciiClassNamed? : String → Option AsciiClass
  | "alnum" => some .alnum
  | "alpha" => some .alpha
  | "ascii" => some .ascii
  | "blank" => some .blank
  | "cntrl" => some .cntrl
  | "digit" => some .digit
  | "graph" => some .graph
  | "lower" => some .lower
  | "print" => some .print
  | "punct" => some .punct
  | "space" => some .space
  | "upper" => some .upper
  | "word" => some .word
  | "xdigit" => some .xdigit
  | _ => none

/-- A class between colons at the front of the characters, such as `[:^alpha:]`, and what
follows. -/
def asciiClass? : List Char → Option (ClassItem × List Char)
  | '[' :: ':' :: cs =>
    let (negated, cs) := match cs with
      | '^' :: cs => (true, cs)
      | cs => (false, cs)
    match cs.dropWhile (· != ':') with
    | ':' :: ']' :: rest =>
      (asciiClassNamed? (String.ofList (cs.takeWhile (· != ':')))).map fun c =>
        (.ascii c negated, rest)
    | _ => none
  | _ => none

/-- The character that the reader of a class sees after the present one.  Where blanks are ignored
it is the first that is neither a blank nor the sign of a comment. -/
def peekBeyond (ignoreBlanks : Bool) (after : List Char) : Option Char :=
  if ignoreBlanks then (beyond false after).or after.head? else after.head?
where
  /-- The first character that is neither a blank nor a first `#`. -/
  beyond (inComment : Bool) : List Char → Option Char
    | [] => none
    | c :: cs =>
      if isBlank c then beyond inComment cs
      else if !inComment && c == '#' then beyond true cs
      else some c

/-- One character or escape in a class. -/
def classPrimitive : Reader Primitive := do
  match ← peek with
  | none => throw .classUnclosed
  | some '\\' => escape
  | some c =>
    advance
    return .literal ⟨c, false⟩

/-- A primitive as an item of a class. -/
def Primitive.toClassItem : Primitive → Reader ClassItem
  | .literal l => return .literal l
  | .property query negated => return .property query negated
  | .letter c negated => return .letter c negated
  | _ => throw .classEscape

/-- A primitive as an end of a range. -/
def Primitive.toLiteral : Primitive → Reader Literal
  | .literal l => return l
  | _ => throw .classRangeEnd

/-- A range of characters, or a primitive that no range begins with. -/
def classRange : Reader ClassItem := do
  let first ← classPrimitive
  skipIgnored
  let input ← get
  match input.rest with
  | [] => throw .classUnclosed
  | c :: after =>
    let beyond := peekBeyond input.ignoreBlanks after
    if c != '-' || beyond == some ']' || beyond == some '-' then first.toClassItem
    else
      advanceOr .classUnclosed
      let last ← classPrimitive
      let first ← first.toLiteral
      let last ← last.toLiteral
      if first.char ≤ last.char then return .range first last else throw .classRangeOrder

/-- Takes the hyphens at the front of a class, each of which stands for itself. -/
def leadingHyphens : Nat → Reader (List ClassItem)
  | 0 => return []
  | n + 1 => do
    if (← peek) == some '-' then
      advanceOr .classUnclosed
      return .literal ⟨'-', false⟩ :: (← leadingHyphens n)
    else return []

/-- The part of a class read so far: an operation that waits for its right side, with its left
side, and the items since, last item first. -/
structure OpenClass where
  pending : Option (ClassOperation × ClassItem) := none
  items : List ClassItem := []

/-- The part of a class read so far as one item. -/
def OpenClass.close (c : OpenClass) : ClassItem :=
  let right := ClassItem.ofUnion c.items.reverse
  match c.pending with
  | none => right
  | some (op, left) => .operation op left right

/-- One more item. -/
def OpenClass.push (c : OpenClass) (item : ClassItem) : OpenClass :=
  { c with items := item :: c.items }

/-- All so far becomes the left side of an operation; operations group to the left. -/
def OpenClass.operate (c : OpenClass) (op : ClassOperation) : OpenClass :=
  { pending := some (op, c.close) }

/-- The opening of a class: whether it is negated, and the characters that stand for themselves only
at the front.  The bracket is next. -/
def classOpening : Reader (Bool × OpenClass) := do
  advanceOr .classUnclosed
  let negated := (← peek) == some '^'
  if negated then advanceOr .classUnclosed
  let hyphens ← leadingHyphens (← remaining).length
  if hyphens.isEmpty && (← peek) == some ']' then
    advanceOr .classUnclosed
    return (negated, { items := [.literal ⟨']', false⟩] })
  return (negated, { items := hyphens.reverse })

/-- The rest of a class up to and including its closing bracket. -/
def classBody : Nat → OpenClass → Reader ClassItem
  | 0, _ => throw .classUnclosed
  | n + 1, read => do
    skipIgnored
    match ← remaining with
    | [] => throw .classUnclosed
    | ']' :: rest =>
      resume rest
      return read.close
    | '&' :: '&' :: rest =>
      resume rest
      classBody n (read.operate .intersection)
    | '-' :: '-' :: rest =>
      resume rest
      classBody n (read.operate .difference)
    | '~' :: '~' :: rest =>
      resume rest
      classBody n (read.operate .symmetricDifference)
    | '[' :: rest =>
      match asciiClass? ('[' :: rest) with
      | some (item, rest) =>
        resume rest
        classBody n (read.push item)
      | none =>
        let (negated, inner) ← classOpening
        let item ← classBody n inner
        classBody n (read.push (.bracketed negated item))
    | _ => classBody n (read.push (← classRange))

/-- A class; its opening bracket is next. -/
def bracketedClass : Reader Node := do
  let (negated, opened) ← classOpening
  return .bracketed negated (← classBody ((← remaining).length + 1) opened)

/-! ### Groups -/

/-- The flag that a letter stands for. -/
def flagOf? : Char → Option Flag
  | 'i' => some .caseInsensitive
  | 'm' => some .multiLine
  | 's' => some .dotMatchesBreak
  | 'U' => some .swapGreed
  | 'u' => some .unicode
  | 'R' => some .carriageReturn
  | 'x' => some .ignoreBlanks
  | _ => none

/-- A list of flags up to the colon or parenthesis that ends it.  `signed` says that the minus sign
was met and `dangling` that it came last. -/
def flagList : Nat → FlagChanges → (signed dangling : Bool) → Reader FlagChanges
  | 0, _, _, _ => throw .flagsUnfinished
  | n + 1, changes, signed, dangling => do
    match ← peek with
    | none => throw .flagsUnfinished
    | some c =>
      if c == ':' || c == ')' then
        if dangling then throw .flagsDangling
        return changes.reverse
      else if c == '-' then
        if signed then throw .flagRepeated
        advance
        flagList n changes true true
      else
        match flagOf? c with
        | none => throw .flagUnknown
        | some flag =>
          if (changes.state? flag).isSome then throw .flagRepeated
          advance
          flagList n ((flag, !signed) :: changes) signed false

/-- Whether a character may stand in a group's name. -/
def isNameChar (first : Bool) (c : Char) : Bool :=
  c == '_' ||
    if first then Unicode.Property.alphabetic.contains c
    else c == '.' || c == '[' || c == ']' || Unicode.Property.alphanumeric.contains c

/-- A group's name and the angle bracket that ends it. -/
def groupName : Reader String := do
  let rest ← remaining
  let name := rest.takeWhile (· != '>')
  match rest.dropWhile (· != '>') with
  | [] => throw .groupName
  | _ :: after =>
    match name with
    | [] => throw .groupName
    | c :: cs =>
      unless isNameChar true c && cs.all (isNameChar false) do throw .groupName
      let name := String.ofList name
      if (← get).names.contains name then throw .groupNameRepeated
      modify fun input => { input with rest := after, names := name :: input.names }
      return name

/-- What an opening parenthesis begins. -/
inductive Opening where
  /-- Flags for the rest of the group around. -/
  | flags (changes : FlagChanges)
  /-- A group. -/
  | group (number : Option Nat) (changes : FlagChanges)

/-- Counts one more capturing group. -/
def nextGroup : Reader Nat := do
  modify fun input => { input with groups := input.groups + 1 }
  return (← get).groups

/-- The opening of a group or list of flags; its parenthesis is next. -/
def groupOpening : Reader Opening := do
  advance
  skipIgnored
  match ← remaining with
  | '?' :: '=' :: _ | '?' :: '!' :: _ | '?' :: '<' :: '=' :: _ | '?' :: '<' :: '!' :: _ =>
    throw .lookaround
  | '?' :: 'P' :: '<' :: rest | '?' :: '<' :: rest =>
    resume rest
    let number ← nextGroup
    let _ ← groupName
    return .group (some number) []
  | '?' :: rest =>
    resume rest
    let changes ← flagList (rest.length + 1) [] false false
    let ending ← peek
    advance
    if ending == some ')' then
      if changes.isEmpty then throw .repetitionMissing
      return .flags changes
    return .group none changes
  | _ => return .group (some (← nextGroup)) []

/-! ### Repetitions and sequences -/

/-- Takes the node to repeat off the nodes read so far, last node first. -/
def repeated : List Node → Reader (Node × List Node)
  | [] | .empty :: _ | .flags _ :: _ => throw .repetitionMissing
  | node :: before => return (node, before)

/-- Takes the question mark that makes a repetition lazy, if it is next. -/
def greedy : Reader Bool := do
  if (← peek) == some '?' then
    advance
    return false
  return true

/-- The bounds of a counted repetition, whose opening brace is next, and whether it is greedy. -/
def countedBounds : Reader (Nat × Option Nat × Bool) := do
  advanceOr .repetitionUnclosed
  let min ← number
  let mut max := some min
  if (← peek) == some ',' then
    advanceOr .repetitionUnclosed
    if (← peek) == some '}' then max := none
    else max := some (← number)
  unless (← peek) == some '}' do throw .repetitionUnclosed
  let _ ← advanceSkipping
  let greedy ← greedy
  unless max.all (min ≤ ·) do throw .repetitionOrder
  return (min, max, greedy)

/-- The expression made of the branches before, and the nodes of the last branch, last node
first. -/
def closeBranches (branches : List Node) (nodes : List Node) : Node :=
  .ofAlternatives (branches ++ [.ofSequence nodes.reverse])

/-- Reads alternatives up to the end of the text or a closing parenthesis, which is left. -/
def alternatives : Nat → (branches nodes : List Node) → Reader Node
  | 0, _, _ => throw .nestedTooDeep
  | n + 1, branches, nodes => do
    skipIgnored
    match ← peek with
    | none | some ')' => return closeBranches branches nodes
    | some '|' =>
      advance
      alternatives n (branches ++ [.ofSequence nodes.reverse]) []
    | some '(' =>
      match ← groupOpening with
      | .flags changes =>
        modify fun input =>
          { input with ignoreBlanks := (changes.state? .ignoreBlanks).getD input.ignoreBlanks }
        alternatives n branches (.flags changes :: nodes)
      | .group number changes =>
        let outer := (← get).ignoreBlanks
        modify fun input =>
          { input with ignoreBlanks := (changes.state? .ignoreBlanks).getD outer }
        let node ← alternatives n [] []
        unless (← peek) == some ')' do throw .groupUnclosed
        modify fun input => { input with ignoreBlanks := outer }
        advance
        alternatives n branches (.group number changes node :: nodes)
    | some '[' => alternatives n branches ((← bracketedClass) :: nodes)
    | some '{' =>
      let (node, before) ← repeated nodes
      let (min, max, greedy) ← countedBounds
      alternatives n branches (.repetition min max greedy node :: before)
    | some c =>
      if c == '?' || c == '*' || c == '+' then
        let (node, before) ← repeated nodes
        advance
        let greedy ← greedy
        let min := if c == '+' then 1 else 0
        let max := if c == '?' then some 1 else none
        alternatives n branches (.repetition min max greedy node :: before)
      else if c == '\\' then
        alternatives n branches ((← escape).toNode :: nodes)
      else
        advance
        let node := match c with
          | '.' => .dot
          | '^' => .assertion .lineStart
          | '$' => .assertion .lineEnd
          | c => .literal ⟨c, false⟩
        alternatives n branches (node :: nodes)

/-- A whole pattern. -/
def pattern : Reader Node := do
  let node ← alternatives ((← remaining).length + 1) [] []
  if (← peek).isSome then throw .groupUnopened
  if node.depth ≤ depthLimit then return node else throw .nestedTooDeep

end Reader

/-- Reads a pattern; also the number of its capturing groups. -/
def Node.ofText (text : String) : Except PatternError (Node × Nat) := do
  let (node, input) ← Reader.pattern.run { rest := text.toList }
  return (node, input.groups)

end Highlight.Pattern
