import Highlight.Pattern.Expr

/-!
# Programs

A pattern is matched by a small machine.  `Program.ofExpr` turns an expression into instructions;
`Program.run` runs them from one position of a text and answers the positions remembered on the way.

Of several ways to go on, the machine tries the preferred one first and keeps the others on a stack
(`Thread`), so the first thread to accept is the preferred match.  A fork of ways is not entered
twice at one position (`Marks`): a second visit could only repeat what has failed, or go round in
circles without taking a character.  This bounds the run.
-/

namespace Highlight.Pattern

/-- An instruction of the machine; `next` is the number of the instruction to go on with. -/
inductive Instruction where
  /-- Takes one character of a set. -/
  | take (members : CharSet) (next : Nat)
  /-- Goes on if an assertion holds. -/
  | look (l : Look) (next : Nat)
  /-- Remembers the position in a slot. -/
  | remember (slot next : Nat)
  /-- Two ways to go on, the first one preferred. -/
  | fork (preferred other : Nat)
  /-- There is a match. -/
  | accept
  /-- There is no way to go on. -/
  | fail
  deriving Repr, Inhabited

/-- The instructions written so far. -/
abbrev Code := Array Instruction

namespace Code

/-- A fork at which a repetition goes round again or goes on. -/
def loop (greedy : Bool) (again onwards : Nat) : Instruction :=
  if greedy then .fork again onwards else .fork onwards again

/-- Appends an instruction and answers its number. -/
def emit (instruction : Instruction) (code : Code) : Nat × Code :=
  (code.size, code.push instruction)

/-- Applies `part` to `onwards` so often that each copy goes on with the next one. -/
def copies (part : Nat → Code → Nat × Code) : Nat → Nat → Code → Nat × Code
  | 0, onwards, code => (onwards, code)
  | n + 1, onwards, code =>
    let (start, code) := part onwards code
    copies part n start code

/-- Copies of `part` each of which may be passed over together with the ones after it. -/
def optionalCopies (part : Nat → Code → Nat × Code) (greedy : Bool) (exit : Nat) :
    Nat → Nat → Code → Nat × Code
  | 0, onwards, code => (onwards, code)
  | n + 1, onwards, code =>
    let (start, code) := part onwards code
    let (here, code) := code.emit (loop greedy start exit)
    optionalCopies part greedy exit n here code

/-- A loop round `part`: the entry of the part, and the fork after it. -/
def around (part : Nat → Code → Nat × Code) (greedy : Bool) (onwards : Nat) (code : Code) :
    Nat × Nat × Code :=
  let (fork, code) := code.emit .fail
  let (start, code) := part fork code
  (start, fork, code.setIfInBounds fork (loop greedy start onwards))

/-- Instructions for an expression that go on with instruction `onwards`: the number of the first
one, and the code with them.

A loop whose body can be empty is entered through a fork of its own, so that a round which takes no
character ends it without being undone. -/
def ofExpr : Expr → (onwards : Nat) → Code → Nat × Code
  | .empty, onwards, code => (onwards, code)
  | .set s, onwards, code => code.emit (.take s onwards)
  | .look l, onwards, code => code.emit (.look l onwards)
  | .sequence a b, onwards, code =>
    let (second, code) := ofExpr b onwards code
    ofExpr a second code
  | .either a b, onwards, code =>
    let (first, code) := ofExpr a onwards code
    let (second, code) := ofExpr b onwards code
    code.emit (.fork first second)
  | .group number body, onwards, code =>
    let (close, code) := code.emit (.remember (2 * number + 1) onwards)
    let (start, code) := ofExpr body close code
    code.emit (.remember (2 * number) start)
  | .repetition min (some max) greedy body, onwards, code =>
    let part := fun onwards code => ofExpr body onwards code
    let (start, code) := optionalCopies part greedy onwards (max - min) onwards code
    copies part min start code
  | .repetition min none greedy body, onwards, code =>
    let part := fun onwards code => ofExpr body onwards code
    let (start, fork, code) := around part greedy onwards code
    match min with
    | 0 => if body.canBeEmpty then code.emit (loop greedy start onwards) else (fork, code)
    | min + 1 => copies part min start code

end Code

/-- A compiled pattern: instructions, the number of the first one, and the number of slots for
positions. -/
structure Program where
  code : Code
  start : Nat
  slots : Nat
  deriving Repr, Inhabited

/-- The program for an expression with the given number of groups.  Slots `0` and `1` take the
position of the whole match. -/
def Program.ofExpr (e : Expr) (groups : Nat) : Program :=
  let (accept, code) := Code.emit .accept #[]
  let (start, code) := Code.ofExpr (.group 0 e) accept code
  { code, start, slots := 2 * (groups + 1) }

/-! ### Running a program -/

/-- One way to go on: the next instruction, the position in the text, and the positions remembered
so far. -/
structure Thread where
  instruction : Nat
  position : Nat
  slots : Array (Option Nat)
  deriving Repr, Inhabited

/-- The forks entered so far, by the distance from the position where the run began. -/
structure Marks where
  byDistance : Array (List Nat)
  deriving Repr, Inhabited

/-- No fork has been entered. -/
def Marks.none : Marks := ⟨#[]⟩

/-- Whether a fork was entered at a distance. -/
def Marks.has (m : Marks) (distance fork : Nat) : Bool :=
  (m.byDistance.getD distance []).contains fork

/-- Notes that a fork is entered at a distance. -/
def Marks.add (m : Marks) (distance fork : Nat) : Marks :=
  if distance < m.byDistance.size then ⟨m.byDistance.modify distance (fork :: ·)⟩
  else ⟨(m.byDistance ++ Array.replicate (distance - m.byDistance.size) []).push [fork]⟩

namespace Program

/-- The character before a position. -/
def charBefore (text : Array Char) : Nat → Option Char
  | 0 => none
  | i + 1 => text[i]?

/-- Runs the threads in turn, the first one to its end before the next, and answers the slots of the
first that accepts.  `origin` is where the run began, and the first argument bounds the number of
instructions. -/
def runThreads (code : Code) (text : Array Char) (origin : Nat) :
    Nat → List Thread → Marks → Option (Array (Option Nat))
  | 0, _, _ => none
  | _ + 1, [], _ => none
  | fuel + 1, t :: others, marks =>
    match code[t.instruction]? with
    | none | some .fail => runThreads code text origin fuel others marks
    | some .accept => some t.slots
    | some (.take members next) =>
      match text[t.position]? with
      | none => runThreads code text origin fuel others marks
      | some c =>
        if members.contains c then
          runThreads code text origin fuel (⟨next, t.position + 1, t.slots⟩ :: others) marks
        else runThreads code text origin fuel others marks
    | some (.look l next) =>
      if l.holds (charBefore text t.position) text[t.position]? then
        runThreads code text origin fuel (⟨next, t.position, t.slots⟩ :: others) marks
      else runThreads code text origin fuel others marks
    | some (.remember slot next) =>
      runThreads code text origin fuel
        (⟨next, t.position, t.slots.setIfInBounds slot (some t.position)⟩ :: others) marks
    | some (.fork preferred other) =>
      let distance := t.position - origin
      if marks.has distance t.instruction then runThreads code text origin fuel others marks
      else
        runThreads code text origin fuel
          (⟨preferred, t.position, t.slots⟩ :: ⟨other, t.position, t.slots⟩ :: others)
          (marks.add distance t.instruction)

/-- A bound on the instructions of one run: every fork is entered at most once at each position, and
between two forks every instruction is met at most once. -/
def stepBound (p : Program) (text : Array Char) : Nat :=
  (2 * p.code.size * (text.size + 1) + 2) * (p.code.size + 1)

/-- Runs a program from one position of a text, given by the number of characters before it.  The
answer is the position in each slot, if there is a match. -/
def run (p : Program) (text : Array Char) (start : Nat) : Option (Array (Option Nat)) :=
  runThreads p.code text start (p.stepBound text)
    [⟨p.start, start, Array.replicate p.slots none⟩] .none

end Program

end Highlight.Pattern
