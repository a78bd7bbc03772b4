/-!
# Sets of characters

A set of characters is kept by its **switch points**: the ascending code points at which membership
changes, beginning outside the set.  So `#[0x41, 0x5B]` is `A`–`Z`, and `#[0]` is every character.
Membership counts the switch points that do not exceed a code point (`CharSet.contains`): an odd
count is inside.  With this form the complement only moves the point `0`, and every set operation is
one merge of two ascending lists (`CharSet.combine`).

Surrogate code points may be covered by a set; no `Char` has such a value.
-/

namespace Highlight

/-- A set of code points, given by the ascending points at which membership changes. -/
structure CharSet where
  switches : Array Nat
  deriving Repr, DecidableEq, Inhabited

namespace CharSet

/-- No character. -/
def empty : CharSet := ⟨#[]⟩

/-- Every character. -/
def all : CharSet := ⟨#[0]⟩

/-- The code points from `lo` to `hi`, both included; nothing when `hi < lo`. -/
def range (lo hi : Nat) : CharSet := if lo ≤ hi then ⟨#[lo, hi + 1]⟩ else empty

/-- One character alone. -/
def single (c : Char) : CharSet := range c.toNat c.toNat

/-- The number of entries of an ascending array that do not exceed `v`, by bisection of the part
from `lo` to `hi`.  The first argument bounds the number of halvings. -/
def countUpTo (points : Array Nat) (v : Nat) : Nat → Nat → Nat → Nat
  | 0, lo, _ => lo
  | halvings + 1, lo, hi =>
    if lo < hi then
      let mid := (lo + hi) / 2
      if points.getD mid 0 ≤ v then countUpTo points v halvings (mid + 1) hi
      else countUpTo points v halvings lo mid
    else lo

/-- Whether a code point is in the set. -/
def containsPoint (s : CharSet) (v : Nat) : Bool :=
  countUpTo s.switches v s.switches.size 0 s.switches.size % 2 == 1

/-- Whether a character is in the set. -/
def contains (s : CharSet) (c : Char) : Bool := s.containsPoint c.toNat

/-- Merges two ascending lists of switch points.  `inA` and `inB` say whether the sweep is inside
either set, and a point is kept where the value of `f` on the two changes.  The first argument
bounds the number of points met. -/
def sweep (f : Bool → Bool → Bool) : Nat → Bool → Bool → List Nat → List Nat → List Nat
  | 0, _, _, _, _ => []
  | _ + 1, _, _, [], [] => []
  | n + 1, inA, inB, a :: as, [] =>
    if f inA inB == f (!inA) inB then sweep f n (!inA) inB as []
    else a :: sweep f n (!inA) inB as []
  | n + 1, inA, inB, [], b :: bs =>
    if f inA inB == f inA (!inB) then sweep f n inA (!inB) [] bs
    else b :: sweep f n inA (!inB) [] bs
  | n + 1, inA, inB, a :: as, b :: bs =>
    if a < b then
      if f inA inB == f (!inA) inB then sweep f n (!inA) inB as (b :: bs)
      else a :: sweep f n (!inA) inB as (b :: bs)
    else if b < a then
      if f inA inB == f inA (!inB) then sweep f n inA (!inB) (a :: as) bs
      else b :: sweep f n inA (!inB) (a :: as) bs
    else
      if f inA inB == f (!inA) (!inB) then sweep f n (!inA) (!inB) as bs
      else a :: sweep f n (!inA) (!inB) as bs

/-- The set of the points where `f` holds of membership in the two sets; `f` is false where neither
holds. -/
def combine (f : Bool → Bool → Bool) (s t : CharSet) : CharSet :=
  ⟨(sweep f (s.switches.size + t.switches.size) false false
    s.switches.toList t.switches.toList).toArray⟩

/-- What is in either set. -/
def union (s t : CharSet) : CharSet := combine (· || ·) s t

/-- What is in both sets. -/
def inter (s t : CharSet) : CharSet := combine (· && ·) s t

/-- What is in the first set and not in the second. -/
def diff (s t : CharSet) : CharSet := combine (fun a b => a && !b) s t

/-- What is in exactly one of the two sets. -/
def symmDiff (s t : CharSet) : CharSet := combine (fun a b => a != b) s t

/-- What is not in the set. -/
def compl (s : CharSet) : CharSet := symmDiff all s

/-- The union of a list of sets. -/
def unions (sets : List CharSet) : CharSet := sets.foldl union empty

/-- The set of the listed characters. -/
def ofList (cs : List Char) : CharSet := unions (cs.map single)

/-! ### Written sets

Tables of character data are written as hexadecimal ranges, `41-5A 61-7A AA`, in ascending order and
with a gap between neighbours. -/

/-- The value of a hexadecimal digit; anything else counts as zero. -/
def hexValue (c : Char) : Nat :=
  if '0' ≤ c ∧ c ≤ '9' then c.toNat - 48
  else if 'A' ≤ c ∧ c ≤ 'F' then c.toNat - 55
  else if 'a' ≤ c ∧ c ≤ 'f' then c.toNat - 87
  else 0

/-- The state of reading a written set: the switch points so far, the lower end of an open range,
and the number being read. -/
structure Written where
  points : Array Nat := #[]
  low : Option Nat := none
  number : Option Nat := none

/-- Ends the range being read, if there is one. -/
def Written.close (w : Written) : Written :=
  match w.number with
  | none => w
  | some n => ⟨(w.points.push (w.low.getD n)).push (n + 1), none, none⟩

/-- Takes one character of a written set. -/
def Written.step (w : Written) (c : Char) : Written :=
  if c == '-' then ⟨w.points, w.number, none⟩
  else if c == ' ' || c == '\n' then w.close
  else ⟨w.points, w.low, some (w.number.getD 0 * 16 + hexValue c)⟩

/-- Reads ascending hexadecimal ranges. -/
def ofRanges (text : String) : CharSet :=
  ⟨(text.toList.foldl Written.step {}).close.points⟩

end CharSet

end Highlight
