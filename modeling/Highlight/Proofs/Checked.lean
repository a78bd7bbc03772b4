/-!
# Checked access

Operations on numbers and on columns of values that have no result where an index lies outside, or
where a larger number is to be taken from a smaller one, and what they come to otherwise.
-/

namespace Highlight.Checked

variable {α : Type}

/-- A difference, if there is one. -/
def sub (a b : Nat) : Option Nat := if b ≤ a then some (a - b) else none

/-- A number as a 64-bit word, if it fits one. -/
def word (n : Nat) : Option Nat := if n < Nat.pow 2 64 then some n else none

/-- A column with one value replaced, if there is such a value. -/
def set (xs : Array α) (i : Nat) (x : α) : Option (Array α) :=
  if i < xs.size then some (xs.modify i fun _ => x) else none

/-- A column with the values from `start` up to `stop` replaced, if there are such values. -/
def splice (xs : Array α) (start stop : Nat) (new : Array α) : Option (Array α) :=
  if start ≤ stop ∧ stop ≤ xs.size then
    some (xs.extract 0 start ++ new ++ xs.extract stop xs.size)
  else none

/-- Where the first value from `start` on that satisfies `p` is, if there is a part of the column
from `start` on. -/
def findFrom (xs : Array α) (p : α → Bool) (start : Nat) : Option (Option Nat) :=
  if start ≤ xs.size then some (((xs.toList.drop start).findIdx? p).map (start + ·)) else none

/-- A column at a height: what is too much is cut off, and what is missing is filled up. -/
def fit (xs : Array α) (height : Nat) (x : α) : Array α :=
  xs.take height ++ Array.replicate (height - xs.size) x

variable {β : Type} {xs : Array α} {g : α → β}

theorem sub_eq {a b : Nat} (h : b ≤ a) : sub a b = some (a - b) := if_pos h

theorem set_eq {i : Nat} (h : i < xs.size) (x : α) : set xs i x = some (xs.modify i fun _ => x) :=
  if_pos h

theorem fit_of_le {height : Nat} (h : xs.size ≤ height) (x : α) :
    fit xs height x = xs ++ Array.replicate (height - xs.size) x := by
  rw [fit, Array.take_eq_extract, Array.extract_eq_self_of_le h]

theorem fit_of_ge {height : Nat} (h : height ≤ xs.size) (x : α) :
    fit xs height x = xs.take height := by
  rw [fit, Nat.sub_eq_zero_of_le h, Array.replicate_zero, Array.append_empty]

/-- One value of a column is changed as its entry is. -/
theorem map_modify (xs : Array α) (i : Nat) {f : α → α} {k : β → β} (h : ∀ x, g (f x) = k (g x)) :
    (xs.modify i f).map g = (xs.map g).modify i k := by
  refine Array.ext_getElem? fun j => ?_
  rw [Array.getElem?_map, Array.getElem?_modify, Array.getElem?_modify, Array.getElem?_map]
  split
  · rw [Option.map_map, Option.map_map]
    exact congrArg (Option.map · xs[j]?) (funext h)
  · rfl

/-- A change of the entry that a column does not show leaves the column as it is. -/
theorem map_modify_of_eq (xs : Array α) (i : Nat) {f : α → α} (h : ∀ x, g (f x) = g x) :
    (xs.modify i f).map g = xs.map g := by
  refine Array.ext_getElem? fun j => ?_
  rw [Array.getElem?_map, Array.getElem?_modify, Array.getElem?_map]
  split
  · rw [Option.map_map]
    exact congrArg (Option.map · xs[j]?) (funext h)
  · rfl

end Highlight.Checked
