/-!
# Computations in steps

Facts on computations of more than one step, which the parts of the library share.

A computation that may fail has a result just where each of its steps has one, whatever its failures
are (`bind_eq_ok`, `map_eq_ok`).  The readers of documents and of patterns are taken apart so.  A
run over a list is taken apart at its last step (`foldlM_concat`), and the run that reads decimal
digits comes to the number that they write (`foldl_eq_ofDigitChars`).
-/

namespace Highlight

/-! ### Computations that may fail -/

section Results

variable {ε α β : Type} {x : Except ε α} {b : β}

theorem bind_eq_ok {f : α → Except ε β} : (x >>= f) = .ok b ↔ ∃ a, x = .ok a ∧ f a = .ok b := by
  cases x <;> simp [bind, Except.bind]

theorem map_eq_ok {f : α → β} : x.map f = .ok b ↔ ∃ a, x = .ok a ∧ f a = b := by
  cases x <;> simp [Except.map]

end Results

/-! ### Runs over lists -/

/-- A run over one more element is the run before it and one step. -/
theorem foldlM_concat {m : Type → Type} [Monad m] [LawfulMonad m] {α β : Type} (f : β → α → m β)
    (init : β) (xs : List α) (x : α) :
    (xs ++ [x]).foldlM f init = xs.foldlM f init >>= fun state => f state x := by
  rw [List.foldlM_append]
  refine congrArg (xs.foldlM f init >>= ·) (funext fun state => ?_)
  rw [List.foldlM_cons]
  exact bind_pure _

/-- Digits that are read from the front on come to the number that they write. -/
theorem foldl_eq_ofDigitChars (digits : List Char) :
    digits.foldl (fun n c => n * 10 + (c.toNat - 48)) 0 = Nat.ofDigitChars 10 digits 0 := by
  simp only [Nat.ofDigitChars, Nat.mul_comm]
  rfl

end Highlight
