import Highlight.Text.Blank
import Mathlib.Data.List.TakeWhile

/-!
# Words of a text

The blanks at either end of a text are in none of its words (`words_trim`), and a text has no words
just where it is made of blanks, so that nothing of it is left by `trim` (`trim_eq_empty_iff`).
-/

namespace Highlight.Text

/-- Blanks at the front are in no word. -/
theorem wordsFrom_trimFront (cs : List Char) : wordsFrom [] (trimFront cs) = wordsFrom [] cs := by
  induction cs with
  | nil => rfl
  | cons c cs ih =>
    by_cases hc : isBlank c = true
    · have hfront : trimFront (c :: cs) = trimFront cs := List.dropWhile_cons_of_pos hc
      rw [hfront, ih, wordsFrom, if_pos hc]
      rfl
    · have hfront : trimFront (c :: cs) = c :: cs := List.dropWhile_cons_of_neg hc
      rw [hfront]

theorem wordsFrom_blanks {blanks : List Char} (h : ∀ c ∈ blanks, isBlank c = true)
    (run : List Char) : wordsFrom run blanks = wordsFrom run [] := by
  induction blanks generalizing run with
  | nil => rfl
  | cons c blanks ih =>
    rw [List.forall_mem_cons] at h
    have hrest : wordsFrom [] blanks = [] := ih h.2 []
    rw [wordsFrom.eq_2, if_pos h.1, hrest]
    rfl

/-- Blanks at the end are in no word. -/
theorem wordsFrom_append_blanks {blanks : List Char} (h : ∀ c ∈ blanks, isBlank c = true)
    (run cs : List Char) : wordsFrom run (cs ++ blanks) = wordsFrom run cs := by
  induction cs generalizing run with
  | nil => exact wordsFrom_blanks h run
  | cons c cs ih =>
    rw [List.cons_append, wordsFrom, wordsFrom, ih, ih]

/-- What is left of a text is the text from its first character that is no blank on, without blanks
behind it. -/
theorem exists_trimChars_append (cs : List Char) : ∃ blanks, (∀ c ∈ blanks, isBlank c = true) ∧
    trimFront cs = trimChars cs ++ blanks := by
  let reversed := (trimFront cs).reverse
  refine ⟨(reversed.takeWhile isBlank).reverse, fun c hc => ?_, ?_⟩
  · exact List.mem_takeWhile_imp (List.mem_reverse.1 hc)
  · have hsplit : reversed.takeWhile isBlank ++ trimFront reversed = reversed :=
      List.takeWhile_append_dropWhile
    have hback := congrArg List.reverse hsplit
    rw [List.reverse_append, List.reverse_reverse] at hback
    exact hback.symm

/-- **The words of a text are those of the text without the blanks around it.** -/
theorem words_trim (s : String) : words (trim s) = words s := by
  obtain ⟨blanks, hblanks, hfront⟩ := exists_trimChars_append s.toList
  have htrim : wordsFrom [] (trimChars s.toList) = wordsFrom [] s.toList := by
    rw [← wordsFrom_trimFront s.toList, hfront, wordsFrom_append_blanks hblanks]
  rw [words, words, trim, String.toList_ofList, htrim]

/-- Around what is left of a text there are blanks. -/
theorem exists_append_trimChars_append (cs : List Char) : ∃ front back,
    cs = front ++ trimChars cs ++ back ∧ (∀ c ∈ front, isBlank c = true) ∧
      ∀ c ∈ back, isBlank c = true := by
  obtain ⟨back, hback, hfront⟩ := exists_trimChars_append cs
  have hsplit : cs.takeWhile isBlank ++ trimFront cs = cs := List.takeWhile_append_dropWhile
  refine ⟨cs.takeWhile isBlank, back, ?_, fun c hc => List.mem_takeWhile_imp hc, hback⟩
  rw [List.append_assoc, ← hfront, hsplit]

theorem trimFront_append {blanks : List Char} (h : ∀ c ∈ blanks, isBlank c = true)
    (cs : List Char) : trimFront (blanks ++ cs) = trimFront cs := List.dropWhile_append_of_pos h

theorem trimFront_cons {c : Char} (h : isBlank c = false) (cs : List Char) :
    trimFront (c :: cs) = c :: cs := List.dropWhile_cons_of_neg (by simp [h])

/-- Blanks around a text that has none are what is taken away. -/
theorem trimChars_around {front back : List Char} {c : Char} {cs : List Char}
    (hfront : ∀ c ∈ front, isBlank c = true) (hcore : ∀ d ∈ c :: cs, isBlank d = false)
    (hback : ∀ c ∈ back, isBlank c = true) : trimChars (front ++ c :: cs ++ back) = c :: cs := by
  have hforward : trimFront (front ++ c :: cs ++ back) = c :: cs ++ back := by
    rw [List.append_assoc, trimFront_append hfront, List.cons_append,
      trimFront_cons (hcore c List.mem_cons_self)]
  have hbackward : trimFront (c :: cs ++ back).reverse = (c :: cs).reverse := by
    rw [List.reverse_append, trimFront_append fun d hd => hback d (List.mem_reverse.1 hd)]
    obtain ⟨last, rest, hlast⟩ := List.exists_cons_of_ne_nil
      (List.reverse_ne_nil_iff.2 (List.cons_ne_nil c cs))
    have hmem : last ∈ c :: cs := List.mem_reverse.1 (hlast ▸ List.mem_cons_self)
    rw [hlast, trimFront_cons (hcore last hmem)]
  rw [trimChars, hforward, hbackward, List.reverse_reverse]

theorem trimChars_sublist (cs : List Char) : (trimChars cs).Sublist cs := by
  obtain ⟨blanks, -, hfront⟩ := exists_trimChars_append cs
  have hpart : (trimChars cs).Sublist (trimFront cs) := hfront ▸ List.sublist_append_left _ _
  exact hpart.trans (List.dropWhile_sublist _)

/-- A run that has begun becomes a word. -/
theorem wordsFrom_ne_nil {run : List Char} (h : run ≠ []) (cs : List Char) :
    wordsFrom run cs ≠ [] := by
  induction cs generalizing run with
  | nil => simp [wordsFrom, h]
  | cons c cs ih =>
    rw [wordsFrom]
    split
    · simp [h]
    · exact ih (List.cons_ne_nil c run)

theorem words_eq_nil_iff {s : String} : words s = [] ↔ ∀ c ∈ s.toList, isBlank c = true := by
  rw [words, List.map_eq_nil_iff]
  constructor
  · intro h
    rw [← wordsFrom_trimFront] at h
    cases hfront : trimFront s.toList with
    | nil => exact List.dropWhile_eq_nil_iff.1 hfront
    | cons c cs =>
      have hc : isBlank c = false := by
        have hdrop : s.toList.dropWhile isBlank = c :: cs := hfront
        have hnot := List.head_dropWhile_not isBlank (l := s.toList)
          (by rw [hdrop]; exact List.cons_ne_nil _ _)
        simpa [hdrop] using hnot
      rw [hfront, wordsFrom, hc] at h
      exact absurd h (wordsFrom_ne_nil (List.cons_ne_nil c []) cs)
  · intro h
    exact wordsFrom_blanks h []

/-- Nothing is left of a text just where it has no words. -/
theorem trim_eq_empty_iff {s : String} : trim s = "" ↔ words s = [] := by
  constructor
  · intro h
    rw [← words_trim, h]
    rfl
  · intro h
    have hfront : trimFront s.toList = [] := List.dropWhile_eq_nil_iff.2 (words_eq_nil_iff.1 h)
    rw [trim, trimChars, hfront]
    rfl

end Highlight.Text
