import Highlight.Document.Lines
import Mathlib.Data.List.Basic

/-!
# Line breaks of a text that is cut in two

A text is cut at some offset into a front and a back.  Behind the line in which the cut lies, the
lines of the text are those of the back (`drop_brokenLines`), and the number of lines adds up
(`length_brokenLines`).  Before that line, the texts of the lines are those of the front
(`take_lineTexts_append`).

Only a carriage return at the end of the front with a line feed after it needs care: in the front
alone it is a break of its own, in the whole text it is not yet one at the cut
(`breaksBefore_append_of_not_joined`).
-/

namespace Highlight.Document

/-- A carriage return with a line feed after it. -/
def Joined (front back : List Char) : Prop :=
  front.getLast? = some '\r' ∧ back.head? = some '\n'

instance (front back : List Char) : Decidable (Joined front back) :=
  inferInstanceAs (Decidable (_ ∧ _))

theorem not_joined_nil (back : List Char) : ¬ Joined [] back := by
  simp [Joined]

theorem joined_singleton (c : Char) (back : List Char) :
    Joined [c] back ↔ c = '\r' ∧ back.head? = some '\n' := by
  simp [Joined]

theorem joined_cons_cons (c d : Char) (cs back : List Char) :
    Joined (c :: d :: cs) back ↔ Joined (d :: cs) back := by
  simp [Joined]

/-- The last character decides, so a character in front of a text that is not empty does not
matter. -/
theorem joined_cons_of_ne_nil (c : Char) {cs : List Char} (hcs : cs ≠ []) (back : List Char) :
    Joined (c :: cs) back ↔ Joined cs back := by
  obtain ⟨d, ds, rfl⟩ := List.exists_cons_of_ne_nil hcs
  exact joined_cons_cons c d ds back

theorem Joined.cons {c : Char} {cs back : List Char} (h : Joined cs back) :
    Joined (c :: cs) back :=
  (joined_cons_of_ne_nil c (fun hnil => not_joined_nil back (hnil ▸ h)) back).2 h

/-- A carriage return that is joined to a line feed only by what is appended stands alone. -/
theorem joined_append {c : Char} {cs back : List Char} (hc : ¬ Joined [c] cs)
    (h : Joined [c] (cs ++ back)) : c = '\r' ∧ cs = [] ∧ ∃ ds, back = '\n' :: ds := by
  rw [joined_singleton] at hc h
  cases cs with
  | nil => exact ⟨h.1, rfl, List.head?_eq_some_iff.1 h.2⟩
  | cons d ds => exact absurd h hc

/-! ### One character at a time -/

/-- A text is taken apart from the front: a carriage return and the line feed after it together,
and any other character alone. -/
@[elab_as_elim]
theorem breakInduction {motive : List Char → Prop} (nil : motive [])
    (crlf : ∀ cs, motive cs → motive ('\r' :: '\n' :: cs))
    (char : ∀ c cs, ¬ Joined [c] cs → motive cs → motive (c :: cs)) : ∀ cs, motive cs
  | [] => nil
  | [c] => char c [] (by simp [Joined]) nil
  | c :: d :: cs => by
    by_cases h : Joined [c] (d :: cs)
    · obtain ⟨hc, hd⟩ := (joined_singleton c (d :: cs)).1 h
      obtain rfl : d = '\n' := by simpa using hd
      rw [hc]
      exact crlf cs (breakInduction nil crlf char cs)
    · exact char c (d :: cs) h (breakInduction nil crlf char (d :: cs))

/-- The side condition with which the clause for a single character is entered. -/
theorem not_crlf_of_not_joined {c : Char} {cs : List Char} (h : ¬ Joined [c] cs) (ds : List Char) :
    c = '\r' → cs = '\n' :: ds → False := by
  rintro rfl rfl
  exact h ⟨rfl, rfl⟩

@[simp] theorem brokenLines_nil : brokenLines [] = [[]] := rfl

theorem brokenLines_crlf (cs : List Char) :
    brokenLines ('\r' :: '\n' :: cs) = ['\r', '\n'] :: brokenLines cs := rfl

theorem brokenLines_cons {c : Char} {cs : List Char} (h : ¬ Joined [c] cs) :
    brokenLines (c :: cs) =
      if isBreak c then [c] :: brokenLines cs
      else match brokenLines cs with
        | [] => [[c]]
        | line :: lines => (c :: line) :: lines :=
  brokenLines.eq_3 c cs (not_crlf_of_not_joined h)

theorem brokenLines_cons_of_isBreak {c : Char} {cs : List Char} (h : ¬ Joined [c] cs)
    (hc : isBreak c = true) : brokenLines (c :: cs) = [c] :: brokenLines cs := by
  rw [brokenLines_cons h, if_pos hc]

theorem brokenLines_ne_nil (cs : List Char) : brokenLines cs ≠ [] := by
  induction cs using breakInduction with
  | nil => simp
  | crlf cs _ => simp [brokenLines_crlf]
  | char c cs h _ =>
    rw [brokenLines_cons h]
    split
    · simp
    · split <;> simp

/-- A character that breaks no line becomes the first one of the first line. -/
theorem brokenLines_cons_of_not_isBreak {c : Char} (cs : List Char) (hc : isBreak c = false) :
    brokenLines (c :: cs) = (brokenLines cs).modifyHead (c :: ·) := by
  have h : ¬ Joined [c] cs := by
    rintro ⟨hr, -⟩
    obtain rfl : c = '\r' := by simpa using hr
    exact absurd hc (by decide)
  rw [brokenLines_cons h, if_neg (by simp [hc])]
  cases hl : brokenLines cs with
  | nil => exact absurd hl (brokenLines_ne_nil cs)
  | cons line lines => rfl

@[simp] theorem breaksBefore_zero (cs : List Char) : breaksBefore cs 0 = 0 := by
  cases cs <;> rfl

@[simp] theorem breaksBefore_nil (n : Nat) : breaksBefore [] n = 0 := by
  cases n <;> rfl

theorem breaksBefore_crlf (cs : List Char) (n : Nat) :
    breaksBefore ('\r' :: '\n' :: cs) (n + 2) = 1 + breaksBefore cs n := rfl

/-- A line feed alone. -/
theorem brokenLines_lf (cs : List Char) : brokenLines ('\n' :: cs) = ['\n'] :: brokenLines cs :=
  brokenLines_cons_of_isBreak (by simp [Joined]) rfl

/-- Between the two characters of a break there is none before. -/
theorem breaksBefore_crlf_one (cs : List Char) : breaksBefore ('\r' :: '\n' :: cs) 1 = 0 := rfl

theorem breaksBefore_cons {c : Char} {cs : List Char} (h : ¬ Joined [c] cs) (n : Nat) :
    breaksBefore (c :: cs) (n + 1) = (if isBreak c then 1 else 0) + breaksBefore cs n :=
  breaksBefore.eq_5 c cs n (not_crlf_of_not_joined h)

/-! ### Behind the cut -/

/-- The number of lines of a text is the number of breaks before a cut and the number of lines
behind it. -/
theorem length_brokenLines (cs : List Char) (n : Nat) :
    (brokenLines cs).length = breaksBefore cs n + (brokenLines (cs.drop n)).length := by
  induction cs using breakInduction generalizing n with
  | nil => simp
  | crlf cs ih =>
    match n with
    | 0 => simp
    | 1 =>
      -- the cut goes through the break, of which the line feed is left
      rw [breaksBefore_crlf_one, List.drop_succ_cons, List.drop_zero, brokenLines_crlf,
        brokenLines_lf]
      simp
    | n + 2 =>
      rw [breaksBefore_crlf, brokenLines_crlf, List.length_cons, ih n]
      simp only [List.drop_succ_cons]
      omega
  | char c cs h ih =>
    cases n with
    | zero => simp
    | succ n =>
      rw [breaksBefore_cons h, List.drop_succ_cons]
      by_cases hc : isBreak c = true
      · rw [brokenLines_cons_of_isBreak h hc, List.length_cons, ih n, if_pos hc]
        omega
      · rw [brokenLines_cons_of_not_isBreak cs (by simpa using hc), List.length_modifyHead, ih n,
          if_neg hc, Nat.zero_add]

/-- Behind the line in which the cut lies, the lines of a text are those behind the cut. -/
theorem drop_brokenLines (cs : List Char) (n : Nat) :
    (brokenLines cs).drop (breaksBefore cs n + 1) = (brokenLines (cs.drop n)).tail := by
  induction cs using breakInduction generalizing n with
  | nil => simp
  | crlf cs ih =>
    match n with
    | 0 => simp
    | 1 =>
      rw [breaksBefore_crlf_one, List.drop_succ_cons, List.drop_zero, brokenLines_crlf,
        brokenLines_lf]
      simp
    | n + 2 =>
      rw [breaksBefore_crlf, brokenLines_crlf, Nat.add_comm 1, List.drop_succ_cons, ih n]
      simp only [List.drop_succ_cons]
  | char c cs h ih =>
    cases n with
    | zero => simp
    | succ n =>
      rw [breaksBefore_cons h, List.drop_succ_cons, ← ih n]
      by_cases hc : isBreak c = true
      · rw [brokenLines_cons_of_isBreak h hc, if_pos hc, Nat.add_comm 1, List.drop_succ_cons]
      · rw [brokenLines_cons_of_not_isBreak cs (by simpa using hc), if_neg hc, Nat.zero_add,
          List.drop_modifyHead_of_pos (Nat.succ_pos _)]

/-! ### Before the cut -/

/-- The texts of the lines, without their breaks. -/
def lineTexts (cs : List Char) : List (List Char) := (brokenLines cs).map dropBreak

theorem dropLastIf_cons {p : Char → Bool} {c : Char} (hc : p c = false) (cs : List Char) :
    dropLastIf p (c :: cs) = c :: dropLastIf p cs := by
  cases cs with
  | nil => simp [dropLastIf, hc]
  | cons d ds =>
    obtain ⟨e, he⟩ : ∃ e, (d :: ds).getLast? = some e :=
      ⟨_, List.getLast?_eq_some_getLast (List.cons_ne_nil d ds)⟩
    unfold dropLastIf
    rw [List.getLast?_cons_cons, he]
    by_cases hp : p e = true <;> simp [hp]

/-- What breaks no line stays where it is. -/
theorem dropBreak_cons {c : Char} (hc : isBreak c = false) (cs : List Char) :
    dropBreak (c :: cs) = c :: dropBreak cs := by
  have hne : (c == '\n') = false ∧ (c == '\r') = false := by
    simp only [isBreak, Bool.or_eq_false_iff] at hc
    exact hc.1.1.1.1.1
  simp only [dropBreak]
  rw [@dropLastIf_cons (· == '\n') c hne.1, @dropLastIf_cons (· == '\r') c hne.2,
    dropLastIf_cons (by rw [hc]; rfl)]

theorem dropBreak_singleton {c : Char} (hc : isBreak c = true) : dropBreak [c] = [] := by
  by_cases hn : c = '\n'
  · rw [hn]; rfl
  · by_cases hr : c = '\r'
    · rw [hr]; rfl
    · simp [dropBreak, dropLastIf, hn, hr, hc]

theorem lineTexts_crlf (cs : List Char) : lineTexts ('\r' :: '\n' :: cs) = [] :: lineTexts cs := by
  rw [lineTexts, brokenLines_crlf, List.map_cons]
  rfl

theorem lineTexts_cons_of_isBreak {c : Char} {cs : List Char} (h : ¬ Joined [c] cs)
    (hc : isBreak c = true) : lineTexts (c :: cs) = [] :: lineTexts cs := by
  rw [lineTexts, brokenLines_cons_of_isBreak h hc, List.map_cons, dropBreak_singleton hc]
  rfl

theorem lineTexts_cons_of_not_isBreak {c : Char} (cs : List Char) (hc : isBreak c = false) :
    lineTexts (c :: cs) = (lineTexts cs).modifyHead (c :: ·) := by
  rw [lineTexts, lineTexts, brokenLines_cons_of_not_isBreak cs hc]
  cases brokenLines cs with
  | nil => rfl
  | cons line lines => simp [dropBreak_cons hc]

/-- The breaks of a text are passed in order. -/
theorem breaksBefore_mono (cs : List Char) {m n : Nat} (h : m ≤ n) :
    breaksBefore cs m ≤ breaksBefore cs n := by
  induction cs using breakInduction generalizing m n with
  | nil => simp
  | crlf cs ih =>
    match m, n with
    | 0, _ => simp
    | 1, _ => simp [breaksBefore_crlf_one]
    | m + 2, n + 2 =>
      rw [breaksBefore_crlf, breaksBefore_crlf]
      have := ih (show m ≤ n by omega)
      omega
  | char c cs hcs ih =>
    match m, n with
    | 0, _ => simp
    | m + 1, n + 1 =>
      rw [breaksBefore_cons hcs, breaksBefore_cons hcs]
      have := ih (show m ≤ n by omega)
      omega

/-- The breaks of the front alone are those of the whole text before the cut, unless the cut goes
through a break. -/
theorem breaksBefore_append_of_not_joined {front back : List Char} (h : ¬ Joined front back) :
    breaksBefore (front ++ back) front.length = breaksBefore front front.length := by
  induction front using breakInduction with
  | nil => simp
  | crlf cs ih =>
    simp only [List.cons_append, List.length_cons]
    rw [breaksBefore_crlf, breaksBefore_crlf, ih fun hj => h hj.cons.cons]
  | char c cs hc ih =>
    -- a character that is joined to the back only would be the last of the front
    have hcut : ¬ Joined [c] (cs ++ back) := by
      intro hj
      obtain ⟨rfl, rfl, ds, rfl⟩ := joined_append hc hj
      exact h hj
    rw [List.cons_append, List.length_cons, breaksBefore_cons hcut, breaksBefore_cons hc,
      ih fun hj => h hj.cons]

/-- A cut through a break leaves a break in the front that is not yet one of the whole text. -/
theorem breaksBefore_append_le (front back : List Char) :
    breaksBefore (front ++ back) front.length ≤ breaksBefore front front.length := by
  induction front using breakInduction with
  | nil => simp
  | crlf cs ih =>
    simp only [List.cons_append, List.length_cons]
    rw [breaksBefore_crlf, breaksBefore_crlf]
    exact Nat.add_le_add_left ih 1
  | char c cs hc ih =>
    by_cases hcut : Joined [c] (cs ++ back)
    · -- the carriage return is a break in the front alone
      obtain ⟨rfl, rfl, ds, rfl⟩ := joined_append hc hcut
      exact Nat.zero_le _
    · rw [List.cons_append, List.length_cons, breaksBefore_cons hcut, breaksBefore_cons hc]
      exact Nat.add_le_add_left ih _

/-- One character behind the cut, all breaks of the front have been passed. -/
theorem breaksBefore_le_append (front : List Char) {back : List Char} (hback : back ≠ []) :
    breaksBefore front front.length ≤ breaksBefore (front ++ back) (front.length + 1) := by
  induction front using breakInduction with
  | nil => simp
  | crlf cs ih =>
    simp only [List.cons_append, List.length_cons]
    rw [breaksBefore_crlf, breaksBefore_crlf]
    exact Nat.add_le_add_left ih 1
  | char c cs hc ih =>
    by_cases hcut : Joined [c] (cs ++ back)
    · -- the character behind the cut is the line feed, with which the break ends
      obtain ⟨rfl, rfl, ds, rfl⟩ := joined_append hc hcut
      show breaksBefore ['\r'] (0 + 1) ≤ breaksBefore ('\r' :: '\n' :: ds) (0 + 2)
      rw [breaksBefore_cons hc, breaksBefore_crlf, breaksBefore_zero, breaksBefore_zero]
      exact Nat.le_refl 1
    · rw [List.cons_append, List.length_cons, breaksBefore_cons hcut, breaksBefore_cons hc]
      exact Nat.add_le_add_left ih _

/-- The texts of the lines that end in the front do not depend on the back, also where the break of
the last of them goes on in the back. -/
theorem take_lineTexts_append (front back : List Char) :
    (lineTexts (front ++ back)).take (breaksBefore front front.length) =
      (lineTexts front).take (breaksBefore front front.length) := by
  induction front using breakInduction with
  | nil => simp
  | crlf cs ih =>
    simp only [List.cons_append, List.length_cons]
    rw [breaksBefore_crlf, lineTexts_crlf, lineTexts_crlf, Nat.add_comm 1, List.take_succ_cons,
      List.take_succ_cons, ih]
  | char c cs hc ih =>
    by_cases hcut : Joined [c] (cs ++ back)
    · -- the line has no text, whether its break ends in the front or in the back
      obtain ⟨rfl, rfl, ds, rfl⟩ := joined_append hc hcut
      rw [List.cons_append, List.nil_append, lineTexts_crlf]
      rfl
    · rw [List.cons_append, List.length_cons, breaksBefore_cons hc]
      by_cases hb : isBreak c = true
      · rw [lineTexts_cons_of_isBreak hcut hb, lineTexts_cons_of_isBreak hc hb, if_pos hb,
          Nat.add_comm 1, List.take_succ_cons, List.take_succ_cons, ih]
      · have hb' : isBreak c = false := by simpa using hb
        rw [lineTexts_cons_of_not_isBreak _ hb', lineTexts_cons_of_not_isBreak _ hb', if_neg hb,
          Nat.zero_add, List.take_modifyHead, List.take_modifyHead, ih]

/-- Behind the line in which the cut lies, the texts of the lines are those behind the cut. -/
theorem drop_lineTexts (cs : List Char) (n : Nat) :
    (lineTexts cs).drop (breaksBefore cs n + 1) = (lineTexts (cs.drop n)).tail := by
  rw [lineTexts, lineTexts, ← List.map_drop, drop_brokenLines, List.map_tail]

end Highlight.Document
