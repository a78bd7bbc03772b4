import Highlight.Text.Blank
import Mathlib.Data.List.Basic

/-!
# Pieces of a text

The pieces of a text between the occurrences of a separator are those of `List.splitOn`
(`pieces_eq_splitOnP`), so putting separators between them gives the text back.  Hence the pieces of
one text are the first pieces of another just where the one text is the other, or goes up to one of
its separators (`splitOn_isPrefix_iff`).
-/

namespace Highlight.Text

variable {α : Type}

theorem pieces_eq_splitOnP (p : α → Bool) (xs : List α) : pieces p xs = xs.splitOnP p := by
  induction xs with
  | nil => rw [pieces, List.splitOnP_nil]
  | cons x xs ih =>
    rw [pieces, List.splitOnP_cons_eq_if_modifyHead, ih]
    split
    · rfl
    · cases hsplit : xs.splitOnP p with
      | nil => exact absurd hsplit (List.splitOnP_ne_nil p xs)
      | cons first rest => rfl

theorem splitAt_eq_splitOn (separator : Char) (s : String) :
    splitAt separator s = (s.toList.splitOn separator).map String.ofList := by
  rw [splitAt, pieces_eq_splitOnP, List.splitOn_eq_splitOnP]

theorem intercalate_append {separator : List α} {xss yss : List (List α)} (hxss : xss ≠ [])
    (hyss : yss ≠ []) : separator.intercalate (xss ++ yss) =
      separator.intercalate xss ++ separator ++ separator.intercalate yss := by
  induction xss with
  | nil => exact absurd rfl hxss
  | cons xs xss ih =>
    by_cases hrest : xss = []
    · rw [hrest, List.singleton_append, List.intercalate_singleton,
        List.intercalate_cons_of_ne_nil hyss]
    · have hmore : xss ++ yss ≠ [] := by simp [hrest]
      rw [List.cons_append, List.intercalate_cons_of_ne_nil hmore,
        List.intercalate_cons_of_ne_nil hrest, ih hrest]
      simp only [List.append_assoc]

/-- No piece holds what the text is taken apart at. -/
theorem eq_false_of_mem_splitOnP {p : α → Bool} {xs piece : List α} (h : piece ∈ xs.splitOnP p) :
    ∀ x ∈ piece, p x = false := by
  induction xs generalizing piece with
  | nil =>
    rw [List.splitOnP_nil, List.mem_singleton] at h
    rw [h]
    exact List.forall_mem_nil _
  | cons x xs ih =>
    rw [List.splitOnP_cons_eq_if_modifyHead] at h
    split at h
    · obtain rfl | h := List.mem_cons.1 h
      · exact List.forall_mem_nil _
      · exact ih h
    · rename_i hx
      obtain ⟨first, rest, hsplit⟩ := List.exists_cons_of_ne_nil (List.splitOnP_ne_nil p xs)
      rw [hsplit] at h ih
      obtain rfl | h := List.mem_cons.1 h
      · exact List.forall_mem_cons.2 ⟨by simpa using hx, ih List.mem_cons_self⟩
      · exact ih (List.mem_cons_of_mem _ h)

theorem not_mem_of_mem_splitAt {separator : Char} {s piece : String}
    (h : piece ∈ splitAt separator s) : separator ∉ piece.toList := by
  rw [splitAt, pieces_eq_splitOnP, List.mem_map] at h
  obtain ⟨cs, hcs, rfl⟩ := h
  rw [String.toList_ofList]
  intro hmem
  exact absurd (eq_false_of_mem_splitOnP hcs separator hmem) (by simp)

/-- A text without the separator is the only piece of itself. -/
theorem splitAt_of_not_mem {separator : Char} {s : String} (h : separator ∉ s.toList) :
    splitAt separator s = [s] := by
  have hall : ∀ c ∈ s.toList, (c == separator) = false := fun c hc =>
    beq_false_of_ne fun heq => h (heq ▸ hc)
  rw [splitAt, pieces_eq_splitOnP, List.splitOnP_eq_singleton hall, List.map_singleton,
    String.ofList_toList]

variable [BEq α] [LawfulBEq α]

/-- The pieces of a text are the first pieces of another where the texts are equal, or where the one
is followed by a separator in the other. -/
theorem splitOn_isPrefix_iff {separator : α} {xs ys : List α} :
    xs.splitOn separator <+: ys.splitOn separator ↔ xs = ys ∨ xs ++ [separator] <+: ys := by
  constructor
  · rintro ⟨more, hmore⟩
    have hys : [separator].intercalate (xs.splitOn separator ++ more) = ys := by
      rw [hmore, List.intercalate_splitOn]
    by_cases hnil : more = []
    · rw [hnil, List.append_nil, List.intercalate_splitOn] at hys
      exact .inl hys
    · rw [intercalate_append (List.splitOn_ne_nil _ _) hnil, List.intercalate_splitOn] at hys
      exact .inr ⟨_, hys⟩
  · rintro (rfl | ⟨rest, rfl⟩)
    · exact List.prefix_refl _
    · refine ⟨rest.splitOn separator, ?_⟩
      rw [List.append_assoc, List.singleton_append]
      simp only [List.splitOn_eq_splitOnP]
      exact (List.splitOnP_append_cons (p := (· == separator)) xs rest (beq_self_eq_true _)).symm

theorem dropFront?_eq_some_iff {front xs rest : List α} :
    dropFront? front xs = some rest ↔ xs = front ++ rest := by
  induction front generalizing xs with
  | nil => rw [dropFront?, Option.some.injEq, List.nil_append]
  | cons x front ih =>
    cases xs with
    | nil => simp [dropFront?]
    | cons y xs =>
      rw [dropFront?, List.cons_append, List.cons.injEq]
      by_cases hxy : x = y
      · rw [if_pos (beq_iff_eq.2 hxy), ih]
        simp [hxy]
      · rw [if_neg fun h => hxy (beq_iff_eq.1 h)]
        simp [Ne.symm hxy]

end Highlight.Text
