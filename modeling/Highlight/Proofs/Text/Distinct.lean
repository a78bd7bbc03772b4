import Highlight.Text.Blank
import Mathlib.Data.List.Induction

/-!
# Every element once

Elements that are appended to a list only where they are new stand in it once each, in the order in
which they are first met (`foldl_appendNew_nil`).
-/

namespace Highlight.Text

variable {α : Type} [BEq α] [LawfulBEq α] {x y : α} {xs ys : List α}

theorem mem_appendNew_iff : y ∈ appendNew xs x ↔ y ∈ xs ∨ y = x := by
  unfold appendNew
  split
  · rename_i hmem
    rw [List.contains_iff_mem] at hmem
    exact ⟨.inl, fun h => h.elim id fun h => h ▸ hmem⟩
  · simp

theorem mem_foldl_appendNew : x ∈ xs.foldl appendNew ys ↔ x ∈ ys ∨ x ∈ xs := by
  induction xs generalizing ys with
  | nil => simp
  | cons y xs ih => rw [List.foldl_cons, ih, mem_appendNew_iff, List.mem_cons, or_assoc]

theorem appendNew_of_mem (h : x ∈ xs) : appendNew xs x = xs := by
  rw [appendNew, if_pos (List.contains_iff_mem.2 h)]

theorem appendNew_of_not_mem (h : x ∉ xs) : appendNew xs x = xs ++ [x] := by
  rw [appendNew, if_neg (mt List.contains_iff_mem.1 h)]

theorem nodup_appendNew (h : xs.Nodup) (x : α) : (appendNew xs x).Nodup := by
  unfold appendNew
  split
  · exact h
  · rename_i hmem
    rw [List.contains_iff_mem] at hmem
    refine List.nodup_append.2 ⟨h, List.pairwise_singleton _ x, fun y hy z hz heq => hmem ?_⟩
    rwa [← List.mem_singleton.1 hz, ← heq]

theorem nodup_foldl_appendNew (h : ys.Nodup) (xs : List α) : (xs.foldl appendNew ys).Nodup := by
  induction xs generalizing ys with
  | nil => exact h
  | cons x xs ih => exact ih (nodup_appendNew h x)

/-- What is in the list already adds nothing. -/
theorem foldl_appendNew_of_subset (h : xs ⊆ ys) : xs.foldl appendNew ys = ys := by
  induction xs with
  | nil => rfl
  | cons x xs ih =>
    obtain ⟨hx, hxs⟩ := List.cons_subset.1 h
    rw [List.foldl_cons, appendNew_of_mem hx, ih hxs]

/-- Appending what is new leaves of every element its first occurrence. -/
theorem foldl_appendNew_nil (xs : List α) : xs.foldl appendNew [] = xs.eraseDups := by
  induction xs using List.reverseRecOn with
  | nil => rfl
  | append_singleton xs x ih =>
    rw [List.foldl_append, List.foldl_cons, List.foldl_nil, ih, List.eraseDups_append]
    by_cases hx : x ∈ xs
    · have hremoved : [x].removeAll xs = [] := by simp [List.removeAll, hx]
      rw [appendNew_of_mem (List.mem_eraseDups.2 hx), hremoved, List.eraseDups_nil,
        List.append_nil]
    · have hkept : [x].removeAll xs = [x] := by simp [List.removeAll, hx]
      rw [hkept, appendNew_of_not_mem (mt List.mem_eraseDups.1 hx)]
      rfl

end Highlight.Text
