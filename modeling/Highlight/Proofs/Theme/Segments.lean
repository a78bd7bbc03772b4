import Highlight.Theme.Theme
import Highlight.Proofs.Text.Pieces
import Mathlib.Order.Defs.Unbundled

/-!
# Scopes by their segments

A selector matches a scope just where its segments are the first segments of the scope
(`Scope.matches_iff_isPrefix`), whatever dots either of them begins or ends with or has next to each
other.  So matching is a partial order of all scopes, and what matches one and the same scope is
ordered by the number of segments (`Scope.matches_segments`), by which a theme prefers one selector
to another.
-/

namespace Highlight.Scope

/-- The text of a scope tells where it stands: it is the selector or goes on after it with a dot. -/
theorem matches_iff_text {s t : Scope} :
    Scope.matches s t = true ↔ s.toList = t.toList ∨ s.toList ++ ['.'] <+: t.toList := by
  unfold Scope.matches
  cases hdrop : Text.dropFront? s.toList t.toList with
  | none =>
    have hfront (rest : List Char) : t.toList ≠ s.toList ++ rest := fun h =>
      absurd (hdrop.symm.trans (Text.dropFront?_eq_some_iff.2 h)) (by simp)
    constructor
    · intro h
      cases h
    · rintro (heq | ⟨rest, hrest⟩)
      · exact absurd (by rw [heq, List.append_nil]) (hfront [])
      · exact absurd (by rw [← hrest, List.append_assoc]) (hfront (['.'] ++ rest))
  | some rest =>
    rw [Text.dropFront?_eq_some_iff.1 hdrop, List.prefix_append_right_inj,
      List.self_eq_append_right]
    cases rest with
    | nil => simp
    | cons c rest =>
      show (c == '.') = true ↔ c :: rest = [] ∨ ['.'] <+: c :: rest
      rw [beq_iff_eq, List.cons_prefix_cons]
      constructor
      · rintro rfl
        exact .inr ⟨rfl, List.nil_prefix⟩
      · rintro (hnil | ⟨hdot, -⟩)
        · cases hnil
        · exact hdot.symm

theorem segments_eq_splitOn (s : Scope) :
    s.segments = (s.toList.splitOn '.').map String.ofList := Text.splitAt_eq_splitOn '.' s

theorem segments_injective {s t : Scope} (h : s.segments = t.segments) : s = t := by
  rw [segments_eq_splitOn, segments_eq_splitOn] at h
  have hpieces : s.toList.splitOn '.' = t.toList.splitOn '.' :=
    List.map_injective_iff.2 (fun _ _ => String.ofList_inj.1) h
  have htext : ['.'].intercalate (s.toList.splitOn '.') =
      ['.'].intercalate (t.toList.splitOn '.') := congrArg _ hpieces
  rw [List.intercalate_splitOn, List.intercalate_splitOn] at htext
  exact String.toList_inj.1 htext

/-- **A selector matches the scopes of which its segments are the first ones.** -/
theorem matches_iff_isPrefix {s t : Scope} :
    Scope.matches s t = true ↔ s.segments <+: t.segments := by
  have hinjective : Function.Injective String.ofList := fun _ _ => String.ofList_inj.1
  rw [matches_iff_text, segments_eq_splitOn, segments_eq_splitOn,
    List.prefix_map_iff_of_injective hinjective, Text.splitOn_isPrefix_iff]

/-! ### The order of scopes -/

variable {s t scope : Scope}

theorem isPartialOrder_matches :
    IsPartialOrder Scope fun s t => Scope.matches s t = true where
  refl s := matches_iff_isPrefix.2 (List.prefix_refl _)
  trans s t u hst htu :=
    matches_iff_isPrefix.2 ((matches_iff_isPrefix.1 hst).trans (matches_iff_isPrefix.1 htu))
  antisymm s t hst hts := by
    have hst' := matches_iff_isPrefix.1 hst
    have hts' := matches_iff_isPrefix.1 hts
    exact segments_injective (hst'.eq_of_length (Nat.le_antisymm hst'.length_le hts'.length_le))

/-- Of two selectors that match one scope, the one with no more segments matches the other. -/
theorem matches_iff_length_le (hs : Scope.matches s scope = true)
    (ht : Scope.matches t scope = true) :
    Scope.matches s t = true ↔ s.segments.length ≤ t.segments.length := by
  rw [matches_iff_isPrefix] at hs ht ⊢
  exact ⟨List.IsPrefix.length_le, List.prefix_of_prefix_length_le hs ht⟩

theorem eq_iff_length_eq (hs : Scope.matches s scope = true) (ht : Scope.matches t scope = true) :
    s = t ↔ s.segments.length = t.segments.length := by
  constructor
  · intro h
    rw [h]
  · intro h
    have hst := (matches_iff_length_le hs ht).2 (Nat.le_of_eq h)
    have hts := (matches_iff_length_le ht hs).2 (Nat.le_of_eq h.symm)
    exact isPartialOrder_matches.antisymm s t hst hts

/-- **Matching is the order of scopes by their first segments.**  Any two selectors whose targets
match one scope are comparable: the target with fewer segments matches the other one and differs
from it, and targets with as many segments as each other are equal. -/
theorem matches_segments :
    (∀ s t : Scope, Scope.matches s t = true ↔ s.segments <+: t.segments) ∧
    (IsPartialOrder Scope fun s t => Scope.matches s t = true) ∧
    ∀ (s t : Selector) (scope : Scope), Scope.matches s.target scope = true →
      Scope.matches t.target scope = true →
        (Scope.matches s.target t.target = true ∨ Scope.matches t.target s.target = true) ∧
        (s.segments < t.segments ↔ Scope.matches s.target t.target = true ∧ s.target ≠ t.target) ∧
        (s.segments = t.segments ↔ s.target = t.target) := by
  refine ⟨fun s t => matches_iff_isPrefix, isPartialOrder_matches, ?_⟩
  intro s t scope hs ht
  have hle := matches_iff_length_le hs ht
  have hge := matches_iff_length_le ht hs
  have heq := eq_iff_length_eq hs ht
  unfold Selector.segments
  -- both targets are first segments of one list, so their lengths tell everything
  refine ⟨?_, ?_, heq.symm⟩
  · rw [hle, hge]
    exact Nat.le_total _ _
  · rw [hle, Ne, heq]
    omega

/-- Dots at the front, at the end and next to each other make segments of their own, which are
empty. -/
theorem matches_segments_dots :
    let outer : Selector := ⟨".string", [], 0, {}⟩
    let inner : Selector := ⟨".string..quoted", [], 0, {}⟩
    Scope.matches outer.target ".string..quoted." = true ∧
      Scope.matches inner.target ".string..quoted." = true ∧ outer.segments < inner.segments ∧
      Scope.matches outer.target inner.target = true ∧ outer.target ≠ inner.target := by
  intro outer inner
  have houter : Scope.matches outer.target ".string..quoted." = true := by decide
  have hinner : Scope.matches inner.target ".string..quoted." = true := by decide
  have hless : outer.segments < inner.segments := by decide
  obtain ⟨-, -, hordered⟩ := matches_segments
  exact ⟨houter, hinner, hless, (hordered outer inner _ houter hinner).2.1.1 hless⟩

end Highlight.Scope
