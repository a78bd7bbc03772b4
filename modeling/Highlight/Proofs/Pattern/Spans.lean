import Highlight.Pattern.Matcher
import Mathlib.Data.String.Basic

/-!
# Where matches lie

Every group of a match that a search of a line finds lies inside the line
(`Matcher.inside_of_find?`): a search gives positions as numbers of characters, and the character of
every number begins within the line or is its end (`Line.offset_ofString_le`).
-/

namespace Highlight

/-! ### Offsets -/

namespace Line

theorem le_of_mem_offsetsFrom {start x : Nat} {cs : List Char} (h : x ∈ offsetsFrom start cs) :
    x ≤ start + String.utf8Len cs := by
  induction cs generalizing start with
  | nil => simp [offsetsFrom] at h
  | cons c cs ih =>
    rw [offsetsFrom, List.mem_cons] at h
    rw [String.utf8Len_cons]
    rcases h with rfl | h
    · omega
    · have := ih h
      omega

/-- Characters begin within the line. -/
theorem offset_ofString_le (text : String) (i : Nat) :
    (ofString text).offset i ≤ (ofString text).size := by
  rw [offset, Array.getD_eq_getD_getElem?]
  cases hx : (ofString text).offsets[i]? with
  | none => exact Nat.le_refl _
  | some x =>
    have hmem : x ∈ offsetsFrom 0 text.toList := by
      rw [ofString, List.getElem?_toArray] at hx
      exact List.mem_of_getElem? hx
    have hle := le_of_mem_offsetsFrom hmem
    rw [Nat.zero_add, ← String.utf8ByteSize_ofList, String.ofList_toList] at hle
    exact hle

end Line

/-! ### Matches -/

/-- Every group of a match lies inside a line. -/
def Match.Inside (found : Match) (line : Line) : Prop :=
  ∀ n span, found.group? n = some span → span.start ≤ line.size ∧ span.stop ≤ line.size

namespace Matcher

/-- The spans that a run of a program leaves in its slots lie inside the line. -/
theorem inside_spans {line : Line} (hline : ∀ i, line.offset i ≤ line.size)
    (slots : Array (Option Nat)) : (Match.mk (spans line slots)).Inside line := by
  intro n span h
  have hspan : (spans line slots)[n]? = some (some span) := Option.join_eq_some_iff.1 h
  rw [spans, Array.getElem?_ofFn] at hspan
  -- a group has a span only if both of its slots are set
  split at hspan
  · rw [Option.some.injEq] at hspan
    split at hspan
    · split at hspan
      · rw [Option.some.injEq] at hspan
        rw [← hspan]
        exact ⟨hline _, hline _⟩
      · exact absurd hspan (by simp)
    · exact absurd hspan (by simp)
  · exact absurd hspan (by simp)

theorem inside_of_findFrom? {m : Matcher} {line : Line} (hline : ∀ i, line.offset i ≤ line.size)
    {found : Match} {n i : Nat} (h : m.findFrom? line n i = some found) : found.Inside line := by
  induction n generalizing i with
  | zero => simp [findFrom?] at h
  | succ n ih =>
    rw [findFrom?] at h
    cases hat : m.matchAt? line i with
    | none =>
      rw [hat] at h
      exact ih h
    | some other =>
      rw [hat] at h
      obtain rfl : other = found := by simpa using h
      rw [matchAt?] at hat
      split at hat
      · obtain ⟨slots, -, rfl⟩ := Option.map_eq_some_iff.1 hat
        exact inside_spans hline slots
      · exact absurd hat (by simp)

/-- A match that is found in a line lies inside the line. -/
theorem inside_of_find? {m : Matcher} {line : Line} (hline : ∀ i, line.offset i ≤ line.size)
    {found : Match} {offset : Nat} (h : m.find? line offset = some found) :
    found.Inside line := by
  rw [find?] at h
  split at h
  · exact inside_of_findFrom? hline h
  · exact absurd h (by simp)

end Matcher

end Highlight
