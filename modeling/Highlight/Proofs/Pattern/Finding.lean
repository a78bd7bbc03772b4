import Highlight.Proofs.Pattern.Groups

/-!
# Searches of a line

A search finds the first match at or after a byte offset: whether there is a match at some character
does not depend on where the search begins (`Matcher.find?_eq_some_iff`).  So a search that has
found something ahead need not be made again as long as that is not passed, and one that has found
nothing need not be made again at all (`Matcher.find?_eq_of_le`, `Matcher.find?_eq_none_of_le`).
-/

namespace Highlight

/-! ### Characters and offsets -/

/-- Bisection stays in the part of the array that it is given. -/
theorem CharSet.countUpTo_le {points : Array Nat} {v n lo hi : Nat} (h : lo ≤ hi) :
    countUpTo points v n lo hi ≤ hi := by
  induction n generalizing lo hi with
  | zero => exact h
  | succ n ih =>
    rw [countUpTo]
    split
    · simp only
      split
      · exact ih (by omega)
      · exact (ih (by omega)).trans (by omega)
    · exact h

/-- Bisection passes over no entry that exceeds `v`. -/
theorem CharSet.getD_le_of_lt_countUpTo {points : Array Nat} {v n lo hi i : Nat}
    (hsorted : ∀ j k, j ≤ k → k < points.size → points.getD j 0 ≤ points.getD k 0)
    (hhi : hi ≤ points.size) (hlo : ∀ k < lo, points.getD k 0 ≤ v)
    (h : i < countUpTo points v n lo hi) : points.getD i 0 ≤ v := by
  induction n generalizing lo hi with
  | zero => exact hlo i h
  | succ n ih =>
    rw [countUpTo] at h
    by_cases hempty : lo < hi
    · rw [if_pos hempty] at h
      simp only at h
      by_cases hmid : points.getD ((lo + hi) / 2) 0 ≤ v
      · rw [if_pos hmid] at h
        refine ih hhi (fun k hk => ?_) h
        exact (hsorted k _ (by omega) (by omega)).trans hmid
      · rw [if_neg hmid] at h
        exact ih (by omega) hlo h
    · rw [if_neg hempty] at h
      exact hlo i h

namespace Line

theorem length_offsetsFrom (start : Nat) (cs : List Char) :
    (offsetsFrom start cs).length = cs.length := by
  induction cs generalizing start with
  | nil => rfl
  | cons c cs ih => rw [offsetsFrom, List.length_cons, List.length_cons, ih]

theorem size_offsets_ofString (text : String) :
    (ofString text).offsets.size = (ofString text).chars.size := by
  show (offsetsFrom 0 text.toList).toArray.size = text.toList.toArray.size
  rw [List.size_toArray, List.size_toArray, length_offsetsFrom]

/-- Behind the last character there is the end of the line. -/
theorem offset_chars_size (text : String) :
    (ofString text).offset (ofString text).chars.size = (ofString text).size := by
  rw [offset, ← size_offsets_ofString, Array.getD_eq_getD_getElem?,
    Array.getElem?_eq_none (Nat.le_refl _)]
  rfl

/-- The characters from the first one at or after a byte offset are those at or after it. -/
theorem index_le_iff {text : String} {pos i : Nat} (hpos : pos ≤ (ofString text).size) :
    (ofString text).index pos ≤ i ↔ pos ≤ (ofString text).offset i := by
  constructor
  · intro h
    exact (le_offset_index _ hpos).trans (offset_ofString_mono text h)
  · intro h
    refine Nat.le_of_not_lt fun hlt => ?_
    -- a character that has been passed over begins before the offset
    cases pos with
    | zero => exact absurd hlt (Nat.not_lt_zero i)
    | succ b =>
      rw [index] at hlt
      have hoffset (j : Nat) (hj : j < (ofString text).offsets.size) :
          (ofString text).offset j = (ofString text).offsets.getD j 0 := by
        simp only [offset, Array.getD_eq_getD_getElem?, Array.getElem?_eq_getElem hj,
          Option.getD_some]
      have hsorted (j k : Nat) (hjk : j ≤ k) (hk : k < (ofString text).offsets.size) :
          (ofString text).offsets.getD j 0 ≤ (ofString text).offsets.getD k 0 := by
        rw [← hoffset j (Nat.lt_of_le_of_lt hjk hk), ← hoffset k hk]
        exact offset_ofString_mono text hjk
      have hle := CharSet.getD_le_of_lt_countUpTo hsorted (Nat.le_refl _)
        (fun k hk => absurd hk (Nat.not_lt_zero k)) hlt
      rw [hoffset i (Nat.lt_of_lt_of_le hlt (CharSet.countUpTo_le (Nat.zero_le _)))] at h
      exact absurd (h.trans hle) (Nat.not_succ_le_self b)

end Line

/-! ### Searches -/

namespace Matcher

variable {m : Matcher} {line : Line} {found : Match}

theorem findFrom?_eq_none_iff {n i : Nat} :
    m.findFrom? line n i = none ↔ ∀ j, i ≤ j → j < i + n → m.matchAt? line j = none := by
  induction n generalizing i with
  | zero =>
    refine iff_of_true rfl fun j hij hji => ?_
    omega
  | succ n ih =>
    rw [findFrom?]
    cases hat : m.matchAt? line i with
    | some other =>
      refine iff_of_false (by simp) fun h => ?_
      exact absurd (hat.symm.trans (h i (Nat.le_refl i) (by omega))) (by simp)
    | none =>
      refine ih.trans ⟨fun h j hij hji => ?_, fun h j hij hji => h j (by omega) (by omega)⟩
      rcases Nat.eq_or_lt_of_le hij with rfl | hlt
      · exact hat
      · exact h j hlt (by omega)

theorem findFrom?_eq_some_iff {n i : Nat} :
    m.findFrom? line n i = some found ↔ ∃ j, i ≤ j ∧ j < i + n ∧
      m.matchAt? line j = some found ∧ ∀ k, i ≤ k → k < j → m.matchAt? line k = none := by
  induction n generalizing i with
  | zero =>
    refine iff_of_false (by simp [findFrom?]) ?_
    rintro ⟨j, hij, hji, -⟩
    omega
  | succ n ih =>
    rw [findFrom?]
    cases hat : m.matchAt? line i with
    | some other =>
      constructor
      · rintro h
        refine ⟨i, Nat.le_refl i, by omega, hat.trans h, fun k hik hki => ?_⟩
        omega
      · rintro ⟨j, hij, -, hj, hnone⟩
        rcases Nat.eq_or_lt_of_le hij with rfl | hlt
        · exact hat.symm.trans hj
        · exact absurd (hat.symm.trans (hnone i (Nat.le_refl i) hlt)) (by simp)
    | none =>
      refine ih.trans ⟨?_, ?_⟩
      · rintro ⟨j, hij, hji, hj, hnone⟩
        refine ⟨j, by omega, by omega, hj, fun k hik hki => ?_⟩
        rcases Nat.eq_or_lt_of_le hik with rfl | hlt
        · exact hat
        · exact hnone k hlt hki
      · rintro ⟨j, hij, hji, hj, hnone⟩
        have hne : i ≠ j := by
          rintro rfl
          exact absurd (hat.symm.trans hj) (by simp)
        exact ⟨j, by omega, by omega, hj, fun k hik hki => hnone k (by omega) hki⟩

section Line

variable {text : String} {pos pos' : Nat}

/-- **A search finds the first match that begins at or after a byte offset.** -/
theorem find?_eq_some_iff : m.find? (Line.ofString text) pos = some found ↔
    ∃ j ≤ (Line.ofString text).chars.size, pos ≤ (Line.ofString text).offset j ∧
      m.matchAt? (Line.ofString text) j = some found ∧
        ∀ k < j, pos ≤ (Line.ofString text).offset k →
          m.matchAt? (Line.ofString text) k = none := by
  rw [find?]
  split
  · rename_i hpos
    rw [findFrom?_eq_some_iff]
    have hend : (Line.ofString text).index pos ≤ (Line.ofString text).chars.size :=
      (Line.index_le_iff hpos).2 (hpos.trans_eq (Line.offset_chars_size text).symm)
    constructor
    · rintro ⟨j, hij, hji, hj, hnone⟩
      exact ⟨j, by omega, (Line.index_le_iff hpos).1 hij, hj,
        fun k hkj hk => hnone k ((Line.index_le_iff hpos).2 hk) hkj⟩
    · rintro ⟨j, hji, hij, hj, hnone⟩
      exact ⟨j, (Line.index_le_iff hpos).2 hij, by omega, hj,
        fun k hk hkj => hnone k hkj ((Line.index_le_iff hpos).1 hk)⟩
  · rename_i hpos
    refine iff_of_false (by simp) ?_
    rintro ⟨j, -, hij, -⟩
    exact hpos (hij.trans (Line.offset_ofString_le text j))

theorem find?_eq_none_iff : m.find? (Line.ofString text) pos = none ↔
    ∀ j ≤ (Line.ofString text).chars.size, pos ≤ (Line.ofString text).offset j →
      m.matchAt? (Line.ofString text) j = none := by
  rw [find?]
  split
  · rename_i hpos
    rw [findFrom?_eq_none_iff]
    have hend : (Line.ofString text).index pos ≤ (Line.ofString text).chars.size :=
      (Line.index_le_iff hpos).2 (hpos.trans_eq (Line.offset_chars_size text).symm)
    constructor
    · exact fun h j hj hij => h j ((Line.index_le_iff hpos).2 hij) (by omega)
    · exact fun h j hij hj => h j (by omega) ((Line.index_le_iff hpos).1 hij)
  · rename_i hpos
    refine iff_of_true rfl fun j _ hij => ?_
    exact absurd (hij.trans (Line.offset_ofString_le text j)) hpos

/-- Where nothing is found, nothing is found from further on. -/
theorem find?_eq_none_of_le (h : m.find? (Line.ofString text) pos = none) (hle : pos ≤ pos') :
    m.find? (Line.ofString text) pos' = none :=
  find?_eq_none_iff.2 fun j hj hij => find?_eq_none_iff.1 h j hj (hle.trans hij)

/-! ### Where matches begin -/

/-- It is known where a match begins if there is one. -/
theorem Anchored.findStart?_eq_none_iff (hm : m.Anchored) :
    m.findStart? (Line.ofString text) pos = none ↔ m.find? (Line.ofString text) pos = none := by
  rw [findStart?]
  cases hfind : m.find? (Line.ofString text) pos with
  | none => exact iff_of_true rfl rfl
  | some found =>
    obtain ⟨j, -, -, hj, -⟩ := find?_eq_some_iff.1 hfind
    obtain ⟨stop, -, hwhole⟩ := hm _ _ _ hj
    exact iff_of_false (by simp [hwhole]) (by simp)

/-- As long as the beginning of a match is not passed, it is what is found. -/
theorem Anchored.find?_eq_of_le (hm : m.Anchored) {start : Nat}
    (h : m.findStart? (Line.ofString text) pos = some start) (hle : pos ≤ pos')
    (hstart : pos' ≤ start) :
    m.find? (Line.ofString text) pos' = m.find? (Line.ofString text) pos := by
  obtain ⟨found, hfound, hspan⟩ := Option.bind_eq_some_iff.1 h
  obtain ⟨j, hj, hij, hat, hnone⟩ := find?_eq_some_iff.1 hfound
  obtain ⟨stop, -, hwhole⟩ := hm _ _ _ hat
  rw [hwhole] at hspan
  obtain rfl : (Line.ofString text).offset j = start := Option.some.inj hspan
  rw [hfound]
  exact find?_eq_some_iff.2 ⟨j, hj, hstart, hat, fun k hkj hk => hnone k hkj (hle.trans hk)⟩

theorem Anchored.findStart?_eq_of_le (hm : m.Anchored) {start : Nat}
    (h : m.findStart? (Line.ofString text) pos = some start) (hle : pos ≤ pos')
    (hstart : pos' ≤ start) : m.findStart? (Line.ofString text) pos' = some start := by
  rw [findStart?, hm.find?_eq_of_le h hle hstart]
  exact h

end Line

end Matcher

end Highlight
