import Highlight.Theme.Theme
import Mathlib.Data.Int.Order.Basic
import Mathlib.Data.List.Forall2
import Mathlib.Data.List.NodupEquivFin
import Mathlib.Data.List.TakeWhile
import Mathlib.Data.Prod.Lex

/-!
# Selectors

What the search for parents finds: it takes the innermost scope that matches, for one parent after
the other, and so it succeeds whenever some scopes match the parents in their order
(`Selector.parentsMatch_iff`), that is, whenever there are places for them in the path
(`Selector.parentsMatch_take_iff`).  Of the selectors that match one scope the preferred one is the
greatest in a linear order (`Selector.rank`): first the number of segments of the target, then the
number of parents, then the place of the rule (`Theme.prefer_eq_or`, `Theme.le_prefer`).
-/

namespace Highlight

/-! ### Parents -/

namespace Selector

/-- Some of the scopes match the parents one by one, in their order. -/
def Nested (parents : List Scope) (outside : ScopePath) : Prop :=
  ∃ chosen : List Scope, chosen.Sublist outside ∧
    List.Forall₂ (fun parent scope => Scope.matches parent scope) parents chosen

/-- What follows an element with a property follows the first element with it. -/
theorem sublist_of_dropWhile {α : Type} {p : α → Bool} {x y : α} {xs ys rest : List α}
    (hsub : (y :: ys).Sublist xs) (hy : p y)
    (h : (xs.dropWhile fun a => !p a) = x :: rest) : ys.Sublist rest := by
  induction xs with
  | nil => exact absurd h (by simp)
  | cons a xs ih =>
    cases ha : p a with
    | true =>
      rw [List.dropWhile_cons_of_neg (by simp [ha])] at h
      obtain ⟨rfl, rfl⟩ := List.cons.inj h
      exact hsub.of_cons_cons
    | false =>
      rw [List.dropWhile_cons_of_pos (by simp [ha])] at h
      cases hsub with
      | cons _ hsub => exact ih hsub h
      | cons_cons _ _ => exact absurd hy (by simp [ha])

/-- The innermost scope that matches a parent leaves the most scopes for the other parents. -/
theorem parentsMatchInside_iff (parents outside : List Scope) :
    parentsMatchInside parents outside ↔ Nested parents outside := by
  induction parents generalizing outside with
  | nil => exact ⟨fun _ => ⟨[], List.nil_sublist _, .nil⟩, fun _ => rfl⟩
  | cons parent parents ih =>
    rw [parentsMatchInside]
    constructor
    · intro h
      split at h
      · exact absurd h (by simp)
      · rename_i scope rest hdrop
        obtain ⟨chosen, hsub, hmatches⟩ := (ih rest).1 h
        have hfirst : (scope :: rest).Sublist outside := hdrop ▸ List.dropWhile_sublist _
        have hscope : Scope.matches parent scope := by
          have hnot := List.head_dropWhile_not (fun scope => !Scope.matches parent scope)
            (l := outside) (by rw [hdrop]; exact List.cons_ne_nil _ _)
          simpa [hdrop] using hnot
        exact ⟨scope :: chosen, (hsub.cons_cons scope).trans hfirst, .cons hscope hmatches⟩
    · rintro ⟨_, hsub, hmatches⟩
      cases hmatches with
      | @cons _ scope _ chosen hscope hmatches =>
        split
        · rename_i hdrop
          have hmem : scope ∈ outside := hsub.subset List.mem_cons_self
          have hnone := List.dropWhile_eq_nil_iff.1 hdrop scope hmem
          exact absurd hscope (by simpa using hnone)
        · rename_i first rest hdrop
          exact (ih rest).2 ⟨chosen, sublist_of_dropWhile hsub hscope hdrop, hmatches⟩

/-- **The search for parents is complete**, though it never goes back. -/
theorem parentsMatch_iff (parents : List Scope) (outside : ScopePath) :
    parentsMatch parents outside ↔ Nested parents outside := by
  rw [parentsMatch, parentsMatchInside_iff]
  constructor
  · rintro ⟨chosen, hsub, hmatches⟩
    refine ⟨chosen.reverse, ?_, ?_⟩
    · exact List.reverse_sublist.1 (by rwa [List.reverse_reverse])
    · exact List.forall₂_reverse_iff.1 (by rwa [List.reverse_reverse])
  · rintro ⟨chosen, hsub, hmatches⟩
    exact ⟨chosen.reverse, hsub.reverse, List.forall₂_reverse_iff.2 hmatches⟩

/-- Scopes that match the parents in their order stand at places of the path, each further inside
than the one before it. -/
theorem nested_take_iff {parents : List Scope} {scopes : ScopePath} {depth : Nat} :
    Nested parents (scopes.take depth) ↔
      ∃ place : Fin parents.length → Nat, StrictMono place ∧ ∀ j, place j < depth ∧
        ∃ scope, scopes[place j]? = some scope ∧ Scope.matches (parents.get j) scope = true := by
  constructor
  · rintro ⟨chosen, hsub, hmatches⟩
    obtain ⟨f, hf⟩ := List.sublist_iff_exists_fin_orderEmbedding_get_eq.1 hsub
    obtain ⟨hlength, hget⟩ := List.forall₂_iff_get.1 hmatches
    refine ⟨fun j => f (j.cast hlength), fun i j hij => ?_, fun j => ⟨?_, ?_⟩⟩
    · exact f.strictMono (show i.cast hlength < j.cast hlength from hij)
    · exact (f (j.cast hlength)).isLt.trans_le (List.length_take_le _ _)
    · have hlt := (f (j.cast hlength)).isLt.trans_le (List.length_take_le' _ _)
      have hscope : chosen.get (j.cast hlength) = scopes[(f (j.cast hlength)).val] :=
        (hf (j.cast hlength)).trans List.getElem_take
      refine ⟨chosen.get (j.cast hlength), ?_, hget j j.isLt _⟩
      rw [hscope]
      exact List.getElem?_eq_getElem hlt
  · rintro ⟨place, hmono, hplace⟩
    choose hdepth scope hscope hmatches using hplace
    have hlt (j : Fin parents.length) : place j < (scopes.take depth).length := by
      rw [List.length_take]
      exact Nat.lt_min.2 ⟨hdepth j, (List.getElem?_eq_some_iff.1 (hscope j)).1⟩
    refine ⟨List.ofFn scope, ?_, ?_⟩
    · have hstrict : StrictMono fun j : Fin (List.ofFn scope).length =>
          (⟨place (j.cast List.length_ofFn), hlt _⟩ : Fin (scopes.take depth).length) :=
        fun i j hij => hmono (show i.cast List.length_ofFn < j.cast List.length_ofFn from hij)
      refine List.sublist_iff_exists_fin_orderEmbedding_get_eq.2
        ⟨OrderEmbedding.ofStrictMono _ hstrict, fun j => ?_⟩
      obtain ⟨hj, hget⟩ := List.getElem?_eq_some_iff.1 (hscope (j.cast List.length_ofFn))
      rw [List.get_ofFn, ← hget]
      exact List.getElem_take.symm
    · refine List.forall₂_iff_get.2 ⟨List.length_ofFn.symm, fun i hi hi' => ?_⟩
      rw [List.get_ofFn]
      exact hmatches ⟨i, hi⟩

/-- **Parents match before a depth just where there are places for them**: places of the path that
lie before the depth, each further inside than the one before it, with scopes that match the parents
one by one. -/
theorem parentsMatch_take_iff (parents : List Scope) (scopes : ScopePath) (depth : Nat) :
    parentsMatch parents (scopes.take depth) = true ↔
      ∃ place : Fin parents.length → Nat, StrictMono place ∧ ∀ j, place j < depth ∧
        ∃ scope, scopes[place j]? = some scope ∧ Scope.matches (parents.get j) scope = true :=
  (parentsMatch_iff parents (scopes.take depth)).trans nested_take_iff

end Selector

/-! ### Preference -/

/-- How the place of a rule counts among selectors that are equally specific. -/
def TieBreak.weight : TieBreak → Nat → Int
  | .lastWins, order => order
  | .firstWins, order => -order

/-- How much a selector is preferred among those that match the same scope. -/
def Selector.rank (tieBreak : TieBreak) (s : Selector) : ℕ ×ₗ ℕ ×ₗ ℤ :=
  toLex (s.segments, toLex (s.parents.length, tieBreak.weight s.order))

theorem Selector.rank_le_iff {tieBreak : TieBreak} {s t : Selector} :
    s.rank tieBreak ≤ t.rank tieBreak ↔ s.segments < t.segments ∨ s.segments = t.segments ∧
      (s.parents.length < t.parents.length ∨ s.parents.length = t.parents.length ∧
        tieBreak.weight s.order ≤ tieBreak.weight t.order) := by
  rw [rank, rank, Prod.Lex.toLex_le_toLex, Prod.Lex.toLex_le_toLex]

namespace Theme

variable {tieBreak : TieBreak} {s t : Selector}

theorem prefer_eq_or (tieBreak : TieBreak) (s t : Selector) :
    prefer tieBreak s t = s ∨ prefer tieBreak s t = t := by
  unfold prefer
  split
  · exact .inr rfl
  · exact .inl rfl
  · split <;> split <;> simp

/-- **The preferred one of two selectors has the greater rank.** -/
theorem le_prefer (tieBreak : TieBreak) (s t : Selector) :
    s.rank tieBreak ≤ (prefer tieBreak s t).rank tieBreak ∧
      t.rank tieBreak ≤ (prefer tieBreak s t).rank tieBreak := by
  unfold prefer Selector.specificity
  rcases Nat.lt_trichotomy t.segments s.segments with hsegments | hsegments | hsegments
  · rw [Nat.compare_eq_lt.2 hsegments]
    exact ⟨le_rfl, Selector.rank_le_iff.2 (.inl hsegments)⟩
  · rw [Nat.compare_eq_eq.2 hsegments]
    rcases Nat.lt_trichotomy t.parents.length s.parents.length with hparents | hparents | hparents
    · rw [Nat.compare_eq_lt.2 hparents]
      exact ⟨le_rfl, Selector.rank_le_iff.2 (.inr ⟨hsegments, .inl hparents⟩)⟩
    · -- equally specific: only the place of the rules counts
      rw [Nat.compare_eq_eq.2 hparents]
      have hst : tieBreak.weight s.order ≤ tieBreak.weight t.order →
          s.rank tieBreak ≤ t.rank tieBreak := fun h =>
        Selector.rank_le_iff.2 (.inr ⟨hsegments.symm, .inr ⟨hparents.symm, h⟩⟩)
      have hts : tieBreak.weight t.order ≤ tieBreak.weight s.order →
          t.rank tieBreak ≤ s.rank tieBreak := fun h =>
        Selector.rank_le_iff.2 (.inr ⟨hsegments, .inr ⟨hparents, h⟩⟩)
      cases tieBreak with
      | lastWins =>
        show _ ≤ (if s.order ≤ t.order then t else s).rank .lastWins ∧
          _ ≤ (if s.order ≤ t.order then t else s).rank .lastWins
        split
        · exact ⟨hst (by rw [TieBreak.weight, TieBreak.weight]; omega), le_rfl⟩
        · exact ⟨le_rfl, hts (by rw [TieBreak.weight, TieBreak.weight]; omega)⟩
      | firstWins =>
        show _ ≤ (if t.order < s.order then t else s).rank .firstWins ∧
          _ ≤ (if t.order < s.order then t else s).rank .firstWins
        split
        · exact ⟨hst (by rw [TieBreak.weight, TieBreak.weight]; omega), le_rfl⟩
        · exact ⟨le_rfl, hts (by rw [TieBreak.weight, TieBreak.weight]; omega)⟩
    · rw [Nat.compare_eq_gt.2 hparents]
      exact ⟨Selector.rank_le_iff.2 (.inr ⟨hsegments.symm, .inl hparents⟩), le_rfl⟩
  · rw [Nat.compare_eq_gt.2 hsegments]
    exact ⟨Selector.rank_le_iff.2 (.inl hsegments), le_rfl⟩

/-- The preferred one of a list of selectors, beginning with a given one. -/
theorem exists_foldl_prefer (tieBreak : TieBreak) (selectors : List Selector) (s : Selector) :
    ∃ best, selectors.foldl (fun best candidate => some <|
        match best with
        | none => candidate
        | some current => prefer tieBreak current candidate) (some s) = some best ∧
      best ∈ s :: selectors ∧ ∀ t ∈ s :: selectors, t.rank tieBreak ≤ best.rank tieBreak := by
  induction selectors generalizing s with
  | nil =>
    refine ⟨s, rfl, List.mem_cons_self, fun t ht => ?_⟩
    rw [List.mem_singleton.1 ht]
  | cons t selectors ih =>
    obtain ⟨best, hbest, hmem, hrank⟩ := ih (prefer tieBreak s t)
    obtain ⟨hs, ht⟩ := le_prefer tieBreak s t
    have hfirst := hrank _ List.mem_cons_self
    refine ⟨best, hbest, ?_, fun u hu => ?_⟩
    · rcases List.mem_cons.1 hmem with rfl | hmem
      · rcases prefer_eq_or tieBreak s t with h | h <;> simp [h]
      · exact List.mem_cons_of_mem _ (List.mem_cons_of_mem _ hmem)
    · rcases List.mem_cons.1 hu with rfl | hu
      · exact hs.trans hfirst
      rcases List.mem_cons.1 hu with rfl | hu
      · exact ht.trans hfirst
      · exact hrank u (List.mem_cons_of_mem _ hu)

/-! ### The best selector for one scope -/

variable {theme : Theme} {outside : ScopePath} {scope : Scope}

theorem bestAt?_eq_none (h : theme.bestAt? outside scope = none) :
    ∀ t ∈ theme.selectors, ¬t.matchesAt outside scope := by
  intro t ht hmatches
  have hmem : t ∈ theme.selectors.filter fun s => s.matchesAt outside scope :=
    List.mem_filter.2 ⟨ht, hmatches⟩
  unfold bestAt? at h
  cases hfilter : theme.selectors.filter fun s => s.matchesAt outside scope with
  | nil => exact absurd (hfilter ▸ hmem) List.not_mem_nil
  | cons s selectors =>
    obtain ⟨best, hbest, -⟩ := exists_foldl_prefer theme.tieBreak selectors s
    rw [hfilter] at h
    exact absurd (hbest.symm.trans h) (by simp)

theorem bestAt?_eq_some (h : theme.bestAt? outside scope = some s) :
    s ∈ theme.selectors ∧ s.matchesAt outside scope ∧
      ∀ t ∈ theme.selectors, t.matchesAt outside scope →
        t.rank theme.tieBreak ≤ s.rank theme.tieBreak := by
  unfold bestAt? at h
  cases hfilter : theme.selectors.filter fun s => s.matchesAt outside scope with
  | nil =>
    rw [hfilter] at h
    exact absurd h (by simp)
  | cons first selectors =>
    obtain ⟨best, hbest, hmem, hrank⟩ := exists_foldl_prefer theme.tieBreak selectors first
    rw [hfilter] at h
    obtain rfl := Option.some.inj (hbest.symm.trans h)
    obtain ⟨hs, hmatches⟩ := List.mem_filter.1 (hfilter ▸ hmem)
    exact ⟨hs, hmatches, fun t ht htmatches =>
      hrank t (hfilter ▸ List.mem_filter.2 ⟨ht, htmatches⟩)⟩

end Theme

end Highlight
