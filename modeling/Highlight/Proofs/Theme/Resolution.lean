import Highlight.Proofs.Theme.Selectors
import Mathlib.Data.List.Induction

/-!
# The style of a scope path

A selector and a depth at which it applies to a scope path are a **contender** for the path's style.
The defaults of a theme are the given ones with the styles of all rules without a selector, in order
(`defaultsOf`).  The style of a path is made of the defaults and the style of a contender that no
other surpasses: it applies furthest inside, then its target has the most segments, then it has the
most parents, then its rule is the last or the first (`Theme.styleOf_contender`).
-/

namespace Highlight

/-! ### Contenders -/

/-- One of the selectors of a rule has the given parents and target. -/
def ThemeRule.Writes (rule : ThemeRule) (parents : List Scope) (target : Scope) : Prop :=
  ∃ text ∈ Text.splitAt ',' rule.selector, Text.words text = parents ++ [target]

/-- A selector, with the number of its rule, and the number of scopes outside the one that its
target matches. -/
structure Contender where
  selector : Selector
  depth : Nat

namespace Contender

/-- The selector is one of the rule with its number, and at the depth its target matches the scope
and its parents match scopes further outside. -/
structure Stands (rules : List ThemeRule) (path : ScopePath) (c : Contender) : Prop where
  written : ∃ rule, rules[c.selector.order]? = some rule ∧ rule.style = c.selector.style ∧
    rule.Writes c.selector.parents c.selector.target
  target : ∃ scope, path[c.depth]? = some scope ∧ Scope.matches c.selector.target scope
  parents : Selector.Nested c.selector.parents (path.take c.depth)

/-- The rank of a contender: its depth, and then the rank of its selector. -/
def rank (tieBreak : TieBreak) (c : Contender) : ℕ ×ₗ ℕ ×ₗ ℕ ×ₗ ℤ :=
  toLex (c.depth, c.selector.rank tieBreak)

theorem rank_le_iff {tieBreak : TieBreak} {c d : Contender} :
    c.rank tieBreak ≤ d.rank tieBreak ↔ c.depth < d.depth ∨ c.depth = d.depth ∧
      c.selector.rank tieBreak ≤ d.selector.rank tieBreak := Prod.Lex.toLex_le_toLex

end Contender

/-! ### Themes made of rules -/

theorem Selector.ofText?_eq_some_iff {order : Nat} {style : StyleSpec} {text : String}
    {s : Selector} : ofText? order style text = some s ↔
      s.order = order ∧ s.style = style ∧ Text.words text = s.parents ++ [s.target] := by
  unfold ofText?
  cases hwords : (Text.words text).reverse with
  | nil =>
    rw [List.reverse_eq_nil_iff.1 hwords]
    simp
  | cons target parents =>
    rw [List.reverse_eq_iff.1 hwords, List.reverse_cons]
    cases s with
    | mk target' parents' order' style' =>
      rw [Option.some.injEq, Selector.mk.injEq, List.append_singleton_inj]
      constructor
      · rintro ⟨rfl, rfl, rfl, rfl⟩
        exact ⟨rfl, rfl, rfl, rfl⟩
      · rintro ⟨rfl, rfl, rfl, rfl⟩
        exact ⟨rfl, rfl, rfl, rfl⟩

theorem Selector.ofText?_eq_none_iff {order : Nat} {style : StyleSpec} {text : String} :
    ofText? order style text = none ↔ Text.words text = [] := by
  rw [← List.reverse_eq_nil_iff, ofText?]
  cases (Text.words text).reverse with
  | nil => simp
  | cons target parents => simp

namespace ThemeRule

theorem mem_selectors_iff {rule : ThemeRule} {order : Nat} {s : Selector} :
    s ∈ rule.selectors order ↔
      s.order = order ∧ s.style = rule.style ∧ rule.Writes s.parents s.target := by
  unfold selectors
  rw [List.mem_filterMap]
  constructor
  · rintro ⟨text, htext, hs⟩
    obtain ⟨horder, hstyle, hwords⟩ := Selector.ofText?_eq_some_iff.1 hs
    exact ⟨horder, hstyle, text, htext, hwords⟩
  · rintro ⟨horder, hstyle, text, htext, hwords⟩
    exact ⟨text, htext, Selector.ofText?_eq_some_iff.2 ⟨horder, hstyle, hwords⟩⟩

/-- Whether nothing but blanks and commas is written for the selectors. -/
def isBare (rule : ThemeRule) : Bool :=
  (Text.splitAt ',' rule.selector).all fun text => (Text.words text).isEmpty

theorem selectors_eq_nil_iff {rule : ThemeRule} {order : Nat} :
    rule.selectors order = [] ↔ rule.isBare := by
  rw [selectors, List.filterMap_eq_nil_iff, isBare, List.all_eq_true]
  refine forall₂_congr fun text _ => ?_
  rw [Selector.ofText?_eq_none_iff, List.isEmpty_iff]

end ThemeRule

/-- The defaults of a theme: the given ones, changed in order by the rules without a selector. -/
def defaultsOf (rules : List ThemeRule) (defaults : Style) : Style :=
  (rules.filter ThemeRule.isBare).foldl (fun style rule => style.apply rule.style) defaults

namespace Theme

variable {theme : Theme}

theorem defaults_addRules (order : Nat) (theme : Theme) (rules : List ThemeRule) :
    (addRules order theme rules).defaults = defaultsOf rules theme.defaults := by
  induction rules generalizing order theme with
  | nil => rfl
  | cons rule rules ih =>
    rw [addRules, defaultsOf]
    split
    · rename_i hselectors
      rw [List.filter_cons_of_pos (ThemeRule.selectors_eq_nil_iff.1 hselectors)]
      exact ih _ _
    · rename_i hselectors
      rw [List.filter_cons_of_neg fun h =>
        hselectors (ThemeRule.selectors_eq_nil_iff.2 h)]
      exact ih _ _

theorem mem_selectors_addRules {order : Nat} {rules : List ThemeRule} {s : Selector} :
    s ∈ (addRules order theme rules).selectors ↔ s ∈ theme.selectors ∨
      ∃ (i : Nat) (rule : ThemeRule), rules[i]? = some rule ∧ s ∈ rule.selectors (order + i) := by
  induction rules generalizing order theme with
  | nil => simp [addRules]
  | cons rule rules ih =>
    have hsplit : (∃ (i : Nat) (r : ThemeRule), (rule :: rules)[i]? = some r ∧
          s ∈ r.selectors (order + i)) ↔ s ∈ rule.selectors order ∨
        ∃ (i : Nat) (r : ThemeRule), rules[i]? = some r ∧ s ∈ r.selectors (order + 1 + i) := by
      constructor
      · rintro ⟨i, r, hr, hs⟩
        cases i with
        | zero =>
          obtain rfl := Option.some.inj hr
          exact .inl hs
        | succ i => exact .inr ⟨i, r, hr, by rwa [← Nat.add_assoc, Nat.add_right_comm] at hs⟩
      · rintro (hs | ⟨i, r, hr, hs⟩)
        · exact ⟨0, rule, rfl, hs⟩
        · exact ⟨i + 1, r, hr, by rwa [← Nat.add_assoc, Nat.add_right_comm]⟩
    rw [addRules, hsplit]
    split
    · rename_i hselectors
      rw [ih, hselectors]
      simp
    · rw [ih, List.mem_append, or_assoc]

variable {lists : List (List ThemeRule)} {defaults : Style} {tieBreak : TieBreak}

/-- The selectors of a theme are those that its rules write. -/
theorem mem_selectors_ofLists {s : Selector} : s ∈ (ofLists lists defaults).selectors ↔
    ∃ rule, lists.flatten[s.order]? = some rule ∧ rule.style = s.style ∧
      rule.Writes s.parents s.target := by
  rw [ofLists, mem_selectors_addRules]
  constructor
  · rintro (hs | ⟨i, rule, hrule, hs⟩)
    · exact absurd hs List.not_mem_nil
    · obtain ⟨horder, hstyle, hwrites⟩ := ThemeRule.mem_selectors_iff.1 hs
      rw [Nat.zero_add] at horder
      exact ⟨rule, horder ▸ hrule, hstyle.symm, hwrites⟩
  · rintro ⟨rule, hrule, hstyle, hwrites⟩
    exact .inr ⟨s.order, rule, hrule,
      ThemeRule.mem_selectors_iff.2 ⟨(Nat.zero_add _).symm, hstyle.symm, hwrites⟩⟩

/-! ### The best selector for a path -/

/-- The selector is one of the theme and applies to the path at a depth. -/
structure Applies (theme : Theme) (path : ScopePath) (s : Selector) (depth : Nat) : Prop where
  mem : s ∈ theme.selectors
  exists_matches : ∃ scope, path[depth]? = some scope ∧ s.matchesAt (path.take depth) scope

theorem Applies.depth_lt {path : ScopePath} {s : Selector} {depth : Nat}
    (h : theme.Applies path s depth) : depth < path.length := by
  obtain ⟨scope, hscope, -⟩ := h.exists_matches
  exact (List.getElem?_eq_some_iff.1 hscope).1

/-- What applies to a path with one more scope inside applies to that scope or to the path. -/
theorem applies_concat_iff {path : ScopePath} {scope : Scope} {s : Selector} {depth : Nat} :
    theme.Applies (path ++ [scope]) s depth ↔
      depth = path.length ∧ s ∈ theme.selectors ∧ s.matchesAt path scope ∨
        theme.Applies path s depth := by
  constructor
  · rintro ⟨hmem, found, hfound, hmatches⟩
    rcases Nat.lt_trichotomy depth path.length with hlt | rfl | hgt
    · rw [List.getElem?_append_left hlt] at hfound
      rw [List.take_append_of_le_length (Nat.le_of_lt hlt)] at hmatches
      exact .inr ⟨hmem, found, hfound, hmatches⟩
    · rw [List.getElem?_concat_length] at hfound
      obtain rfl := Option.some.inj hfound
      rw [List.take_left] at hmatches
      exact .inl ⟨rfl, hmem, hmatches⟩
    · have hlt := (List.getElem?_eq_some_iff.1 hfound).1
      rw [List.length_append, List.length_singleton] at hlt
      omega
  · rintro (⟨rfl, hmem, hmatches⟩ | h)
    · refine ⟨hmem, scope, List.getElem?_concat_length, ?_⟩
      rwa [List.take_left]
    · obtain ⟨found, hfound, hmatches⟩ := h.exists_matches
      have hlt := h.depth_lt
      refine ⟨h.mem, found, ?_, ?_⟩
      · rwa [List.getElem?_append_left hlt]
      · rwa [List.take_append_of_le_length (Nat.le_of_lt hlt)]

theorem bestInside?_eq_none {path : ScopePath} (h : theme.bestInside? path.reverse = none) :
    ∀ t depth, ¬theme.Applies path t depth := by
  induction path using List.reverseRecOn with
  | nil => exact fun t depth ht => absurd ht.depth_lt (Nat.not_lt_zero _)
  | append_singleton path scope ih =>
    rw [List.reverse_concat, bestInside?, List.reverse_reverse] at h
    split at h
    · exact absurd h (by simp)
    · rename_i hbest
      intro t depth ht
      rcases applies_concat_iff.1 ht with ⟨-, hmem, hmatches⟩ | ht
      · exact bestAt?_eq_none hbest t hmem hmatches
      · exact ih h t depth ht

/-- The preferred selector of all that apply to a path is one that applies furthest inside. -/
theorem bestInside?_eq_some {path : ScopePath} {s : Selector}
    (h : theme.bestInside? path.reverse = some s) :
    ∃ depth, theme.Applies path s depth ∧ ∀ t depth', theme.Applies path t depth' →
      depth' < depth ∨ depth' = depth ∧ t.rank theme.tieBreak ≤ s.rank theme.tieBreak := by
  induction path using List.reverseRecOn with
  | nil => exact absurd h (by simp [bestInside?])
  | append_singleton path scope ih =>
    rw [List.reverse_concat, bestInside?, List.reverse_reverse] at h
    split at h
    · rename_i best hbest
      obtain rfl := Option.some.inj h
      obtain ⟨hmem, hmatches, hrank⟩ := bestAt?_eq_some hbest
      refine ⟨path.length, applies_concat_iff.2 (.inl ⟨rfl, hmem, hmatches⟩),
        fun t depth ht => ?_⟩
      rcases applies_concat_iff.1 ht with ⟨rfl, htmem, htmatches⟩ | ht
      · exact .inr ⟨rfl, hrank t htmem htmatches⟩
      · exact .inl ht.depth_lt
    · rename_i hbest
      obtain ⟨depth, hs, hrank⟩ := ih h
      refine ⟨depth, applies_concat_iff.2 (.inr hs), fun t depth' ht => ?_⟩
      rcases applies_concat_iff.1 ht with ⟨-, htmem, htmatches⟩ | ht
      · exact absurd htmatches (bestAt?_eq_none hbest t htmem)
      · exact hrank t depth' ht

/-- A selector of a theme that applies at a depth is a contender. -/
theorem applies_iff_stands {path : ScopePath} {s : Selector} {depth : Nat} :
    Applies { ofLists lists defaults with tieBreak } path s depth ↔
      Contender.Stands lists.flatten path ⟨s, depth⟩ := by
  constructor
  · rintro ⟨hmem, scope, hscope, hmatches⟩
    rw [Selector.matchesAt, Bool.and_eq_true] at hmatches
    exact ⟨mem_selectors_ofLists.1 hmem, ⟨scope, hscope, hmatches.1⟩,
      (Selector.parentsMatch_iff _ _).1 hmatches.2⟩
  · rintro ⟨hwritten, ⟨scope, hscope, htarget⟩, hparents⟩
    refine ⟨mem_selectors_ofLists.2 hwritten, scope, hscope, ?_⟩
    rw [Selector.matchesAt, Bool.and_eq_true]
    exact ⟨htarget, (Selector.parentsMatch_iff _ _).2 hparents⟩

/-- **The style of a path is that of a contender that no other surpasses**, applied to the defaults;
where there is no contender, it is the defaults. -/
theorem styleOf_contender (lists : List (List ThemeRule)) (defaults : Style)
    (tieBreak : TieBreak) (path : ScopePath) :
    (∀ c : Contender, ¬c.Stands lists.flatten path) ∧
        styleOf { ofLists lists defaults with tieBreak } path =
          defaultsOf lists.flatten defaults ∨
      ∃ best : Contender, best.Stands lists.flatten path ∧
        (∀ c : Contender, c.Stands lists.flatten path → c.rank tieBreak ≤ best.rank tieBreak) ∧
        styleOf { ofLists lists defaults with tieBreak } path =
          (defaultsOf lists.flatten defaults).apply best.selector.style := by
  have hdefaults : (ofLists lists defaults).defaults = defaultsOf lists.flatten defaults :=
    defaults_addRules 0 _ _
  rw [styleOf]
  split
  · rename_i hbest
    refine .inl ⟨fun c hc => ?_, hdefaults⟩
    exact bestInside?_eq_none hbest c.selector c.depth (applies_iff_stands.2 hc)
  · rename_i s hbest
    obtain ⟨depth, hs, hrank⟩ := bestInside?_eq_some hbest
    refine .inr ⟨⟨s, depth⟩, applies_iff_stands.1 hs, fun c hc => ?_, ?_⟩
    · exact Contender.rank_le_iff.2 (hrank c.selector c.depth (applies_iff_stands.2 hc))
    · exact congrArg (Style.apply · s.style) hdefaults

end Theme

end Highlight
