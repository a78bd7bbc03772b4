import Highlight.Proofs.Text.Pieces
import Highlight.Proofs.Text.Words
import Highlight.Proofs.Theme.Resolution
import Highlight.Proofs.Theme.Written

/-!
# Lists of selectors

An entry of a theme file with several selectors stands for as many entries with one selector each
(`ThemeFile.expansion_alike`).  The selectors of a theme stand in the order of their rules, and of
two equally specific ones the preference takes the one that stands further back, or further in
front.  So the numbers of the rules do not matter (`Theme.styleOf_unplaced`), and a theme is
determined by the selectors that its rules write one after the other and by the rules that write
none (`Theme.alike_ofRules`).
-/

namespace Highlight

/-! ### The numbers of rules -/

/-- The selector with no regard to the number of its rule. -/
def Selector.unplaced (s : Selector) : Selector := { s with order := 0 }

/-- The selectors stand in the order of their rules. -/
def Selector.InPlace (selectors : List Selector) : Prop :=
  selectors.Pairwise fun s t => s.order ≤ t.order

namespace Theme

open Selector (InPlace unplaced)

variable {theme : Theme} {tieBreak : TieBreak} {selectors : List Selector}

theorem prefer_unplaced {s t : Selector} (h : s.order ≤ t.order) :
    (prefer tieBreak s t).unplaced = prefer tieBreak s.unplaced t.unplaced := by
  have hspecificity : t.unplaced.specificity s.unplaced = t.specificity s := rfl
  unfold prefer
  rw [hspecificity]
  cases t.specificity s with
  | gt => rfl
  | lt => rfl
  | eq =>
    cases tieBreak with
    | lastWins =>
      show (if s.order ≤ t.order then t else s).unplaced = t.unplaced
      rw [if_pos h]
    | firstWins =>
      show (if t.order < s.order then t else s).unplaced = s.unplaced
      rw [if_neg (Nat.not_lt.2 h)]

theorem foldl_prefer_unplaced (tieBreak : TieBreak) (hplaced : InPlace selectors)
    {best : Option Selector} (hbest : ∀ s ∈ best, ∀ t ∈ selectors, s.order ≤ t.order) :
    (selectors.foldl (fun best candidate => some <|
        match best with
        | none => candidate
        | some current => prefer tieBreak current candidate) best).map unplaced =
      (selectors.map unplaced).foldl (fun best candidate => some <|
        match best with
        | none => candidate
        | some current => prefer tieBreak current candidate) (best.map unplaced) := by
  -- what was preferred so far stands no further back than any selector that is still to come
  induction selectors generalizing best with
  | nil => rfl
  | cons t selectors ih =>
    obtain ⟨ht, hselectors⟩ := List.pairwise_cons.1 hplaced
    cases best with
    | none => exact ih hselectors (by simpa using ht)
    | some s =>
      have hs : ∀ u ∈ t :: selectors, s.order ≤ u.order := hbest s rfl
      rw [List.forall_mem_cons] at hs
      have hnext : ∀ u ∈ some (prefer tieBreak s t), ∀ v ∈ selectors, u.order ≤ v.order := by
        intro u hu
        obtain rfl := Option.some.inj hu
        obtain h | h := prefer_eq_or tieBreak s t <;> rw [h]
        · exact hs.2
        · exact ht
      have hrest := ih hselectors hnext
      rw [Option.map_some, prefer_unplaced hs.1] at hrest
      exact hrest

theorem bestAt?_unplaced (hplaced : InPlace theme.selectors) (outside : ScopePath)
    (scope : Scope) :
    bestAt? { theme with selectors := theme.selectors.map unplaced } outside scope =
      (theme.bestAt? outside scope).map unplaced := by
  have hfilter : (theme.selectors.map unplaced).filter (fun s => s.matchesAt outside scope) =
      (theme.selectors.filter fun s => s.matchesAt outside scope).map unplaced :=
    List.filter_map
  have hnone : ∀ s ∈ (none : Option Selector),
      ∀ t ∈ theme.selectors.filter (fun s => s.matchesAt outside scope), s.order ≤ t.order := by
    simp
  unfold bestAt?
  rw [hfilter]
  exact (foldl_prefer_unplaced theme.tieBreak (hplaced.filter _) hnone).symm

theorem bestInside?_unplaced (hplaced : InPlace theme.selectors) (path : List Scope) :
    bestInside? { theme with selectors := theme.selectors.map unplaced } path =
      (theme.bestInside? path).map unplaced := by
  induction path with
  | nil => rfl
  | cons scope outside ih =>
    rw [bestInside?, bestInside?, bestAt?_unplaced hplaced, ih]
    cases theme.bestAt? outside.reverse scope with
    | none => rfl
    | some s => rfl

/-- **The numbers of rules do not matter** where selectors stand in the order of their rules. -/
theorem styleOf_unplaced (hplaced : InPlace theme.selectors) (path : ScopePath) :
    styleOf { theme with selectors := theme.selectors.map unplaced } path = theme.styleOf path := by
  rw [styleOf, styleOf, bestInside?_unplaced hplaced]
  cases theme.bestInside? path.reverse with
  | none => rfl
  | some s => rfl

end Theme

/-! ### Themes that look the same -/

theorem ThemeRule.map_unplaced_selectors (rule : ThemeRule) (order : Nat) :
    (rule.selectors order).map Selector.unplaced = rule.selectors 0 := by
  unfold selectors
  rw [List.map_filterMap]
  congr 1
  funext text
  unfold Selector.ofText?
  cases (Text.words text).reverse with
  | nil => rfl
  | cons target parents => rfl

namespace Theme

open Selector (InPlace unplaced)

variable {theme : Theme} {order : Nat} {rules : List ThemeRule}

theorem map_unplaced_addRules : (addRules order theme rules).selectors.map unplaced =
    theme.selectors.map unplaced ++ rules.flatMap (·.selectors 0) := by
  induction rules generalizing order theme with
  | nil => simp [addRules]
  | cons rule rules ih =>
    rw [addRules, List.flatMap_cons, ← rule.map_unplaced_selectors order]
    split
    · rename_i hselectors
      rw [ih, hselectors]
      rfl
    · rw [ih, List.map_append, List.append_assoc]

theorem inPlace_addRules (hplaced : InPlace theme.selectors)
    (horder : ∀ s ∈ theme.selectors, s.order ≤ order) :
    InPlace (addRules order theme rules).selectors := by
  -- every selector so far has at most the number of the next rule
  induction rules generalizing order theme with
  | nil => exact hplaced
  | cons rule rules ih =>
    rw [addRules]
    split
    · exact ih hplaced fun s hs => (horder s hs).trans (Nat.le_succ order)
    · have hnew : ∀ s ∈ rule.selectors order, s.order = order :=
        fun s hs => (ThemeRule.mem_selectors_iff.1 hs).1
      refine ih (List.pairwise_append.2 ⟨hplaced, ?_, fun s hs t ht => ?_⟩) fun s hs => ?_
      · exact List.pairwise_of_forall_mem_list fun s hs t ht => by rw [hnew s hs, hnew t ht]
      · exact hnew t ht ▸ horder s hs
      · obtain hs | hs := List.mem_append.1 hs
        · exact (horder s hs).trans (Nat.le_succ order)
        · exact hnew s hs ▸ Nat.le_succ order

/-- Two themes look the same: they have the same defaults, as many selectors, and the same style for
every path, whichever selectors win. -/
structure Alike (theme theme' : Theme) : Prop where
  defaults_eq : theme.defaults = theme'.defaults
  selectorCount_eq : theme.selectorCount = theme'.selectorCount
  styleOf_eq (tieBreak : TieBreak) (path : ScopePath) :
    styleOf { theme with tieBreak } path = styleOf { theme' with tieBreak } path

/-- **A theme looks as the selectors that its rules write**, one rule after the other, and the rules
without any. -/
theorem alike_ofRules {rules rules' : List ThemeRule}
    (hselectors : rules.flatMap (·.selectors 0) = rules'.flatMap (·.selectors 0))
    (hbare : rules.filter ThemeRule.isBare = rules'.filter ThemeRule.isBare) (defaults : Style) :
    Alike (ofRules rules defaults) (ofRules rules' defaults) := by
  have hsame (rules : List ThemeRule) : (ofRules rules defaults).selectors.map unplaced =
      rules.flatMap (·.selectors 0) := by
    rw [ofRules, ofLists, List.flatten_singleton, map_unplaced_addRules]
    rfl
  have hplaced (rules : List ThemeRule) : InPlace (ofRules rules defaults).selectors :=
    inPlace_addRules List.Pairwise.nil (List.forall_mem_nil _)
  have hdefaults (rules : List ThemeRule) :
      (ofRules rules defaults).defaults = defaultsOf rules defaults := by
    rw [ofRules, ofLists, List.flatten_singleton, defaults_addRules]
  have hboth : (ofRules rules defaults).selectors.map unplaced =
      (ofRules rules' defaults).selectors.map unplaced := by
    rw [hsame, hsame, hselectors]
  have hdefaultsBoth : (ofRules rules defaults).defaults = (ofRules rules' defaults).defaults := by
    rw [hdefaults, hdefaults, defaultsOf, defaultsOf, hbare]
  refine ⟨hdefaultsBoth, ?_, fun tieBreak path => ?_⟩
  · have hlength := congrArg List.length hboth
    rwa [List.length_map, List.length_map] at hlength
  · have hstyle (rules : List ThemeRule) : styleOf { ofRules rules defaults with tieBreak } path =
        styleOf ⟨(ofRules rules defaults).selectors.map unplaced, (ofRules rules defaults).defaults,
          tieBreak⟩ path :=
      (@styleOf_unplaced { ofRules rules defaults with tieBreak } (hplaced rules) path).symm
    rw [hstyle rules, hstyle rules', hboth, hdefaultsBoth]

end Theme

/-! ### Entries with several selectors -/

theorem Selector.ofText?_trim (order : Nat) (style : StyleSpec) (text : String) :
    ofText? order style (Text.trim text) = ofText? order style text := by
  rw [ofText?, ofText?, Text.words_trim]

namespace ThemeFile

/-- The selectors of an entry: what stands between the commas of its scopes, without the blanks
around it, where anything is left. -/
def Entry.selectors (e : Entry) : List String :=
  ((Text.splitAt ',' (",".intercalate (e.scope.getD []))).map Text.trim).filter (· ≠ "")

/-- One entry with the same settings for each of the selectors. -/
def Entry.expanded (e : Entry) : List Entry :=
  e.selectors.map fun selector => { e with scope := some [selector] }

variable {e : Entry} {selector : String}

theorem Entry.words_ne_nil (h : selector ∈ e.selectors) : Text.words selector ≠ [] := by
  obtain ⟨hmem, hne⟩ := List.mem_filter.1 h
  obtain ⟨text, -, rfl⟩ := List.mem_map.1 hmem
  rw [Text.words_trim, Ne, ← Text.trim_eq_empty_iff]
  simpa using hne

theorem Entry.comma_not_mem (h : selector ∈ e.selectors) : ',' ∉ selector.toList := by
  obtain ⟨text, htext, rfl⟩ := List.mem_map.1 (List.mem_filter.1 h).1
  rw [Text.trim, String.toList_ofList]
  intro hcomma
  exact Text.not_mem_of_mem_splitAt htext ((Text.trimChars_sublist _).subset hcomma)

/-- A rule is made of the selectors of its entry; texts of blanks between commas add none. -/
theorem Entry.selectors_rule (e : Entry) :
    e.rule.selectors 0 = e.selectors.filterMap (Selector.ofText? 0 e.settings.spec) := by
  rw [Entry.selectors, List.filterMap_filter, List.filterMap_map]
  refine List.filterMap_congr fun text _ => ?_
  rw [Function.comp_apply, Selector.ofText?_trim]
  split
  · rfl
  · rename_i hblank
    have hnone : Selector.ofText? 0 e.settings.spec text = none := by
      rw [Selector.ofText?_eq_none_iff, ← Text.trim_eq_empty_iff]
      simpa using hblank
    exact hnone

/-- The rule of an entry with one selector has just that selector. -/
theorem Entry.selectors_rule_single (h : selector ∈ e.selectors) :
    { e with scope := some [selector] }.rule.selectors 0 =
      (Selector.ofText? 0 e.settings.spec selector).toList := by
  have hrule : { e with scope := some [selector] }.rule = ⟨selector, e.settings.spec⟩ := rfl
  rw [ThemeRule.selectors, hrule, Text.splitAt_of_not_mem (Entry.comma_not_mem h)]
  cases hselector : Selector.ofText? 0 e.settings.spec selector with
  | none => rw [List.filterMap_cons_none hselector]; rfl
  | some s => rw [List.filterMap_cons_some hselector]; rfl

/-- The expanded entries write the selectors of the entry one after the other. -/
theorem Entry.selectors_expanded (e : Entry) :
    (e.expanded.map Entry.rule).flatMap (·.selectors 0) = e.rule.selectors 0 := by
  rw [Entry.selectors_rule, Entry.expanded, List.flatMap_map, List.flatMap_map,
    List.filterMap_eq_flatMap_toList]
  exact List.flatMap_congr fun selector h => Entry.selectors_rule_single h

theorem Entry.isBare_rule (h : e.selectors ≠ []) : e.rule.isBare = false := by
  obtain ⟨selector, hselector⟩ := List.exists_mem_of_ne_nil _ h
  rw [← Bool.not_eq_true, ← @ThemeRule.selectors_eq_nil_iff e.rule 0, Entry.selectors_rule,
    List.filterMap_eq_nil_iff]
  intro hnone
  exact Entry.words_ne_nil hselector (Selector.ofText?_eq_none_iff.1 (hnone selector hselector))

/-- None of the expanded entries changes the defaults. -/
theorem Entry.filter_isBare_expanded (e : Entry) :
    (e.expanded.map Entry.rule).filter ThemeRule.isBare = [] := by
  rw [List.filter_eq_nil_iff]
  intro rule hrule
  obtain ⟨_, hentry, rfl⟩ := List.mem_map.1 hrule
  obtain ⟨selector, hselector, rfl⟩ := List.mem_map.1 hentry
  rw [← @ThemeRule.selectors_eq_nil_iff _ 0, Entry.selectors_rule_single hselector,
    Option.toList_eq_nil_iff, Selector.ofText?_eq_none_iff]
  exact Entry.words_ne_nil hselector

/-- The rules of a theme file in which an entry has been expanded make a theme that looks the
same. -/
theorem alike_rules {c : Contents} {front back : List Entry}
    (hentries : c.tokenColors = front ++ e :: back) (hselectors : e.selectors ≠ [])
    (defaults : Style) : Theme.Alike (Theme.ofRules c.rules defaults)
      (Theme.ofRules { c with tokenColors := front ++ e.expanded ++ back }.rules defaults) := by
  -- the rule of the editor's colours, if there is one, stands first in both
  obtain ⟨editor, hrules, hexpanded⟩ : ∃ editor,
      c.rules = editor ++ ((front.map Entry.rule) ++ e.rule :: back.map Entry.rule) ∧
      { c with tokenColors := front ++ e.expanded ++ back }.rules =
        editor ++ (front.map Entry.rule ++ (e.expanded.map Entry.rule ++ back.map Entry.rule)) := by
    refine ⟨if c.editorStyle == {} then [] else [⟨"", c.editorStyle⟩], ?_, ?_⟩
    · rw [Contents.rules, hentries, List.map_append, List.map_cons]
    · rw [Contents.rules]
      simp only [List.map_append, List.append_assoc]
      rfl
  rw [hrules, hexpanded]
  refine Theme.alike_ofRules ?_ ?_ defaults
  · simp only [List.flatMap_append, List.flatMap_cons, Entry.selectors_expanded]
  · simp [Entry.filter_isBare_expanded, Entry.isBare_rule hselectors]

/-- **An entry with several selectors is only short for as many entries with one each.**  A theme
file that holds these in the place of the entry can be written, and however it is written the theme
that it makes looks the same. -/
theorem expansion_alike {text : String} {c : Contents} {front back : List Entry}
    (hread : Json.Decode.text decode text = .ok c) (hentries : c.tokenColors = front ++ e :: back)
    (hselectors : e.selectors ≠ []) :
    let expanded := { c with tokenColors := front ++ e.expanded ++ back }
    (∃ written, Json.Decode.text decode written = .ok expanded) ∧
      ∀ written, Json.Decode.text decode written = .ok expanded →
        ∃ rules rules', ThemeRule.listOfText text = .ok rules ∧
          ThemeRule.listOfText written = .ok rules' ∧
          ∀ defaults, Theme.Alike (Theme.ofRules rules defaults)
            (Theme.ofRules rules' defaults) := by
  intro expanded
  obtain ⟨_, hdecode, hrest⟩ := bind_eq_ok.1 hread
  obtain ⟨_, -, hc⟩ := bind_eq_ok.1 hrest
  cases hc
  have hrules {text : String} {c : Contents} (h : Json.Decode.text decode text = .ok c) :
      ThemeRule.listOfText text = .ok c.rules := by
    rw [ThemeRule.listOfText, h]
    rfl
  -- a text is only known for colours in the order of their names, and these have been read
  have horder : Json.InOrder c.colors := inOrder_colors hdecode
  refine ⟨@Contents.exists_text expanded horder, fun written hwritten => ?_⟩
  exact ⟨c.rules, expanded.rules, hrules hread, hrules hwritten, alike_rules hentries hselectors⟩

/-- A theme file in which one entry lists two selectors, with nothing but blanks between some of the
commas. -/
def listed : Json :=
  .object [("tokenColors", .array [.object [
    ("scope", .array [.string "string, ", .string " ,meta tag"]),
    ("settings", .object [("foreground", .string "#123")])]])]

theorem expansion_alike_listed : ∃ (c : Contents) (e : Entry) (written : String),
    Json.Decode.text decode listed.render = .ok c ∧ c.tokenColors = [] ++ e :: [] ∧
      e.selectors = ["string", "meta tag"] ∧
      Json.Decode.text decode written =
        .ok { c with tokenColors := [] ++ e.expanded ++ [] } ∧
      ∃ rules rules', ThemeRule.listOfText listed.render = .ok rules ∧
        ThemeRule.listOfText written = .ok rules' ∧
        ∀ defaults, Theme.Alike (Theme.ofRules rules defaults) (Theme.ofRules rules' defaults) := by
  have hreal : listed.HasNoReal := by
    simp [listed, Json.HasNoReal, Json.MembersHaveNoReal, Json.ItemsHaveNoReal]
  obtain ⟨c, e, hread, hentries, hselectors⟩ : ∃ (c : Contents) (e : Entry),
      Json.Decode.text decode listed.render = .ok c ∧ c.tokenColors = [] ++ e :: [] ∧
        e.selectors = ["string", "meta tag"] :=
    ⟨_, _, by rw [Json.Decode.text_render hreal]; rfl, rfl, by decide⟩
  have hsome : e.selectors ≠ [] := by rw [hselectors]; exact List.cons_ne_nil _ _
  obtain ⟨⟨written, hwritten⟩, halike⟩ := expansion_alike hread hentries hsome
  exact ⟨c, e, written, hread, hentries, hselectors, hwritten, halike written hwritten⟩

end ThemeFile

end Highlight
