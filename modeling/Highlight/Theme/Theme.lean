import Highlight.Scope
import Highlight.Theme.Style

/-!
# Themes

A theme gives a style to every scope path.  Its rules hold selectors; a selector is a list of
scopes, of which the last, its **target**, has to match a scope of the path, and the others, its
**parents**, scopes further outside in the same order.  The selector that matches furthest inside
wins, then the one whose target has more segments, then the one with more parents, and of selectors
equal in all this the last or the first, as the theme's `TieBreak` says (`Theme.styleOf`).
-/

namespace Highlight

/-- Which of two equally specific selectors wins. -/
inductive TieBreak where
  | lastWins
  | firstWins
  deriving Repr, DecidableEq, Inhabited

/-- The attributes for the scopes that match one of a list of selectors.  Without any selector a
rule changes the theme's defaults. -/
structure ThemeRule where
  /-- Selectors between commas, each made of scopes between blanks. -/
  selector : String
  style : StyleSpec
  deriving Repr, DecidableEq, Inhabited

/-- One selector of a theme, with the number of the rule that it comes from. -/
structure Selector where
  target : Scope
  /-- The scopes that have to match outside the target, outermost first. -/
  parents : List Scope
  order : Nat
  style : StyleSpec
  deriving Repr, DecidableEq, Inhabited

namespace Selector

/-- The number of segments of the target. -/
def segments (s : Selector) : Nat := s.target.segments.length

/-- Whether parents, innermost first, match scopes further and further outside, each time the
innermost one that does. -/
def parentsMatchInside : (parents outside : List Scope) → Bool
  | [], _ => true
  | parent :: parents, outside =>
    match outside.dropWhile fun scope => !Scope.matches parent scope with
    | [] => false
    | _ :: outside => parentsMatchInside parents outside

/-- Whether the parents, outermost first, match scopes of the path in the same order. -/
def parentsMatch (parents : List Scope) (outside : ScopePath) : Bool :=
  parentsMatchInside parents.reverse outside.reverse

/-- Whether a selector matches a scope that stands inside the given path. -/
def matchesAt (s : Selector) (outside : ScopePath) (scope : Scope) : Bool :=
  Scope.matches s.target scope && parentsMatch s.parents outside

/-- The order of two selectors that match the same scope, least specific first. -/
def specificity (s t : Selector) : Ordering :=
  (compare s.segments t.segments).then (compare s.parents.length t.parents.length)

/-- The selector written as scopes between blanks; nothing when there is no scope. -/
def ofText? (order : Nat) (style : StyleSpec) (text : String) : Option Selector :=
  match (Text.words text).reverse with
  | [] => none
  | target :: parents => some { target, parents := parents.reverse, order, style }

end Selector

/-- The selectors of a rule. -/
def ThemeRule.selectors (order : Nat) (rule : ThemeRule) : List Selector :=
  (Text.splitAt ',' rule.selector).filterMap (Selector.ofText? order rule.style)

/-- A theme ready for use: all selectors in the order of their rules, and the style of a path that
none of them matches. -/
structure Theme where
  selectors : List Selector
  defaults : Style
  tieBreak : TieBreak := .lastWins
  deriving Repr, Inhabited

namespace Theme

/-- Adds the rules of a list, the first of which has the number `order`. -/
def addRules : (order : Nat) → Theme → List ThemeRule → Theme
  | _, theme, [] => theme
  | order, theme, rule :: rules =>
    match rule.selectors order with
    | [] => addRules (order + 1) { theme with defaults := theme.defaults.apply rule.style } rules
    | selectors =>
      addRules (order + 1) { theme with selectors := theme.selectors ++ selectors } rules

/-- The theme made of several lists of rules, earlier lists first. -/
def ofLists (lists : List (List ThemeRule)) (defaults : Style) : Theme :=
  addRules 0 { selectors := [], defaults } lists.flatten

/-- The theme made of one list of rules. -/
def ofRules (rules : List ThemeRule) (defaults : Style) : Theme := ofLists [rules] defaults

/-- The theme without rules. -/
def plain : Theme := ofRules [] .base

/-- The number of selectors. -/
def selectorCount (theme : Theme) : Nat := theme.selectors.length

/-- The preferred one of two selectors that match the same scope. -/
def prefer (tieBreak : TieBreak) (current candidate : Selector) : Selector :=
  match candidate.specificity current with
  | .gt => candidate
  | .lt => current
  | .eq =>
    match tieBreak with
    | .lastWins => if current.order ≤ candidate.order then candidate else current
    | .firstWins => if candidate.order < current.order then candidate else current

/-- The preferred one of the selectors that match a scope inside the given path. -/
def bestAt? (theme : Theme) (outside : ScopePath) (scope : Scope) : Option Selector :=
  (theme.selectors.filter fun s => s.matchesAt outside scope).foldl
    (fun best candidate => some <|
      match best with
      | none => candidate
      | some current => prefer theme.tieBreak current candidate)
    none

/-- The preferred one of all selectors that match a path, given innermost scope first. -/
def bestInside? (theme : Theme) : List Scope → Option Selector
  | [] => none
  | scope :: outside =>
    match theme.bestAt? outside.reverse scope with
    | some selector => some selector
    | none => theme.bestInside? outside

/-- The style of a scope path. -/
def styleOf (theme : Theme) (path : ScopePath) : Style :=
  match theme.bestInside? path.reverse with
  | none => theme.defaults
  | some selector => theme.defaults.apply selector.style

end Theme

end Highlight
