import Highlight.Grammar.Table
import Highlight.Files
import Highlight.Theme.File

/-!
# Assets

The grammars and the theme that highlighting needs, wherever they come from.  `Assets.grammarSet`
collects the grammars that a grammar includes, directly or through others; those that are not to be
had are left out.
-/

namespace Highlight

/-- Why a grammar or theme is not to be had. -/
inductive AssetError where
  | notFound (what : String)
  | unreadable (cause : FileError)
  | malformed (fault : Json.Fault)
  /-- Grammars under names other than their own include one another without end. -/
  | endless
  deriving Repr, DecidableEq, Inhabited

/-- The error in words. -/
def AssetError.message : AssetError → String
  | notFound what => "Asset not found: " ++ what
  | unreadable _ => "IO error"
  | malformed _ => "Parse error"
  | endless => "Endless includes"

/-- Grammars by scope name and a theme; each may fail to be had. -/
structure Assets where
  /-- What is known under scope names, which are distinct. -/
  grammars : List (String × Except AssetError WrittenGrammar) := []
  theme : Except AssetError (List ThemeRule) := .error (.notFound "theme")
  deriving Inhabited

namespace Assets

/-- Adds what is known under a scope name, in place of what was known. -/
def put (a : Assets) (scope : String) (answer : Except AssetError WrittenGrammar) : Assets :=
  { a with grammars := (scope, answer) :: a.grammars.filter (·.1 != scope) }

/-- Adds a grammar under its own scope name. -/
def withGrammar (a : Assets) (source : WrittenGrammar) : Assets :=
  a.put source.scopeName (.ok source)

/-- Takes the given rules for the theme. -/
def withTheme (a : Assets) (rules : List ThemeRule) : Assets := { a with theme := .ok rules }

/-- The given grammars, each under its own scope name; of two with the same one the later counts. -/
def ofGrammars (sources : List WrittenGrammar) : Assets := sources.foldl withGrammar {}

/-- The grammar known under a scope name. -/
def grammar (a : Assets) (scope : String) : Except AssetError WrittenGrammar :=
  (a.grammars.lookup scope).getD (.error (.notFound scope))

/-! ### Included grammars -/

/-- Goes through a stack of scope names, adds the grammar of each to the set unless it is there
already or is the base, and puts the scope names that it includes on the stack.  `answer` tells the
grammar known under a scope name; the number bounds the scope names met. -/
def gather (answer : String → Except AssetError WrittenGrammar) (base : WrittenGrammar) :
    Nat → List String → GrammarSet → Option GrammarSet
  | _, [], set => some set
  | 0, _ :: _, _ => none
  | n + 1, scope :: stack, set =>
    if set.has scope || scope == base.scopeName then gather answer base n stack set
    else match answer scope with
      | .error _ => gather answer base n stack set
      | .ok source =>
        gather answer base n (source.includedScopes.reverse ++ stack) (set.insert source)

/-- The number of scope names that the grammars of a list include. -/
def includedCountOf : List (String × Except AssetError WrittenGrammar) → Nat
  | [] => 0
  | (_, .ok source) :: answers => source.includedScopes.length + includedCountOf answers
  | (_, .error _) :: answers => includedCountOf answers

/-- The number of scope names that the known grammars include. -/
def includedCount (a : Assets) : Nat := includedCountOf a.grammars

/-- More scope names than are met unless there is no end to them.  Where every grammar has its own
name, no more are met than the grammars include.  Else a grammar may be met again, but, as long as
no new name comes into the set, not within itself; so there are never more levels than grammars. -/
def gatherLimit (a : Assets) (base : WrittenGrammar) : Nat :=
  Nat.pow (1 + base.includedScopes.length + a.includedCount)
    ((a.grammars.length + 2) * (a.grammars.length + 2))

/-- A grammar, and the set of the other grammars that it includes, directly or through others. -/
def grammarSet (a : Assets) (scope : String) : Except AssetError (WrittenGrammar × GrammarSet) := do
  let base ← a.grammar scope
  match gather a.grammar base (a.gatherLimit base) base.includedScopes.reverse [] with
  | some set => return (base, set)
  | none => throw .endless

end Assets

end Highlight
