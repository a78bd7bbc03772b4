import Highlight.Editor
import Highlight.Settings.Location

/-!
# The command line

`blackboard-highlight <grammar.json> <theme.json> <file>` prints the tokens of a file, each with its
place, colour, scopes and text.  The grammars next to the given one may be included by it.  A theme
that cannot be read leaves the text in the default colours, and a grammar that does not compile
leaves it without scopes.
-/

namespace Highlight.CommandLine

/-- What a run prints, line by line, and its exit status. -/
structure Outcome where
  status : UInt32
  output : List String := []
  deriving Repr, DecidableEq, Inhabited

/-- How the files of grammars end. -/
def grammarSuffix : String := ".tmLanguage.json"

/-- A token in words; lines are counted from one. -/
def describe (line : Line) (i : Nat) (t : StyledToken) : String :=
  toString (i + 1) ++ ":" ++ toString t.start ++ ".." ++ toString t.stop ++ " " ++
    t.style.foreground.text ++ " [" ++ ScopePath.text t.scopes ++ "] " ++
    Text.quoted (line.slice ⟨t.start, t.stop⟩)

/-- The tokens of `n` lines in words, the first of which has the number `i`. -/
def describeLines (e : Editor) : (n i : Nat) → List String
  | 0, _ => []
  | n + 1, i =>
    let line := Line.ofString (e.document.lines.text i)
    let (tokens, e) := e.tokens i
    tokens.map (describe line i) ++ describeLines e n (i + 1)

section

variable {m : Type → Type} [Monad m] [FileAccess m]

/-- The grammar in a file. -/
def readGrammar (path : String) : m (Option WrittenGrammar) := do
  return (← FileAccess.read path).toOption.bind fun text => (WrittenGrammar.ofText text).toOption

/-- The grammars in the directory of a file. -/
def grammarsBeside (path : String) : m (List WrittenGrammar) := do
  let directory := match Path.parent? path with
    | none | some "" => "."
    | some parent => parent
  let names := (← FileAccess.list directory).toOption.getD []
  let names := names.filter fun name => name.endsWith grammarSuffix
  let grammars ← names.mapM fun name => readGrammar (Path.join directory name)
  return grammars.filterMap id

/-- The rules of the theme in a file. -/
def readTheme (path : String) : m (Option (List ThemeRule)) := do
  return (← FileAccess.read path).toOption.bind fun text =>
    (ThemeRule.listOfText text).toOption

/-- Prints the tokens of a file. -/
def highlight (env : Environment) (grammarPath themePath path : String) : m Outcome := do
  let settings ← env.loadSettings
  match ← readGrammar grammarPath with
  | none => return { status := 1 }
  | some base =>
    let assets := (Assets.ofGrammars (← grammarsBeside grammarPath)).withGrammar base
    let assets := match ← readTheme themePath with
      | none => assets
      | some rules => assets.withTheme rules
    match ← FileAccess.read path with
    | .error _ => return { status := 1 }
    | .ok text =>
      let editor := Editor.load assets base.scopeName text settings.highlight
      let (_, editor) := editor.finish
      return { status := 0, output := describeLines editor editor.lineCount 0 }

/-- Runs the program with the given arguments. -/
def run (env : Environment) (arguments : List String) : m Outcome :=
  match arguments with
  | [grammarPath, themePath, path] => highlight env grammarPath themePath path
  | _ => return { status := 2 }

end

end Highlight.CommandLine
