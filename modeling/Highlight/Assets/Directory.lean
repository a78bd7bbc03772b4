import Highlight.Assets
import Highlight.Language

/-!
# Asset directories

A directory with grammars in its subdirectory `grammars` and themes in its subdirectory `themes`.
`AssetDirectory.assets` reads them.
-/

namespace Highlight

/-- A directory of assets: which file holds the grammar of a scope name, and which the theme. -/
structure AssetDirectory where
  root : String
  grammarFiles : List (String × String) := []
  themeFile : String := "dark-plus.json"
  deriving Repr, DecidableEq, Inhabited

namespace AssetDirectory

/-- Takes a file for the grammar of a scope name. -/
def withGrammarFile (d : AssetDirectory) (scope file : String) : AssetDirectory :=
  { d with grammarFiles := (scope, file) :: d.grammarFiles.filter (·.1 != scope) }

/-- A directory with the grammars of registered languages; of two languages with the same scope name
the later one counts. -/
def ofLanguages (root : String) (r : Languages) : AssetDirectory :=
  r.foldl (fun d l => d.withGrammarFile l.scopeName l.grammarPath) { root }

/-- The file of the grammar of a scope name. -/
def grammarFile? (d : AssetDirectory) (scope : String) : Option String :=
  d.grammarFiles.lookup scope

/-- The path of a grammar's file. -/
def grammarPath (d : AssetDirectory) (file : String) : String :=
  Path.join (Path.join d.root "grammars") file

/-- The path of the theme's file. -/
def themePath (d : AssetDirectory) : String := Path.join (Path.join d.root "themes") d.themeFile

/-- What a file holds, read in a given way. -/
def readAsset {α : Type} (ofText : String → Except Json.Fault α) (files : Files) (path : String) :
    Except AssetError α :=
  match files.read path with
  | .error .notFound => .error (.notFound path)
  | .error cause => .error (.unreadable cause)
  | .ok text => (ofText text).mapError .malformed

/-- The assets in the directory. -/
def assets (d : AssetDirectory) (files : Files) : Assets where
  grammars := d.grammarFiles.map fun (scope, file) =>
    (scope, readAsset WrittenGrammar.ofText files (d.grammarPath file))
  theme := readAsset ThemeRule.listOfText files d.themePath

end AssetDirectory

end Highlight
