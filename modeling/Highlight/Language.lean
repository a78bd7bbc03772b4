import Highlight.Json.Decode
import Highlight.Path

/-!
# Languages

A language has an id and the scope name of the grammar that describes it.  `Languages` are a list
of languages, no two with the same id: registering a language puts it in the place of the one with
its id (`Languages.register`).  Languages are found by id or alias, by scope name, or by the
extension of a file; the first one that fits is taken.
-/

namespace Highlight

/-- A language and where its grammar is. -/
structure Language where
  id : String
  scopeName : String
  /-- The extensions of files in the language, with or without a dot in front. -/
  extensions : List String
  /-- Other names, in which the case of letters does not matter. -/
  aliases : List String
  grammarPath : String
  deriving Repr, DecidableEq, Inhabited

/-- A language as it is registered in the settings. -/
structure LanguageRegistration where
  id : String
  scopeName : String
  extensions : List String := []
  grammarPath : Option String := none
  deriving Repr, DecidableEq, Inhabited

namespace LanguageRegistration

open Json (Decoder)
open Json.Decode

/-- An entry as written. -/
def decode (room : Nat) : Decoder LanguageRegistration :=
  record room
    [requiredField "id" string fun x e => { e with id := x },
      requiredField "scope_name" string fun x e => { e with scopeName := x },
      field "extensions" (list (room - 1) string) fun x e => { e with extensions := x },
      field "grammar_path" (option string) fun x e => { e with grammarPath := x }]
    { id := "", scopeName := "" }

/-- The written form of an entry. -/
def toJson (e : LanguageRegistration) : Json :=
  .object ([("id", .string e.id), ("scope_name", .string e.scopeName),
      ("extensions", .array (e.extensions.map .string))] ++
    match e.grammarPath with
    | none => []
    | some path => [("grammar_path", .string path)])

end LanguageRegistration

namespace Language

/-- The language that is always there. -/
def bbcode : Language where
  id := "bbcode"
  scopeName := "text.bbcode"
  extensions := [".bbcode"]
  aliases := ["BBC"]
  grammarPath := "bbcode.tmLanguage.json"

/-- The language that an entry of the settings registers.  The file of its grammar is named after
its id unless the entry gives one. -/
def ofRegistration (e : LanguageRegistration) : Language where
  id := e.id
  scopeName := e.scopeName
  extensions := e.extensions
  aliases := []
  grammarPath := e.grammarPath.getD (e.id ++ ".tmLanguage.json")

/-- Whether a language goes by a name: its id as it is, or an alias in any case. -/
def hasName (l : Language) (name : String) : Bool :=
  l.id == name || l.aliases.any fun a => Text.sameIgnoringCase a name

/-- A text without the dots at its front. -/
def undotted (text : String) : String := String.ofList (text.toList.dropWhile (· == '.'))

/-- Whether files with an extension are in the language. -/
def hasExtension (l : Language) (extension : String) : Bool :=
  l.extensions.any fun e => Text.sameIgnoringCase (undotted e) extension

end Language

/-- Registered languages, in the order in which their ids were first registered. -/
abbrev Languages := List Language

namespace Languages

/-- No languages. -/
def empty : Languages := []

/-- The languages that are always there. -/
def standard : Languages := [Language.bbcode]

/-- Adds a language, in place of the one with its id if there is one. -/
def register (r : Languages) (l : Language) : Languages :=
  match r with
  | [] => [l]
  | first :: rest => if first.id == l.id then l :: rest else first :: register rest l

/-- The languages that are always there and those of the given entries. -/
def ofRegistrations (entries : List LanguageRegistration) : Languages :=
  entries.foldl (fun r e => register r (.ofRegistration e)) standard

/-- The first language that goes by a name. -/
def byId? (r : Languages) (name : String) : Option Language := r.find? (·.hasName name)

/-- The first language with a scope name. -/
def byScope? (r : Languages) (scope : String) : Option Language :=
  r.find? (·.scopeName == scope)

/-- The first language of files with the extension of a path. -/
def forPath? (r : Languages) (path : String) : Option Language := do
  let extension ← Path.extension? path
  r.find? (·.hasExtension extension)

end Languages

end Highlight
