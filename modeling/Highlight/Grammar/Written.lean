import Highlight.Json.Decode
import Highlight.Text.Blank

/-!
# Grammar sources

A grammar as it is written: rules with patterns still as text, and references between rules by name.
`WrittenGrammar.ofText` reads a grammar from JSON and `WrittenGrammar.toJson` writes it; fields that
are not set, or are empty, are left out.

A rule refers to others through an **include**, which names a grammar, an entry of a repository, or
both (`Include`).
-/

namespace Highlight

/-! ### The written form -/

/-- The scope names of the groups of a pattern, by the numbers of the groups as written. -/
abbrev WrittenCaptures := List (String × Option String)

/-- A rule as written.  Maps are lists ordered by key, with distinct keys. -/
structure WrittenRule where
  target : Option String := none
  name : Option String := none
  contentName : Option String := none
  matchPattern : Option String := none
  beginPattern : Option String := none
  endPattern : Option String := none
  whilePattern : Option String := none
  captures : WrittenCaptures := []
  beginCaptures : WrittenCaptures := []
  endCaptures : WrittenCaptures := []
  patterns : List WrittenRule := []
  repository : List (String × WrittenRule) := []
  applyEndPatternLast : Bool := false
  deriving Repr, Inhabited

/-- Rules by name. -/
abbrev Repository := List (String × WrittenRule)

/-- A grammar as written. -/
structure WrittenGrammar where
  scopeName : String
  name : Option String := none
  fileTypes : List String := []
  patterns : List WrittenRule := []
  repository : Repository := []
  injections : Option Json := none
  deriving Repr, Inhabited

namespace WrittenRule

/-- The rule that gives a name to what a pattern matches. -/
def matching (pattern name : String) : WrittenRule :=
  { matchPattern := some pattern, name := some name }

/-- The rule that stands for another one. -/
def including (target : String) : WrittenRule := { target := some target }

end WrittenRule

/-! ### Includes -/

/-- What an include names. -/
inductive Include where
  /-- The grammar in which the include stands. -/
  | self
  /-- The grammar that is compiled. -/
  | base
  /-- An entry of a repository around the include. -/
  | entry (key : String)
  /-- A grammar by its scope name, or an entry of its repository. -/
  | grammar (scope : String) (key : Option String)
  deriving Repr, DecidableEq

namespace Include

/-- The grammar, and the entry after the first `#`, that an include names; the grammar's name is not
empty and does not begin with `$`. -/
def external? (text : List Char) : Option Include :=
  let scope := text.takeWhile (· != '#')
  match scope with
  | [] => none
  | c :: _ =>
    if c == '$' then none
    else match text.dropWhile (· != '#') with
      | [] => some (.grammar (String.ofList scope) none)
      | _ :: key => some (.grammar (String.ofList scope) (some (String.ofList key)))

/-- Reads an include. -/
def ofText? (text : String) : Option Include :=
  if text == "$self" then some .self
  else if text == "$base" then some .base
  else match text.toList with
    | '#' :: key => some (.entry (String.ofList key))
    | cs => external? cs

/-- The scope name of the grammar that an include names. -/
def scope? : Include → Option String
  | .grammar scope _ => some scope
  | _ => none

end Include

mutual

/-- The includes of a rule and all rules in it: its own, those of its patterns, and those of its
repository. -/
def WrittenRule.targets : WrittenRule → List String
  | ⟨target, _, _, _, _, _, _, _, _, _, patterns, repository, _⟩ =>
    target.toList ++ targetsOfRules patterns ++ targetsOfEntries repository

/-- The includes of several rules and all rules in them. -/
def targetsOfRules : List WrittenRule → List String
  | [] => []
  | rule :: rules => rule.targets ++ targetsOfRules rules

/-- The includes of the entries of a repository and all rules in them. -/
def targetsOfEntries : List (String × WrittenRule) → List String
  | [] => []
  | (_, rule) :: entries => rule.targets ++ targetsOfEntries entries

end

namespace WrittenGrammar

/-- All includes of a grammar. -/
def targets (g : WrittenGrammar) : List String :=
  targetsOfRules g.patterns ++ targetsOfEntries g.repository

/-- The scope names of other grammars that a grammar includes, in the order of first mention. -/
def includedScopes (g : WrittenGrammar) : List String :=
  let scopes := g.targets.filterMap fun target => (Include.ofText? target).bind Include.scope?
  (scopes.filter (· != g.scopeName)).foldl Text.appendNew []

end WrittenGrammar

/-! ### Writing -/

namespace WrittenGrammar

/-- A member for a string that is set. -/
def textMember (key : String) : Option String → List (String × Json)
  | none => []
  | some s => [(key, .string s)]

/-- The written form of the name of a group. -/
def captureToJson (name : Option String) : Json := .object (textMember "name" name)

/-- A member for a map of captures that is not empty. -/
def capturesMember (key : String) (captures : WrittenCaptures) : List (String × Json) :=
  if captures.isEmpty then []
  else [(key, .object (captures.map fun (group, name) => (group, captureToJson name)))]

/-- A member for a list that is not empty. -/
def listMember (key : String) (items : List Json) : List (String × Json) :=
  if items.isEmpty then [] else [(key, .array items)]

/-- A member for a map that is not empty. -/
def mapMember (key : String) (members : List (String × Json)) : List (String × Json) :=
  if members.isEmpty then [] else [(key, .object members)]

end WrittenGrammar

open WrittenGrammar in
mutual

/-- The written form of a rule. -/
def WrittenRule.toJson : WrittenRule → Json
  | ⟨target, name, contentName, matchPattern, beginPattern, endPattern, whilePattern, captures,
      beginCaptures, endCaptures, patterns, repository, applyEndPatternLast⟩ =>
    .object (textMember "include" target ++ textMember "name" name ++
      textMember "contentName" contentName ++ textMember "match" matchPattern ++
      textMember "begin" beginPattern ++ textMember "end" endPattern ++
      textMember "while" whilePattern ++ capturesMember "captures" captures ++
      capturesMember "beginCaptures" beginCaptures ++ capturesMember "endCaptures" endCaptures ++
      listMember "patterns" (rulesToJson patterns) ++
      mapMember "repository" (entriesToJson repository) ++
      [("applyEndPatternLast", .bool applyEndPatternLast)])

/-- The written forms of several rules. -/
def rulesToJson : List WrittenRule → List Json
  | [] => []
  | rule :: rules => rule.toJson :: rulesToJson rules

/-- The written forms of the entries of a repository. -/
def entriesToJson : List (String × WrittenRule) → List (String × Json)
  | [] => []
  | (key, rule) :: entries => (key, rule.toJson) :: entriesToJson entries

end

namespace WrittenGrammar

/-- The written form of a grammar. -/
def toJson (g : WrittenGrammar) : Json :=
  .object ([("scopeName", .string g.scopeName)] ++ textMember "name" g.name ++
    listMember "fileTypes" (g.fileTypes.map .string) ++
    [("patterns", .array (rulesToJson g.patterns))] ++
    mapMember "repository" (entriesToJson g.repository) ++
    match g.injections with
    | none => []
    | some injections => [("injections", injections)])

end WrittenGrammar

/-! ### Reading -/

open Json (Decoder Doc)
open Json.Decode

/-- The name of a group. -/
def WrittenCaptures.decodeName (room : Nat) : Decoder (Option String) :=
  record room [field "name" (option string) fun name _ => name] none

/-- The names of groups. -/
def WrittenCaptures.decode (room : Nat) : Decoder WrittenCaptures :=
  map room (decodeName (room - 1))

/-- A rule. The rules in it stand two levels further in. -/
def WrittenRule.decode : Nat → Decoder WrittenRule
  | 0, d | 1, d => record 0 [] {} d
  | room + 2, d =>
    let text := option string
    let captures := WrittenCaptures.decode (room + 1)
    record (room + 2)
      [field "include" text fun x r => { r with target := x },
        field "name" text fun x r => { r with name := x },
        field "contentName" text fun x r => { r with contentName := x },
        field "match" text fun x r => { r with matchPattern := x },
        field "begin" text fun x r => { r with beginPattern := x },
        field "end" text fun x r => { r with endPattern := x },
        field "while" text fun x r => { r with whilePattern := x },
        field "captures" captures fun x r => { r with captures := x },
        field "beginCaptures" captures fun x r => { r with beginCaptures := x },
        field "endCaptures" captures fun x r => { r with endCaptures := x },
        field "patterns" (list (room + 1) fun d => WrittenRule.decode room d) fun x r =>
          { r with patterns := x },
        field "repository" (map (room + 1) fun d => WrittenRule.decode room d) fun x r =>
          { r with repository := x },
        field "applyEndPatternLast" bool fun x r => { r with applyEndPatternLast := x }]
      {} d

namespace WrittenGrammar

/-- A grammar. -/
def decode (room : Nat) : Decoder WrittenGrammar :=
  record room
    [requiredField "scopeName" string fun x g => { g with scopeName := x },
      field "name" (option string) fun x g => { g with name := x },
      field "fileTypes" (list (room - 1) string) fun x g => { g with fileTypes := x },
      field "patterns" (list (room - 1) (WrittenRule.decode (room - 2))) fun x g =>
        { g with patterns := x },
      field "repository" (map (room - 1) (WrittenRule.decode (room - 2))) fun x g =>
        { g with repository := x },
      field "injections" (option (anyValue (room - 1))) fun x g => { g with injections := x }]
    { scopeName := "" }

/-- Reads a grammar from the text of a JSON value. -/
def ofText (text : String) : Except Json.Fault WrittenGrammar := Json.Decode.text decode text

end WrittenGrammar

end Highlight
