import Highlight.Grammar.Backreference
import Highlight.Grammar.Rule
import Highlight.Grammar.Written
import Highlight.Text.Quoted

/-!
# Compiling grammars

`Grammar.compile` turns a grammar source, with the grammars that it includes, into a compiled
grammar.  Rules are numbered in the order in which they are met, and a rule has its number before
the rules in it are compiled.  The roots of grammars and the entries of repositories are compiled
once, when they are first included (`Build.once`); later includes, and includes from within, take
the number given then.

An entry is compiled in the surroundings of the include by which it is first reached
(`Surroundings`).
-/

namespace Highlight

/-! ### Errors -/

/-- Why a rule is not supported. -/
inductive Unsupported where
  | whilePattern
  | endWithoutBegin
  | injections
  /-- The rule was given a number but never compiled. -/
  | unresolved
  deriving Repr, DecidableEq, Inhabited

/-- The reason in words. -/
def Unsupported.reason : Unsupported → String
  | whilePattern => "begin/while rules are not supported"
  | endWithoutBegin => "end pattern without begin"
  | injections => "grammar injections are not supported"
  | unresolved => "rule left unresolved"

/-- Why a grammar does not compile. -/
inductive GrammarError where
  | unresolvedInclude (grammar target : String)
  | invalidPattern (grammar rule : String) (cause : PatternError)
  | unsupportedRule (grammar rule : String) (cause : Unsupported)
  | emptyGrammar (name : String)
  /-- The number of a capture is too large for a table of captures. -/
  | captureOutOfRange (grammar rule : String) (group : Nat)
  deriving Repr, DecidableEq, Inhabited

/-- The error in words. -/
def GrammarError.message : GrammarError → String
  | unresolvedInclude grammar target => grammar ++ ": unresolved include " ++ Text.quoted target
  | invalidPattern grammar rule _ => grammar ++ ": invalid pattern in " ++ rule
  | unsupportedRule grammar rule cause =>
    grammar ++ ": unsupported rule " ++ rule ++ ": " ++ cause.reason
  | emptyGrammar name => name ++ ": grammar has no scope name"
  | captureOutOfRange grammar rule group =>
    grammar ++ ": capture " ++ toString group ++ " out of range in " ++ rule

/-! ### Sets of grammars -/

/-- The grammars that includes may name, one for each scope name. -/
abbrev GrammarSet := List WrittenGrammar

namespace GrammarSet

/-- The grammar with the given scope name. -/
def get? (set : GrammarSet) (scope : String) : Option WrittenGrammar :=
  set.find? (·.scopeName == scope)

/-- Whether there is a grammar with the given scope name. -/
def has (set : GrammarSet) (scope : String) : Bool := (set.get? scope).isSome

/-- Adds a grammar, in place of one with the same scope name. -/
def insert (set : GrammarSet) (source : WrittenGrammar) : GrammarSet :=
  source :: set.filter (·.scopeName != source.scopeName)

/-- The set of the listed grammars; of two with the same scope name the later one counts. -/
def ofList (sources : List WrittenGrammar) : GrammarSet := sources.foldl insert []

end GrammarSet

mutual

/-- The number of rules in a rule, itself included. -/
def WrittenRule.count : WrittenRule → Nat
  | ⟨_, _, _, _, _, _, _, _, _, _, patterns, repository, _⟩ =>
    1 + countOfRules patterns + countOfEntries repository

/-- The number of rules in a list. -/
def countOfRules : List WrittenRule → Nat
  | [] => 0
  | rule :: rules => rule.count + countOfRules rules

/-- The number of rules in a repository. -/
def countOfEntries : List (String × WrittenRule) → Nat
  | [] => 0
  | (_, rule) :: entries => rule.count + countOfEntries entries

end

/-- The number of rules in a grammar. -/
def WrittenGrammar.count (g : WrittenGrammar) : Nat :=
  countOfRules g.patterns + countOfEntries g.repository

/-! ### Surroundings -/

/-- What an include can refer to from where it stands: the grammar around it, and the repositories
around it, innermost first, each with the beginning of the paths of its entries. -/
structure Surroundings where
  grammar : WrittenGrammar
  repositories : List (Repository × String)
  deriving Repr, Inhabited

/-- What an include refers to. -/
inductive Referent where
  /-- The root of a grammar. -/
  | root (grammar : WrittenGrammar)
  /-- An entry of a repository, its path, and the surroundings in which it is to be compiled. -/
  | entry (rule : WrittenRule) (path : String) (around : Surroundings)
  deriving Repr, Inhabited

namespace Surroundings

/-- The surroundings of the rules of a grammar. -/
def ofGrammar (g : WrittenGrammar) : Surroundings := ⟨g, [(g.repository, g.scopeName ++ "#")]⟩

/-- The surroundings of the rules in a rule, which may have a repository of its own. -/
def nested (s : Surroundings) (rule : WrittenRule) (path : String) : Surroundings :=
  if rule.repository.isEmpty then s
  else { s with repositories := (rule.repository, path ++ "/") :: s.repositories }

/-- The entry of the given key in the innermost repository that has one, and its path. -/
def lookupIn (key : String) : List (Repository × String) → Option (WrittenRule × String)
  | [] => none
  | (repository, path) :: outer =>
    match repository.lookup key with
    | some rule => some (rule, path ++ key)
    | none => lookupIn key outer

/-- The entry of the given key in the surroundings, and its path. -/
def lookup (s : Surroundings) (key : String) : Option (WrittenRule × String) :=
  lookupIn key s.repositories

/-- What an include refers to, where it stands in the given surroundings. -/
def referent? (base : WrittenGrammar) (set : GrammarSet) (s : Surroundings) :
    Include → Option Referent
  | .self => some (.root s.grammar)
  | .base => some (.root base)
  | .entry key => (s.lookup key).map fun (rule, path) => .entry rule path s
  | .grammar scope key? => do
    let grammar ←
      if scope == base.scopeName then some base
      else if scope == s.grammar.scopeName then some s.grammar
      else set.get? scope
    match key? with
    | none => return .root grammar
    | some key =>
      let other := ofGrammar grammar
      let (rule, path) ← other.lookup key
      return .entry rule path other

end Surroundings

/-! ### Building the table -/

/-- The table of rules being built: a slot for each number given out, filled once its rule is
compiled, and the numbers of the roots and entries met, by path. -/
structure Table where
  slots : Array (Option Rule) := #[]
  known : List (String × RuleId) := []
  deriving Repr, Inhabited

/-- A step of building the table. -/
abbrev Build := StateT Table (Except GrammarError)

namespace Build

/-- Gives out the next number. -/
def reserve : Build RuleId := do
  let id := (← get).slots.size
  modify fun table => { table with slots := table.slots.push none }
  return id

/-- Fills the slot of a number. -/
def fill (id : RuleId) (rule : Rule) : Build Unit :=
  modify fun table => { table with slots := table.slots.setIfInBounds id (some rule) }

/-- Compiles what has the given path, unless that has a number already.  The number is known before
`compile` is run with it. -/
def once (path : String) (compile : RuleId → Build Unit) : Build RuleId := do
  match (← get).known.lookup path with
  | some id => return id
  | none =>
    let id ← reserve
    modify fun table => { table with known := (path, id) :: table.known }
    compile id
    return id

end Build

/-- How the rules in a rule are compiled: given a rule, its surroundings and its path. -/
abbrev CompileRule := WrittenRule → Surroundings → String → Build RuleId

/-- The largest number of entries in a table of captures. -/
def captureLimit : Nat := (Nat.pow 2 63 - 1) / 24

/-- The number that a text of decimal digits, with or without a plus sign, stands for, if it fits a
64-bit word. -/
def groupNumber? (key : String) : Option Nat :=
  let digits := match key.toList with
    | '+' :: cs => cs
    | cs => cs
  if !digits.isEmpty && digits.all Char.isDigit then
    let n := digits.foldl (fun n c => n * 10 + (c.toNat - 48)) 0
    if n < Nat.pow 2 64 then some n else none
  else none

/-- Puts an entry into a list ordered by number; an entry of the same number is replaced. -/
def Captures.put (group : Nat) (scope : Scope) : Captures → Captures
  | [] => [(group, scope)]
  | (n, s) :: captures =>
    if group < n then (group, scope) :: (n, s) :: captures
    else if group == n then (group, scope) :: captures
    else (n, s) :: Captures.put group scope captures

/-- Adds the scope of one group in its written form.  A key that is no number and a group without a
name add nothing.  A number that no table of captures holds is an error. -/
def Captures.addWritten (captures : Captures) (source : String × Option String) :
    Except Nat Captures :=
  match groupNumber? source.1, source.2 with
  | some group, some name =>
    if group < captureLimit then .ok (captures.put group name) else .error group
  | _, _ => .ok captures

/-- The scopes of groups from their written form; of two keys for one number the later counts. -/
def Captures.ofWritten (sources : WrittenCaptures) : Except Nat Captures :=
  sources.foldlM Captures.addWritten []

namespace WrittenRule

/-- Compiles a pattern of a rule. -/
def compilePattern (grammar path pattern : String) : Build Matcher :=
  match Matcher.ofText pattern with
  | .ok matcher => return matcher
  | .error cause => throw (.invalidPattern grammar path cause)

/-- The captures of a rule. -/
def compileCaptures (grammar path : String) (sources : WrittenCaptures) : Build Captures :=
  match Captures.ofWritten sources with
  | .ok captures => return captures
  | .error group => throw (.captureOutOfRange grammar path group)

/-- The end of a rule.  One that refers back to groups is tried with empty groups, to find out
whether it is a pattern at all. -/
def compileEnd (grammar path : String) : Option String → Build EndPattern
  | none => return .never
  | some pattern => do
    if Backreference.isInText pattern then
      let _ ← compilePattern grammar path (Backreference.resolveText pattern [])
      return .dynamic pattern
    else return .fixed (← compilePattern grammar path pattern)

/-- Compiles the rules of a list, the first of which has the number `i` in its list. -/
def compileList (compile : CompileRule) (around : Surroundings) (path : String) :
    (i : Nat) → List WrittenRule → Build (List RuleId)
  | _, [] => return []
  | i, rule :: rules => do
    let id ← compile rule around (path ++ "/patterns[" ++ toString i ++ "]")
    return id :: (← compileList compile around path (i + 1) rules)

/-- The captures to use: the given ones, or those for the whole rule where none are given. -/
def capturesOr (captures others : WrittenCaptures) : WrittenCaptures :=
  if captures.isEmpty then others else captures

/-- Compiles a rule that is no include. -/
def compileBody (compile : CompileRule) (rule : WrittenRule) (around : Surroundings)
    (path : String) : Build Rule := do
  let grammar := around.grammar.scopeName
  if rule.whilePattern.isSome then throw (.unsupportedRule grammar path .whilePattern)
  let inside := around.nested rule path
  match rule.matchPattern, rule.beginPattern with
  | some pattern, _ =>
    let matcher ← compilePattern grammar path pattern
    let captures ← compileCaptures grammar path rule.captures
    return .matching { name := rule.name, matcher, captures }
  | none, some pattern =>
    let beginMatcher ← compilePattern grammar path pattern
    let ending ← compileEnd grammar path rule.endPattern
    let beginCaptures ←
      compileCaptures grammar path (capturesOr rule.beginCaptures rule.captures)
    let endCaptures ← compileCaptures grammar path (capturesOr rule.endCaptures rule.captures)
    let patterns ← compileList compile inside path 0 rule.patterns
    return .span {
      name := rule.name
      contentName := rule.contentName
      beginMatcher, beginCaptures, ending, endCaptures, patterns
      endLast := rule.applyEndPatternLast }
  | none, none =>
    if rule.endPattern.isSome then throw (.unsupportedRule grammar path .endWithoutBegin)
    return .group (← compileList compile inside path 0 rule.patterns)

/-- Compiles a rule under a number given out before.  An include stands for the group of what it
refers to. -/
def compileAs (compile : CompileRule) (id : RuleId) (rule : WrittenRule) (around : Surroundings)
    (path : String) : Build Unit := do
  if rule.target.isSome then
    let target ← compile rule around path
    Build.fill id (.group [target])
  else
    Build.fill id (← compileBody compile rule around path)

end WrittenRule

/-- Compiles the root of a grammar. -/
def WrittenGrammar.compileRoot (compile : CompileRule) (g : WrittenGrammar) : Build RuleId :=
  Build.once ("@" ++ g.scopeName) fun id => do
    let patterns ←
      WrittenRule.compileList compile (.ofGrammar g) g.scopeName 0 g.patterns
    Build.fill id (.group patterns)

/-- Compiles what an include refers to. -/
def Referent.compile (compile : CompileRule) : Referent → Build RuleId
  | .root grammar => grammar.compileRoot compile
  | .entry rule path around =>
    Build.once path fun id => WrittenRule.compileAs compile id rule around path

/-- Compiles a rule and answers its number; for an include, the number of what it refers to.  The
first argument bounds the depth to which rules lead to rules that are not yet compiled, of which
there are no more than rules. -/
def WrittenRule.compile (base : WrittenGrammar) (set : GrammarSet) : Nat → CompileRule
  | 0, _, around, path => throw (.unsupportedRule around.grammar.scopeName path .unresolved)
  | depth + 1, rule, around, path =>
    match rule.target with
    | none => do
      let id ← Build.reserve
      WrittenRule.compileAs (WrittenRule.compile base set depth) id rule around path
      return id
    | some target =>
      match (Include.ofText? target).bind (around.referent? base set) with
      | none => throw (.unresolvedInclude around.grammar.scopeName target)
      | some referent => referent.compile (WrittenRule.compile base set depth)

/-- The rules in the slots, from slot `i` on; all slots have to be filled. -/
def rulesOfSlots (scopeName : String) : (i : Nat) → List (Option Rule) →
    Except GrammarError (List Rule)
  | _, [] => .ok []
  | i, none :: _ => .error (.unsupportedRule scopeName ("rule #" ++ toString i) .unresolved)
  | i, some rule :: slots => do return rule :: (← rulesOfSlots scopeName (i + 1) slots)

/-- The number of rules in the grammars of a set. -/
def GrammarSet.count : GrammarSet → Nat
  | [] => 0
  | g :: set => g.count + GrammarSet.count set

/-- A bound on the number of rules that compiling a grammar can meet. -/
def compileDepth (source : WrittenGrammar) (set : GrammarSet) : Nat := source.count + set.count + 1

/-- Compiles a grammar together with the grammars of a set that it includes. -/
def Grammar.compile (source : WrittenGrammar) (set : GrammarSet) : Except GrammarError Grammar := do
  if (Text.trimChars source.scopeName.toList).isEmpty then
    throw (.emptyGrammar (source.name.getD ""))
  if source.injections.isSome then
    throw (.unsupportedRule source.scopeName "injections" .injections)
  let compileRule := WrittenRule.compile source set (compileDepth source set)
  let (root, table) ← (source.compileRoot compileRule).run {}
  let rules ← rulesOfSlots source.scopeName 0 table.slots.toList
  return .ofRules source.scopeName root rules.toArray

end Highlight
