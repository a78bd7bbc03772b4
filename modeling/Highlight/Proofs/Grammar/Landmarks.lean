import Highlight.Grammar.Table

/-!
# Where rules stand

A rule of a grammar stands at a path, in the repositories of the rules around it
(`WrittenGrammar.Holds`).  The rules that an include can refer to, and so have a number under their
path, are the **landmarks**: the roots of the grammars and the entries of all their repositories
(`WrittenGrammar.landmarks`).

While a grammar is compiled, a rule is not always met in the repositories around it: an entry is
compiled in the surroundings of the include by which it is first reached.  Those hold the
repositories around the entry, in their order, and maybe others between them
(`WrittenGrammar.Meets`).  What an include refers to is a landmark, from wherever it is looked up
(`WrittenGrammar.Stacks.referent`).
-/

namespace Highlight

/-! ### Places -/

/-- A rule as written, the path at which it stands, and its surroundings. -/
structure Place where
  rule : WrittenRule
  path : String
  around : Surroundings

/-- The surroundings of what stands in the rule. -/
def Place.inside (p : Place) : Surroundings := p.around.nested p.rule p.path

/-- The places of the rules of a list, the first of which has the number `i` in its list. -/
def Surroundings.listed (s : Surroundings) (path : String) : (i : Nat) → List WrittenRule →
    List Place
  | _, [] => []
  | i, rule :: rules =>
    ⟨rule, path ++ "/patterns[" ++ toString i ++ "]", s⟩ :: s.listed path (i + 1) rules

/-- The places of the rules of a grammar, each in the repositories around it. -/
inductive WrittenGrammar.Holds (g : WrittenGrammar) : Place → Prop where
  | pattern {p : Place} (mem : p ∈ (Surroundings.ofGrammar g).listed g.scopeName 0 g.patterns) :
    Holds g p
  | entry {key : String} {rule : WrittenRule} (mem : (key, rule) ∈ g.repository) :
    Holds g ⟨rule, g.scopeName ++ "#" ++ key, .ofGrammar g⟩
  | patternOf {p q : Place} (outer : Holds g p)
    (mem : q ∈ p.inside.listed p.path 0 p.rule.patterns) : Holds g q
  | entryOf {p : Place} {key : String} {rule : WrittenRule} (outer : Holds g p)
    (mem : (key, rule) ∈ p.rule.repository) :
    Holds g ⟨rule, p.path ++ "/" ++ key, p.inside⟩

namespace Surroundings

variable {s s' : Surroundings} {path : String} {rules : List WrittenRule} {p : Place} {i : Nat}

theorem around_of_mem_listed (h : p ∈ s.listed path i rules) : p.around = s := by
  induction rules generalizing i with
  | nil => exact absurd h List.not_mem_nil
  | cons rule rules ih =>
    rcases List.mem_cons.1 h with rfl | h
    · rfl
    · exact ih h

theorem length_listed (s : Surroundings) (path : String) (i : Nat) (rules : List WrittenRule) :
    (s.listed path i rules).length = rules.length := by
  induction rules generalizing i with
  | nil => rfl
  | cons rule rules ih => exact congrArg Nat.succ (ih (i + 1))

/-- The rules of a list stand at the same paths whatever is around them. -/
theorem mem_listed_congr (h : p ∈ s.listed path i rules) (s' : Surroundings) :
    ⟨p.rule, p.path, s'⟩ ∈ s'.listed path i rules := by
  induction rules generalizing i with
  | nil => exact absurd h List.not_mem_nil
  | cons rule rules ih =>
    rcases List.mem_cons.1 h with rfl | h
    · exact List.mem_cons_self
    · exact List.mem_cons_of_mem _ (ih h)

theorem grammar_nested (s : Surroundings) (rule : WrittenRule) (path : String) :
    (s.nested rule path).grammar = s.grammar := by
  unfold nested
  split <;> rfl

end Surroundings

/-! ### Landmarks -/

/-- What has a number under its path. -/
inductive Landmark where
  /-- The root of a grammar. -/
  | root (g : WrittenGrammar)
  /-- An entry of a repository. -/
  | entry (rule : WrittenRule) (path : String)

namespace Landmark

/-- The path of a root is marked, so that it is not the path of a rule. -/
def path : Landmark → String
  | root g => "@" ++ g.scopeName
  | entry _ path => path

end Landmark

mutual

/-- The entries of the repositories of a rule that stands at a path, and of the rules in it. -/
def WrittenRule.entries : (path : String) → WrittenRule → List Landmark
  | path, ⟨_, _, _, _, _, _, _, _, _, _, patterns, repository, _⟩ =>
    entriesOfRules path 0 patterns ++ entriesOfRepository (path ++ "/") repository

/-- The entries of the repositories of the rules of a list, the first of which has the number `i` in
its list. -/
def entriesOfRules : (path : String) → (i : Nat) → List WrittenRule → List Landmark
  | _, _, [] => []
  | path, i, rule :: rules =>
    rule.entries (path ++ "/patterns[" ++ toString i ++ "]") ++ entriesOfRules path (i + 1) rules

/-- The entries of a repository, whose paths begin as given, and of the repositories of the rules in
them. -/
def entriesOfRepository : (front : String) → List (String × WrittenRule) → List Landmark
  | _, [] => []
  | front, (key, rule) :: entries =>
    .entry rule (front ++ key) :: rule.entries (front ++ key) ++ entriesOfRepository front entries

end

theorem WrittenRule.entries_eq (path : String) (rule : WrittenRule) :
    rule.entries path =
      entriesOfRules path 0 rule.patterns ++ entriesOfRepository (path ++ "/") rule.repository := by
  cases rule
  rw [WrittenRule.entries]

/-- The entries of the repositories of a grammar. -/
def WrittenGrammar.entries (g : WrittenGrammar) : List Landmark :=
  entriesOfRules g.scopeName 0 g.patterns ++ entriesOfRepository (g.scopeName ++ "#") g.repository

/-- The root of a grammar and the entries of its repositories. -/
def WrittenGrammar.landmarks (g : WrittenGrammar) : List Landmark := .root g :: g.entries

/-- The grammars that includes can lead to: the one that is compiled, and those of a set that do not
have its name. -/
def grammarsOf (base : WrittenGrammar) (set : GrammarSet) : List WrittenGrammar :=
  base :: set.filter (·.scopeName != base.scopeName)

/-- The roots and entries that includes can refer to. -/
def landmarksOf (base : WrittenGrammar) (set : GrammarSet) : List Landmark :=
  (grammarsOf base set).flatMap WrittenGrammar.landmarks

theorem entries_subset_of_mem_listed {s : Surroundings} {path : String} {i : Nat}
    {rules : List WrittenRule} {p : Place} (h : p ∈ s.listed path i rules) :
    p.rule.entries p.path ⊆ entriesOfRules path i rules := by
  induction rules generalizing i with
  | nil => exact absurd h List.not_mem_nil
  | cons rule rules ih =>
    rw [entriesOfRules]
    rcases List.mem_cons.1 h with rfl | h
    · exact List.subset_append_left _ _
    · exact List.Subset.trans (ih h) (List.subset_append_right _ _)

theorem entries_subset_of_mem_repository {front key : String} {rule : WrittenRule}
    {repository : Repository} (h : (key, rule) ∈ repository) :
    .entry rule (front ++ key) :: rule.entries (front ++ key) ⊆
      entriesOfRepository front repository := by
  induction repository with
  | nil => exact absurd h List.not_mem_nil
  | cons entry entries ih =>
    rw [entriesOfRepository]
    rcases List.mem_cons.1 h with rfl | h
    · exact List.subset_append_left _ _
    · exact List.Subset.trans (ih h) (List.subset_append_right _ _)

namespace WrittenGrammar

variable {g : WrittenGrammar} {p : Place}

/-- What stands in a rule of a grammar stands in the grammar. -/
theorem Holds.entries_subset (h : g.Holds p) : p.rule.entries p.path ⊆ g.entries := by
  induction h with
  | pattern hmem => exact fun l hl =>
    List.mem_append_left _ (entries_subset_of_mem_listed hmem hl)
  | entry hmem => exact fun l hl =>
    List.mem_append_right _ (entries_subset_of_mem_repository hmem (List.mem_cons_of_mem _ hl))
  | @patternOf p q _ hmem ih =>
    rw [p.rule.entries_eq p.path, List.append_subset] at ih
    exact fun l hl => ih.1 (entries_subset_of_mem_listed hmem hl)
  | @entryOf p key rule _ hmem ih =>
    rw [p.rule.entries_eq p.path, List.append_subset] at ih
    exact fun l hl => ih.2 (entries_subset_of_mem_repository hmem (List.mem_cons_of_mem _ hl))

theorem mem_entries_of_mem_repository {key : String} {rule : WrittenRule}
    (h : (key, rule) ∈ g.repository) : .entry rule (g.scopeName ++ "#" ++ key) ∈ g.entries :=
  List.mem_append_right _ (entries_subset_of_mem_repository h List.mem_cons_self)

theorem Holds.mem_entries {key : String} {rule : WrittenRule} (hp : g.Holds p)
    (h : (key, rule) ∈ p.rule.repository) : .entry rule (p.path ++ "/" ++ key) ∈ g.entries := by
  refine hp.entries_subset ?_
  rw [p.rule.entries_eq p.path]
  exact List.mem_append_right _ (entries_subset_of_mem_repository h List.mem_cons_self)

/-! ### Surroundings in which rules are met -/

/-- Repositories of a grammar, one in the other, as they are while it is compiled: outermost its own
and each nested one somewhere inside those that are around it in the grammar. -/
inductive Stacks (g : WrittenGrammar) : List (Repository × String) → Prop where
  | own : Stacks g [(g.repository, g.scopeName ++ "#")]
  | nested {rule : WrittenRule} {path : String} {lexical : Surroundings}
    {repositories : List (Repository × String)} (holds : g.Holds ⟨rule, path, lexical⟩)
    (sublist : lexical.repositories.Sublist repositories) (stacked : Stacks g repositories) :
    Stacks g ((rule.repository, path ++ "/") :: repositories)

/-- A place of a grammar, with other surroundings than those in which it stands: all repositories
around it are there, in their order. -/
structure MeetsFrom (g : WrittenGrammar) (lexical : Surroundings) (p : Place) : Prop where
  holds : g.Holds ⟨p.rule, p.path, lexical⟩
  grammar_eq : p.around.grammar = g
  sublist : lexical.repositories.Sublist p.around.repositories
  stacked : g.Stacks p.around.repositories

/-- A place of a grammar as it is met while the grammar is compiled. -/
def Meets (g : WrittenGrammar) (p : Place) : Prop := ∃ lexical, g.MeetsFrom lexical p

theorem MeetsFrom.stacked_inside {lexical : Surroundings} (h : g.MeetsFrom lexical p) :
    g.Stacks p.inside.repositories := by
  unfold Place.inside Surroundings.nested
  split
  · exact h.stacked
  · exact .nested h.holds h.sublist h.stacked

theorem MeetsFrom.sublist_inside {lexical : Surroundings} (h : g.MeetsFrom lexical p) :
    (lexical.nested p.rule p.path).repositories.Sublist p.inside.repositories := by
  unfold Place.inside Surroundings.nested
  split
  · exact h.sublist
  · exact h.sublist.cons_cons _

/-- The patterns of a rule that is met are met. -/
theorem MeetsFrom.listed {lexical : Surroundings} (h : g.MeetsFrom lexical p) {q : Place}
    (hq : q ∈ p.inside.listed p.path 0 p.rule.patterns) :
    g.MeetsFrom (lexical.nested p.rule p.path) q := by
  have haround := Surroundings.around_of_mem_listed hq
  constructor
  case holds => exact h.holds.patternOf (Surroundings.mem_listed_congr hq _)
  case grammar_eq =>
    rw [haround]
    exact (Surroundings.grammar_nested _ _ _).trans h.grammar_eq
  case sublist => rw [haround]; exact h.sublist_inside
  case stacked => rw [haround]; exact h.stacked_inside

/-- The patterns of a grammar are met where they stand. -/
theorem meetsFrom_of_mem_listed
    (h : p ∈ (Surroundings.ofGrammar g).listed g.scopeName 0 g.patterns) :
    g.MeetsFrom (.ofGrammar g) p := by
  have haround := Surroundings.around_of_mem_listed h
  constructor
  case holds => exact .pattern (Surroundings.mem_listed_congr h _)
  case grammar_eq => rw [haround]; rfl
  case sublist => exact haround ▸ List.Sublist.refl _
  case stacked => rw [haround]; exact .own

theorem lookup_mem {α : Type} {key : String} {value : α} {entries : List (String × α)}
    (h : entries.lookup key = some value) : (key, value) ∈ entries := by
  obtain ⟨front, back, rfl, -⟩ := List.lookup_eq_some_iff.1 h
  exact List.mem_append_right _ List.mem_cons_self

/-- What is looked up in stacked repositories is an entry of the grammar, and the repositories
around it are among them. -/
theorem Stacks.lookupIn {repositories : List (Repository × String)} (h : g.Stacks repositories)
    {key path : String} {rule : WrittenRule}
    (hlookup : Surroundings.lookupIn key repositories = some (rule, path)) :
    .entry rule path ∈ g.entries ∧ ∃ lexical, g.Holds ⟨rule, path, lexical⟩ ∧
      lexical.repositories.Sublist repositories := by
  induction h with
  | own =>
    rw [Surroundings.lookupIn] at hlookup
    split at hlookup
    · rename_i found hfound
      obtain ⟨rfl, rfl⟩ := Prod.mk.inj (Option.some.inj hlookup)
      have hmem := lookup_mem hfound
      exact ⟨mem_entries_of_mem_repository hmem, _, .entry hmem, .refl _⟩
    · exact absurd hlookup (by simp [Surroundings.lookupIn])
  | @nested outer _ _ _ hp hsublist _ ih =>
    rw [Surroundings.lookupIn] at hlookup
    split at hlookup
    · rename_i found hfound
      obtain ⟨rfl, rfl⟩ := Prod.mk.inj (Option.some.inj hlookup)
      have hmem := lookup_mem hfound
      refine ⟨hp.mem_entries hmem, _, .entryOf hp hmem, ?_⟩
      have hempty : outer.repository.isEmpty = false := by
        cases hrepository : outer.repository with
        | nil => rw [hrepository] at hmem; exact absurd hmem List.not_mem_nil
        | cons => rfl
      rw [Place.inside, Surroundings.nested, hempty]
      exact hsublist.cons_cons _
    · obtain ⟨hmem, lexical, hholds, hsub⟩ := ih hlookup
      exact ⟨hmem, lexical, hholds, hsub.cons _⟩

end WrittenGrammar

/-! ### Referents -/

namespace Referent

/-- The landmark to which an include refers. -/
def landmark : Referent → Landmark
  | root g => .root g
  | entry rule path _ => .entry rule path

/-- The root of a grammar to which includes can lead, or a rule of such a grammar as it is met. -/
def Met (base : WrittenGrammar) (set : GrammarSet) : Referent → Prop
  | root g => g ∈ grammarsOf base set
  | entry rule path around => ∃ g ∈ grammarsOf base set, g.Meets ⟨rule, path, around⟩

end Referent

/-! ### What includes refer to -/

/-- The grammar of the given name: the one that is compiled, the one in which the include stands, or
one of the set. -/
def Surroundings.named? (base : WrittenGrammar) (set : GrammarSet) (s : Surroundings)
    (scope : String) : Option WrittenGrammar :=
  if scope == base.scopeName then some base
  else if scope == s.grammar.scopeName then some s.grammar
  else set.get? scope

/-- The root of a grammar, or an entry of its own repository. -/
def WrittenGrammar.referent? (g : WrittenGrammar) : Option String → Option Referent
  | none => some (.root g)
  | some key => ((Surroundings.ofGrammar g).lookup key).map fun (rule, path) =>
    .entry rule path (.ofGrammar g)

section Include

variable {base : WrittenGrammar} {set : GrammarSet} {g : WrittenGrammar}

theorem Surroundings.referent?_grammar (s : Surroundings) (scope : String) (key? : Option String) :
    s.referent? base set (.grammar scope key?) =
      (s.named? base set scope).bind fun g => g.referent? key? := by
  have hown (g : WrittenGrammar) : g.referent? key? = (do
      match key? with
      | none => return .root g
      | some key =>
        let other := ofGrammar g
        let (rule, path) ← other.lookup key
        return .entry rule path other) := by
    cases key? with
    | none => rfl
    | some key => exact Option.map_eq_bind
  simp only [hown]
  rw [referent?, named?]
  split
  · rfl
  · split <;> rfl

theorem mem_landmarksOf {l : Landmark} (hg : g ∈ grammarsOf base set) (h : l ∈ g.landmarks) :
    l ∈ landmarksOf base set := List.mem_flatMap.2 ⟨g, hg, h⟩

theorem Surroundings.named?_mem {s : Surroundings} {scope : String}
    (hs : s.grammar ∈ grammarsOf base set) (h : s.named? base set scope = some g) :
    g ∈ grammarsOf base set := by
  unfold named? at h
  split at h
  · obtain rfl := Option.some.inj h
    exact List.mem_cons_self
  · rename_i hscope
    split at h
    · obtain rfl := Option.some.inj h
      exact hs
    · have hname : g.scopeName = scope := by simpa using List.find?_some h
      refine List.mem_cons_of_mem _ (List.mem_filter.2 ⟨List.mem_of_find?_eq_some h, ?_⟩)
      rw [hname]
      simpa using hscope

/-- An entry that is looked up where its grammar is met. -/
theorem WrittenGrammar.Stacks.met_entry {s : Surroundings} (h : g.Stacks s.repositories)
    (hg : g ∈ grammarsOf base set) (hgrammar : s.grammar = g) {key path : String}
    {rule : WrittenRule} (hlookup : s.lookup key = some (rule, path)) :
    (Referent.entry rule path s).Met base set ∧
      (Referent.entry rule path s).landmark ∈ landmarksOf base set := by
  obtain ⟨hmem, lexical, hholds, hsub⟩ := h.lookupIn hlookup
  exact ⟨⟨g, hg, lexical, hholds, hgrammar, hsub, h⟩,
    mem_landmarksOf hg (List.mem_cons_of_mem _ hmem)⟩

theorem met_root (hg : g ∈ grammarsOf base set) :
    (Referent.root g).Met base set ∧ (Referent.root g).landmark ∈ landmarksOf base set :=
  ⟨hg, mem_landmarksOf hg List.mem_cons_self⟩

/-- **An include refers to a landmark**, from wherever it is looked up. -/
theorem WrittenGrammar.Stacks.referent {s : Surroundings} (h : g.Stacks s.repositories)
    (hg : g ∈ grammarsOf base set) (hgrammar : s.grammar = g) {target : Include} {r : Referent}
    (hr : s.referent? base set target = some r) :
    r.Met base set ∧ r.landmark ∈ landmarksOf base set := by
  cases target with
  | self =>
    obtain rfl := Option.some.inj hr
    exact met_root (hgrammar ▸ hg)
  | base =>
    obtain rfl := Option.some.inj hr
    exact met_root List.mem_cons_self
  | entry key =>
    obtain ⟨⟨rule, path⟩, hlookup, rfl⟩ := Option.map_eq_some_iff.1 hr
    exact h.met_entry hg hgrammar hlookup
  | grammar scope key? =>
    rw [Surroundings.referent?_grammar] at hr
    obtain ⟨other, hother, hr⟩ := Option.bind_eq_some_iff.1 hr
    have hmem := Surroundings.named?_mem (hgrammar ▸ hg) hother
    cases key? with
    | none =>
      obtain rfl := Option.some.inj hr
      exact met_root hmem
    | some key =>
      obtain ⟨⟨rule, path⟩, hlookup, rfl⟩ := Option.map_eq_some_iff.1 hr
      exact met_entry .own hmem rfl hlookup

end Include

end Highlight
