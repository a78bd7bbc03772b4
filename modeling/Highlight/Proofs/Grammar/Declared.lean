import Highlight.Proofs.Grammar.Landmarks
import Mathlib.Data.List.Nodup
import Mathlib.Data.List.Pairwise
import Mathlib.Data.List.Perm.Subperm

/-!
# No repository is around a rule twice

The repositories that are compiled with a landmark are its own and those of the rules in its
patterns; the paths of their entries are **declared** by it (`Landmark.declared`).  Every path of an
entry is declared once (`count_landmarksOf`), so where the paths of all landmarks are distinct, so
are the declared ones (`DistinctPaths.declared`).

While a grammar is compiled, a landmark is entered only if its path has no number yet.  By then no
repository that is compiled with it is around anything (`Clear.enter`), so the entries of the
repositories around a rule have distinct paths whenever it is met.
-/

namespace Highlight

/-! ### Declared paths -/

/-- The paths of the entries of a repository, which begin as given. -/
def Repository.paths (front : String) (repository : Repository) : List String :=
  repository.map fun entry => front ++ entry.1

mutual

/-- The paths of the entries of the repositories that are compiled with a rule. -/
def WrittenRule.declared : (path : String) → WrittenRule → List String
  | path, ⟨_, _, _, _, _, _, _, _, _, _, patterns, repository, _⟩ =>
    Repository.paths (path ++ "/") repository ++ declaredOfRules path 0 patterns

/-- The paths of the entries of the repositories that are compiled with the rules of a list, the
first of which has the number `i` in its list. -/
def declaredOfRules : (path : String) → (i : Nat) → List WrittenRule → List String
  | _, _, [] => []
  | path, i, rule :: rules =>
    rule.declared (path ++ "/patterns[" ++ toString i ++ "]") ++ declaredOfRules path (i + 1) rules

end

theorem WrittenRule.declared_eq (path : String) (rule : WrittenRule) :
    rule.declared path =
      Repository.paths (path ++ "/") rule.repository ++ declaredOfRules path 0 rule.patterns := by
  cases rule
  rw [WrittenRule.declared]

/-- The paths of the entries of the repositories that are compiled with a landmark.  The repository
of a grammar itself is compiled with none. -/
def Landmark.declared : Landmark → List String
  | root g => declaredOfRules g.scopeName 0 g.patterns
  | entry rule path => rule.declared path

/-- The paths of the entries of a grammar's own repository. -/
def WrittenGrammar.ownPaths (g : WrittenGrammar) : List String :=
  Repository.paths (g.scopeName ++ "#") g.repository

theorem declared_sublist_of_mem_listed {s : Surroundings} {path : String} {i : Nat}
    {rules : List WrittenRule} {p : Place} (h : p ∈ s.listed path i rules) :
    (p.rule.declared p.path).Sublist (declaredOfRules path i rules) := by
  induction rules generalizing i with
  | nil => exact absurd h List.not_mem_nil
  | cons rule rules ih =>
    rw [declaredOfRules]
    rcases List.mem_cons.1 h with rfl | h
    · exact List.sublist_append_left _ _
    · exact (ih h).trans (List.sublist_append_right _ _)

/-! ### Every path is declared once -/

mutual

theorem WrittenRule.count_entries (x path : String) : (rule : WrittenRule) →
    ((rule.entries path).map Landmark.path).count x =
      (rule.declared path).count x + ((rule.entries path).flatMap Landmark.declared).count x
  | ⟨_, _, _, _, _, _, _, _, _, _, patterns, repository, _⟩ => by
    have hpatterns := count_entriesOfRules x path 0 patterns
    have hrepository := count_entriesOfRepository x (path ++ "/") repository
    rw [WrittenRule.entries, WrittenRule.declared, List.map_append, List.flatMap_append,
      List.count_append, List.count_append, List.count_append]
    omega

theorem count_entriesOfRules (x path : String) (i : Nat) : (rules : List WrittenRule) →
    ((entriesOfRules path i rules).map Landmark.path).count x =
      (declaredOfRules path i rules).count x +
        ((entriesOfRules path i rules).flatMap Landmark.declared).count x
  | [] => rfl
  | rule :: rules => by
    have hrule := rule.count_entries x (path ++ "/patterns[" ++ toString i ++ "]")
    have hrules := count_entriesOfRules x path (i + 1) rules
    rw [entriesOfRules, declaredOfRules, List.map_append, List.flatMap_append, List.count_append,
      List.count_append, List.count_append]
    omega

theorem count_entriesOfRepository (x front : String) : (repository : List (String × WrittenRule)) →
    ((entriesOfRepository front repository).map Landmark.path).count x =
      (Repository.paths front repository).count x +
        ((entriesOfRepository front repository).flatMap Landmark.declared).count x
  | [] => rfl
  | (key, rule) :: entries => by
    have hrule := rule.count_entries x (front ++ key)
    have hentries := count_entriesOfRepository x front entries
    have hpaths : Repository.paths front ((key, rule) :: entries) =
        (front ++ key) :: Repository.paths front entries := rfl
    rw [entriesOfRepository, hpaths, List.map_append, List.flatMap_append, List.map_cons,
      List.flatMap_cons, List.count_append, List.count_append, List.count_append, List.count_cons,
      List.count_cons, Landmark.declared, Landmark.path]
    omega

end

theorem WrittenGrammar.count_landmarks (x : String) (g : WrittenGrammar) :
    (g.landmarks.map Landmark.path).count x = [(Landmark.root g).path].count x +
      (g.ownPaths.count x + (g.landmarks.flatMap Landmark.declared).count x) := by
  have hpatterns := count_entriesOfRules x g.scopeName 0 g.patterns
  have hrepository := count_entriesOfRepository x (g.scopeName ++ "#") g.repository
  rw [landmarks, entries, List.map_cons, List.flatMap_cons, List.map_append, List.flatMap_append,
    List.count_cons, List.count_append, List.count_append, List.count_append,
    List.count_singleton, Landmark.declared, ownPaths]
  omega

/-- Every path of a landmark is that of a root or of an entry of a grammar's own repository, or is
declared. -/
theorem count_landmarksOf (x : String) (grammars : List WrittenGrammar) :
    ((grammars.flatMap WrittenGrammar.landmarks).map Landmark.path).count x =
      (grammars.map fun g => (Landmark.root g).path).count x +
        ((grammars.flatMap WrittenGrammar.ownPaths).count x +
          ((grammars.flatMap WrittenGrammar.landmarks).flatMap Landmark.declared).count x) := by
  induction grammars with
  | nil => rfl
  | cons g grammars ih =>
    have hg := g.count_landmarks x
    rw [List.count_singleton] at hg
    rw [List.flatMap_cons, List.flatMap_cons, List.map_append, List.flatMap_append, List.map_cons,
      List.count_append, List.count_append, List.count_append, List.count_cons]
    omega

/-! ### Distinct paths -/

section

variable {base : WrittenGrammar} {set : GrammarSet} {l l' : Landmark} {g : WrittenGrammar}

/-- No two landmarks have the same path. -/
def DistinctPaths (base : WrittenGrammar) (set : GrammarSet) : Prop :=
  ((landmarksOf base set).map Landmark.path).Nodup

instance : Decidable (DistinctPaths base set) := List.nodupDecidable _

namespace DistinctPaths

theorem eq_of_path_eq (h : DistinctPaths base set) (hl : l ∈ landmarksOf base set)
    (hl' : l' ∈ landmarksOf base set) (hpath : l.path = l'.path) : l = l' :=
  List.inj_on_of_nodup_map h hl hl' hpath

/-- Where landmarks have distinct paths, no path is declared twice. -/
theorem declared (h : DistinctPaths base set) :
    ((grammarsOf base set).flatMap WrittenGrammar.ownPaths ++
      (landmarksOf base set).flatMap Landmark.declared).Nodup := by
  rw [List.nodup_iff_count_le_one]
  intro x
  have hpaths := List.nodup_iff_count_le_one.1 h x
  rw [landmarksOf, count_landmarksOf] at hpaths
  rw [List.count_append, landmarksOf]
  omega

theorem nodup_declared (h : DistinctPaths base set) (hl : l ∈ landmarksOf base set) :
    l.declared.Nodup :=
  (List.nodup_flatMap.1 (List.nodup_append'.1 h.declared).2.1).1 l hl

theorem disjoint_declared (h : DistinctPaths base set) (hl : l ∈ landmarksOf base set)
    (hl' : l' ∈ landmarksOf base set) (hne : l ≠ l') : l.declared.Disjoint l'.declared := by
  have hpairs := (List.nodup_flatMap.1 (List.nodup_append'.1 h.declared).2.1).2
  have : Std.Symm (Function.onFun List.Disjoint Landmark.declared) :=
    ⟨fun _ _ h _ hx hx' => h hx' hx⟩
  exact hpairs.forall hl hl' hne

theorem nodup_ownPaths (h : DistinctPaths base set) (hg : g ∈ grammarsOf base set) :
    g.ownPaths.Nodup :=
  (List.nodup_flatMap.1 (List.nodup_append'.1 h.declared).1).1 g hg

theorem disjoint_ownPaths (h : DistinctPaths base set) (hl : l ∈ landmarksOf base set)
    (hg : g ∈ grammarsOf base set) : l.declared.Disjoint g.ownPaths := by
  intro x hx hx'
  exact (List.nodup_append'.1 h.declared).2.2 (List.mem_flatMap.2 ⟨g, hg, hx'⟩)
    (List.mem_flatMap.2 ⟨l, hl, hx⟩)

end DistinctPaths

/-! ### Paths around a rule -/

/-- The paths of the entries of the repositories around a rule. -/
def Surroundings.paths (s : Surroundings) : List String :=
  s.repositories.flatMap fun (repository, front) => Repository.paths front repository

theorem Surroundings.paths_ofGrammar (g : WrittenGrammar) :
    (ofGrammar g).paths = g.ownPaths := List.append_nil _

theorem Surroundings.paths_nested (s : Surroundings) (rule : WrittenRule) (path : String) :
    (s.nested rule path).paths = Repository.paths (path ++ "/") rule.repository ++ s.paths := by
  unfold nested
  split
  · rename_i hempty
    rw [List.isEmpty_iff.1 hempty]
    rfl
  · rfl

theorem nodup_of_subperm {α : Type} {xs ys : List α} (hsub : ys.Subperm xs) (h : xs.Nodup) :
    ys.Nodup := by
  obtain ⟨zs, hperm, hsublist⟩ := hsub
  exact hperm.nodup_iff.1 (h.sublist hsublist)

/-- The paths that are distinct where a rule is met: those that are declared with it, and those
around it. -/
def Place.paths (p : Place) : List String := p.rule.declared p.path ++ p.around.paths

theorem Place.inside_paths_subperm (p : Place) : p.inside.paths.Subperm p.paths := by
  rw [inside, Surroundings.paths_nested, paths, WrittenRule.declared_eq]
  exact ((List.sublist_append_left _ _).append (.refl _)).subperm

theorem Place.paths_subperm_of_mem_listed {p q : Place}
    (h : q ∈ p.inside.listed p.path 0 p.rule.patterns) : q.paths.Subperm p.paths := by
  rw [paths, Surroundings.around_of_mem_listed h, inside, Surroundings.paths_nested, paths,
    WrittenRule.declared_eq p.path p.rule, List.append_assoc]
  refine (List.perm_append_comm_assoc _ _ _).subperm.trans ?_
  exact (((declared_sublist_of_mem_listed h).append (.refl _)).append_left _).subperm

theorem Place.paths_subperm_of_mem_root {p : Place}
    (h : p ∈ (Surroundings.ofGrammar g).listed g.scopeName 0 g.patterns) :
    p.paths.Subperm ((Landmark.root g).declared ++ g.ownPaths) := by
  rw [paths, Surroundings.around_of_mem_listed h, Surroundings.paths_ofGrammar]
  exact ((declared_sublist_of_mem_listed h).append (.refl _)).subperm

/-- Where the paths of landmarks are distinct, so are the given ones, and none of them is declared
with a landmark whose path has no number. -/
def Clear (base : WrittenGrammar) (set : GrammarSet) (known : List (String × RuleId))
    (paths : List String) : Prop :=
  DistinctPaths base set → paths.Nodup ∧
    ∀ l ∈ landmarksOf base set, known.lookup l.path = none → l.declared.Disjoint paths

namespace Clear

variable {known known' : List (String × RuleId)} {xs ys : List String}

theorem mono (h : Clear base set known xs)
    (hknown : ∀ path id, known.lookup path = some id → known'.lookup path = some id) :
    Clear base set known' xs := by
  intro hdistinct
  obtain ⟨hnodup, hdisjoint⟩ := h hdistinct
  refine ⟨hnodup, fun l hl hnew => hdisjoint l hl ?_⟩
  rw [Option.eq_none_iff_forall_ne_some]
  intro id hid
  rw [hknown _ _ hid] at hnew
  exact absurd hnew (by simp)

theorem of_subperm (h : Clear base set known xs) (hsub : ys.Subperm xs) :
    Clear base set known ys := by
  intro hdistinct
  obtain ⟨hnodup, hdisjoint⟩ := h hdistinct
  exact ⟨nodup_of_subperm hsub hnodup, fun l hl hnew =>
    List.disjoint_of_subset_right hsub.subset (hdisjoint l hl hnew)⟩

theorem ownPaths (hg : g ∈ grammarsOf base set) (known : List (String × RuleId)) :
    Clear base set known g.ownPaths := fun hdistinct =>
  ⟨hdistinct.nodup_ownPaths hg, fun _ hl _ => hdistinct.disjoint_ownPaths hl hg⟩

/-- What is declared with a landmark that is entered for the first time is not around anything. -/
theorem enter (h : Clear base set known xs) (hl : l ∈ landmarksOf base set)
    (hnew : known.lookup l.path = none) (id : RuleId) :
    Clear base set ((l.path, id) :: known) (l.declared ++ xs) := by
  intro hdistinct
  obtain ⟨hnodup, hdisjoint⟩ := h hdistinct
  refine ⟨(hdistinct.nodup_declared hl).append hnodup (hdisjoint l hl hnew), fun l' hl' hnew' => ?_⟩
  rw [List.lookup_cons] at hnew'
  split at hnew'
  · exact absurd hnew' (by simp)
  · rename_i hpath
    -- a landmark without a number is another one, and declares other paths
    refine List.disjoint_append_right.2 ⟨?_, hdisjoint l' hl' hnew'⟩
    refine hdistinct.disjoint_declared hl' hl ?_
    rintro rfl
    exact absurd hpath (by simp)

end Clear

/-! ### Paths around what is included -/

namespace Referent

/-- The paths of the entries of the repositories around a root or a rule. -/
def paths : Referent → List String
  | root g => g.ownPaths
  | entry _ _ around => around.paths

/-- Where the paths of landmarks are distinct, so are those that are declared with a root or a rule
and those around it. -/
def Tidy (base : WrittenGrammar) (set : GrammarSet) (r : Referent) : Prop :=
  DistinctPaths base set → (r.landmark.declared ++ r.paths).Nodup

end Referent

/-- What is around an include, or around an entry of another grammar, is clear. -/
theorem Surroundings.clear_referent {s : Surroundings} {known : List (String × RuleId)}
    (hs : Clear base set known s.paths) (hgrammar : s.grammar ∈ grammarsOf base set)
    {target : Include} {r : Referent} (hr : s.referent? base set target = some r) :
    Clear base set known r.paths := by
  cases target with
  | self =>
    obtain rfl := Option.some.inj hr
    exact .ownPaths hgrammar known
  | base =>
    obtain rfl := Option.some.inj hr
    exact .ownPaths List.mem_cons_self known
  | entry key =>
    obtain ⟨entry, -, rfl⟩ := Option.map_eq_some_iff.1 hr
    exact hs
  | grammar scope key? =>
    rw [referent?_grammar] at hr
    obtain ⟨other, hother, hr⟩ := Option.bind_eq_some_iff.1 hr
    have hmem := named?_mem hgrammar hother
    cases key? with
    | none =>
      obtain rfl := Option.some.inj hr
      exact .ownPaths hmem known
    | some key =>
      obtain ⟨entry, -, rfl⟩ := Option.map_eq_some_iff.1 hr
      rw [Referent.paths, paths_ofGrammar]
      exact .ownPaths hmem known

end

end Highlight
