import Highlight.Proofs.Grammar.Account

/-!
# Paths of landmarks

The path of an entry is the name of its grammar, and after it a part for every rule around the entry
and one for the entry: the key of an entry after `#` in a grammar's own repository and after `/` in
others, and the number of a pattern after `/`.  Where no name of a grammar has one of these signs,
and no key has a slash or begins like the number of a pattern (`PlainNames`), the parts can be read
off the path (`Below.eq_of_below`), so no two landmarks have the same path
(`PlainNames.distinctPaths`).

Then the number of an include is never that of something else (`Grammar.includes_referent`).  A key
with a slash can be taken for a key in a nested repository (`WrittenGrammar.joined`).
-/

namespace Highlight

/-! ### Names -/

mutual

/-- The repositories of a rule and of all rules in it. -/
def WrittenRule.repositories : WrittenRule → List Repository
  | ⟨_, _, _, _, _, _, _, _, _, _, patterns, repository, _⟩ =>
    repository :: (repositoriesOfRules patterns ++ repositoriesOfEntries repository)

/-- The repositories of several rules and of all rules in them. -/
def repositoriesOfRules : List WrittenRule → List Repository
  | [] => []
  | rule :: rules => rule.repositories ++ repositoriesOfRules rules

/-- The repositories of the entries of a repository and of all rules in them. -/
def repositoriesOfEntries : List (String × WrittenRule) → List Repository
  | [] => []
  | (_, rule) :: entries => rule.repositories ++ repositoriesOfEntries entries

end

/-- The repositories of a grammar. -/
def WrittenGrammar.repositories (g : WrittenGrammar) : List Repository :=
  g.repository :: (repositoriesOfRules g.patterns ++ repositoriesOfEntries g.repository)

/-- A key that has no slash and does not begin like the number of a pattern. -/
def PlainKey (key : String) : Prop :=
  '/' ∉ key.toList ∧ ¬ "patterns[".toList <+: key.toList

instance (key : String) : Decidable (PlainKey key) := inferInstanceAs (Decidable (_ ∧ _))

/-- A repository in which every key is there once, and can be told from the number of a pattern. -/
def Repository.Plain (repository : Repository) : Prop :=
  (repository.map Prod.fst).Nodup ∧ ∀ entry ∈ repository, PlainKey entry.1

instance (repository : Repository) : Decidable repository.Plain :=
  inferInstanceAs (Decidable (_ ∧ _))

/-- A name of a grammar that can be told from what follows it in a path. -/
def WrittenGrammar.PlainScope (g : WrittenGrammar) : Prop :=
  '/' ∉ g.scopeName.toList ∧ '#' ∉ g.scopeName.toList

instance (g : WrittenGrammar) : Decidable g.PlainScope := inferInstanceAs (Decidable (_ ∧ _))

/-- Grammars of different names, each with a plain name and with repositories of plain keys. -/
structure PlainNames (base : WrittenGrammar) (set : GrammarSet) : Prop where
  distinct : ((grammarsOf base set).map (·.scopeName)).Nodup
  scope : ∀ g ∈ grammarsOf base set, g.PlainScope
  plain : ∀ g ∈ grammarsOf base set, ∀ repository ∈ g.repositories, repository.Plain

/-! ### Parts of a path -/

/-- A path is the given one, or goes on after it with a slash. -/
def Below (front path : List Char) : Prop :=
  ∃ rest, path = front ++ rest ∧ (rest = [] ∨ ∃ more, rest = '/' :: more)

namespace Below

variable {front a b path : List Char}

theorem refl (front : List Char) : Below front front := ⟨[], (List.append_nil _).symm, .inl rfl⟩

theorem of_slash {rest : List Char} (h : path = front ++ '/' :: rest) : Below front path :=
  ⟨_, h, .inr ⟨rest, rfl⟩⟩

theorem takeWhile_eq (ha : '/' ∉ a) (h : Below a path) : path.takeWhile (· != '/') = a := by
  obtain ⟨rest, rfl, hrest⟩ := h
  have hall (c : Char) (hc : c ∈ a) : (c != '/') = true := by
    rw [bne_iff_ne]
    rintro rfl
    exact ha hc
  rw [List.takeWhile_append_of_pos hall]
  rcases hrest with rfl | ⟨more, rfl⟩ <;> simp

/-- The part that follows can be read off a path. -/
theorem eq_of_below (ha : '/' ∉ a) (hb : '/' ∉ b) (h : Below (front ++ a) path)
    (h' : Below (front ++ b) path) : a = b := by
  obtain ⟨rest, rfl, hrest⟩ := h
  obtain ⟨rest', heq, hrest'⟩ := h'
  rw [List.append_assoc, List.append_assoc] at heq
  have heq := List.append_cancel_left heq
  rw [← takeWhile_eq ha ⟨rest, rfl, hrest⟩, ← takeWhile_eq hb ⟨rest', rfl, hrest'⟩, heq]

end Below

/-- The part of a path for the pattern of the given number. -/
def patternPart (i : Nat) : List Char := ("patterns[" ++ toString i ++ "]").toList

theorem slash_notMem_patternPart (i : Nat) : '/' ∉ patternPart i := by
  intro h
  simp only [patternPart, String.toList_append, List.mem_append] at h
  rcases h with (h | h) | h
  · exact absurd h (by decide)
  · have hdigit := Nat.isDigit_of_mem_toDigits (by decide) (Nat.le_refl 10)
      (show '/' ∈ Nat.toDigits 10 i by simpa [Nat.toString_eq_repr, Nat.repr] using h)
    exact absurd hdigit (by decide)
  · exact absurd h (by decide)

theorem patternPart_injective {i j : Nat} (h : patternPart i = patternPart j) : i = j := by
  simp only [patternPart, String.toList_append] at h
  have hdigits := List.append_cancel_left (List.append_cancel_right h)
  have hvalue := congrArg (fun digits => Nat.ofDigitChars 10 digits 0) hdigits
  simpa [Nat.toString_eq_ofList_toDigits] using hvalue

theorem patternPart_ne {key : String} (hkey : PlainKey key) (i : Nat) :
    patternPart i ≠ key.toList := by
  intro h
  refine hkey.2 ?_
  rw [← h, patternPart, String.append_assoc, String.toList_append]
  exact List.prefix_append _ _

theorem toList_patternPath (path : String) (i : Nat) :
    (path ++ "/patterns[" ++ toString i ++ "]").toList = path.toList ++ '/' :: patternPart i := by
  simp [patternPart]

/-! ### Paths of entries -/

theorem below_of_mem_entry {path : String} {rule : WrittenRule}
    (h : ∀ l ∈ rule.entries path, ∃ rest, l.path.toList = path.toList ++ '/' :: rest)
    {l : Landmark} (hl : l ∈ Landmark.entry rule path :: rule.entries path) :
    Below path.toList l.path.toList := by
  rcases List.mem_cons.1 hl with rfl | hl
  · exact .refl _
  · obtain ⟨rest, hrest⟩ := h l hl
    exact .of_slash hrest

mutual

/-- The entries of the repositories in a rule stand below it. -/
theorem WrittenRule.slash_of_mem_entries (path : String) : (rule : WrittenRule) →
    ∀ l ∈ rule.entries path, ∃ rest, l.path.toList = path.toList ++ '/' :: rest
  | ⟨_, _, _, _, _, _, _, _, _, _, patterns, repository, _⟩ => by
    intro l hl
    rw [WrittenRule.entries] at hl
    rcases List.mem_append.1 hl with hl | hl
    · obtain ⟨j, -, rest, hrest⟩ := below_of_mem_entriesOfRules path 0 patterns l hl
      exact ⟨_, by rw [hrest.1, List.append_assoc, List.cons_append]⟩
    · obtain ⟨entry, -, rest, hrest⟩ :=
        below_of_mem_entriesOfRepository (path ++ "/") repository l hl
      refine ⟨entry.1.toList ++ rest, ?_⟩
      rw [hrest.1]
      simp

theorem below_of_mem_entriesOfRules (path : String) (i : Nat) : (rules : List WrittenRule) →
    ∀ l ∈ entriesOfRules path i rules,
      ∃ j, i ≤ j ∧ Below (path.toList ++ '/' :: patternPart j) l.path.toList
  | [] => fun _ hl => absurd hl List.not_mem_nil
  | rule :: rules => by
    intro l hl
    rw [entriesOfRules] at hl
    rcases List.mem_append.1 hl with hl | hl
    · obtain ⟨rest, hrest⟩ := rule.slash_of_mem_entries _ l hl
      rw [toList_patternPath] at hrest
      exact ⟨i, Nat.le_refl i, .of_slash hrest⟩
    · obtain ⟨j, hj, hbelow⟩ := below_of_mem_entriesOfRules path (i + 1) rules l hl
      exact ⟨j, Nat.le_of_succ_le hj, hbelow⟩

theorem below_of_mem_entriesOfRepository (front : String) :
    (repository : List (String × WrittenRule)) → ∀ l ∈ entriesOfRepository front repository,
      ∃ entry ∈ repository, Below (front.toList ++ entry.1.toList) l.path.toList
  | [] => fun _ hl => absurd hl List.not_mem_nil
  | (key, rule) :: entries => by
    intro l hl
    rw [entriesOfRepository] at hl
    rcases List.mem_append.1 hl with hl | hl
    · refine ⟨_, List.mem_cons_self, ?_⟩
      rw [← String.toList_append]
      exact below_of_mem_entry (rule.slash_of_mem_entries _) hl
    · obtain ⟨entry, hentry, hbelow⟩ := below_of_mem_entriesOfRepository front entries l hl
      exact ⟨entry, List.mem_cons_of_mem _ hentry, hbelow⟩

end

/-- Lists of landmarks have no path in common if what is below the paths of the one is not below
those of the other. -/
theorem disjoint_map_path {ls ls' : List Landmark}
    (h : ∀ l ∈ ls, ∀ l' ∈ ls', l.path ≠ l'.path) :
    (ls.map Landmark.path).Disjoint (ls'.map Landmark.path) := by
  intro path hpath hpath'
  obtain ⟨l, hl, rfl⟩ := List.mem_map.1 hpath
  obtain ⟨l', hl', heq⟩ := List.mem_map.1 hpath'
  exact h l hl l' hl' heq.symm

theorem Repository.Plain.tail {entry : String × WrittenRule} {entries : List (String × WrittenRule)}
    (h : Repository.Plain (entry :: entries)) : Repository.Plain entries :=
  ⟨(List.nodup_cons.1 h.1).2, fun e he => h.2 e (List.mem_cons_of_mem _ he)⟩

mutual

theorem WrittenRule.nodup_entries (path : String) : (rule : WrittenRule) →
    (∀ repository ∈ rule.repositories, repository.Plain) →
      ((rule.entries path).map Landmark.path).Nodup
  | ⟨_, _, _, _, _, _, _, _, _, _, patterns, repository, _⟩ => by
    intro h
    rw [WrittenRule.repositories, List.forall_mem_cons, List.forall_mem_append] at h
    obtain ⟨hplain, hpatterns, hentries⟩ := h
    rw [WrittenRule.entries, List.map_append, List.nodup_append']
    refine ⟨nodup_entriesOfRules path 0 patterns hpatterns,
      nodup_entriesOfRepository (path ++ "/") repository hplain hentries,
      disjoint_map_path fun l hl l' hl' heq => ?_⟩
    -- the key of an entry is not the number of a pattern
    obtain ⟨j, -, hbelow⟩ := below_of_mem_entriesOfRules path 0 patterns l hl
    obtain ⟨entry, hentry, hbelow'⟩ := below_of_mem_entriesOfRepository _ repository l' hl'
    rw [heq, List.append_cons] at hbelow
    rw [String.toList_append] at hbelow'
    have hkey := hplain.2 entry hentry
    exact patternPart_ne hkey j
      (Below.eq_of_below (slash_notMem_patternPart j) hkey.1 hbelow hbelow')

theorem nodup_entriesOfRules (path : String) (i : Nat) : (rules : List WrittenRule) →
    (∀ repository ∈ repositoriesOfRules rules, repository.Plain) →
      ((entriesOfRules path i rules).map Landmark.path).Nodup
  | [] => fun _ => List.nodup_nil
  | rule :: rules => by
    intro h
    rw [repositoriesOfRules, List.forall_mem_append] at h
    rw [entriesOfRules, List.map_append, List.nodup_append']
    refine ⟨rule.nodup_entries _ h.1, nodup_entriesOfRules path (i + 1) rules h.2,
      disjoint_map_path fun l hl l' hl' heq => ?_⟩
    obtain ⟨rest, hrest⟩ := rule.slash_of_mem_entries _ l hl
    obtain ⟨j, hj, hbelow⟩ := below_of_mem_entriesOfRules path (i + 1) rules l' hl'
    rw [toList_patternPath] at hrest
    have hbelow' := Below.of_slash hrest
    rw [heq, List.append_cons] at hbelow'
    rw [List.append_cons] at hbelow
    have := patternPart_injective (Below.eq_of_below (slash_notMem_patternPart j)
      (slash_notMem_patternPart i) hbelow hbelow')
    omega

theorem nodup_entriesOfRepository (front : String) : (repository : List (String × WrittenRule)) →
    Repository.Plain repository →
      (∀ r ∈ repositoriesOfEntries repository, Repository.Plain r) →
        ((entriesOfRepository front repository).map Landmark.path).Nodup
  | [] => fun _ _ => List.nodup_nil
  | (key, rule) :: entries => by
    intro hplain h
    rw [repositoriesOfEntries, List.forall_mem_append] at h
    rw [entriesOfRepository, List.map_append, List.nodup_append']
    refine ⟨List.nodup_cons.2 ⟨fun hmem => ?_, rule.nodup_entries _ h.1⟩,
      nodup_entriesOfRepository front entries hplain.tail h.2,
      disjoint_map_path fun l hl l' hl' heq => ?_⟩
    · -- what stands in an entry has a longer path
      obtain ⟨l, hl, hpath⟩ := List.mem_map.1 hmem
      obtain ⟨rest, hrest⟩ := rule.slash_of_mem_entries _ l hl
      rw [hpath] at hrest
      have hlength := congrArg List.length hrest
      rw [List.length_append, List.length_cons] at hlength
      exact absurd hlength (by simp [Landmark.path])
    · have hbelow := below_of_mem_entry (rule.slash_of_mem_entries _) hl
      obtain ⟨entry, hentry, hbelow'⟩ := below_of_mem_entriesOfRepository _ entries l' hl'
      rw [heq, String.toList_append] at hbelow
      have hkey := hplain.2 _ (List.mem_cons_of_mem _ hentry)
      have hsame := Below.eq_of_below (hplain.2 _ List.mem_cons_self).1 hkey.1 hbelow hbelow'
      -- the keys of a repository are distinct
      refine (List.nodup_cons.1 hplain.1).1 (List.mem_map.2 ⟨entry, hentry, ?_⟩)
      exact (String.toList_injective hsame).symm

end

/-! ### Paths of landmarks -/

/-- A sign that follows the name of a grammar in the path of an entry. -/
def IsSign (c : Char) : Prop := c = '/' ∨ c = '#'

namespace WrittenGrammar

variable {g g' : WrittenGrammar} {l : Landmark}

theorem sign_of_mem_entries (hl : l ∈ g.entries) :
    ∃ c rest, IsSign c ∧ l.path.toList = g.scopeName.toList ++ c :: rest := by
  rcases List.mem_append.1 hl with hl | hl
  · obtain ⟨j, -, rest, hrest, -⟩ := below_of_mem_entriesOfRules g.scopeName 0 g.patterns l hl
    exact ⟨'/', _, .inl rfl, by rw [hrest, List.append_assoc, List.cons_append]⟩
  · obtain ⟨entry, -, rest, hrest, -⟩ :=
      below_of_mem_entriesOfRepository (g.scopeName ++ "#") g.repository l hl
    refine ⟨'#', entry.1.toList ++ rest, .inr rfl, ?_⟩
    rw [hrest]
    simp

theorem nodup_entries (h : ∀ repository ∈ g.repositories, repository.Plain) :
    (g.entries.map Landmark.path).Nodup := by
  rw [repositories, List.forall_mem_cons, List.forall_mem_append] at h
  obtain ⟨hplain, hpatterns, hentries⟩ := h
  rw [entries, List.map_append, List.nodup_append']
  refine ⟨nodup_entriesOfRules _ 0 g.patterns hpatterns,
    nodup_entriesOfRepository _ g.repository hplain hentries,
    disjoint_map_path fun l hl l' hl' heq => ?_⟩
  obtain ⟨j, -, rest, hrest, -⟩ := below_of_mem_entriesOfRules g.scopeName 0 g.patterns l hl
  obtain ⟨entry, -, rest', hrest', -⟩ :=
    below_of_mem_entriesOfRepository (g.scopeName ++ "#") g.repository l' hl'
  rw [heq, hrest'] at hrest
  simp at hrest

theorem PlainScope.not_isSign (h : g.PlainScope) {c : Char} (hc : c ∈ g.scopeName.toList) :
    ¬IsSign c := by
  rintro (rfl | rfl)
  · exact h.1 hc
  · exact h.2 hc

/-- The path of a root is not that of an entry. -/
theorem path_root_ne (hg : g.PlainScope) (hl : l ∈ g'.entries) :
    (Landmark.root g).path ≠ l.path := by
  intro heq
  obtain ⟨c, rest, hc, hpath⟩ := sign_of_mem_entries hl
  have hmem : c ∈ (Landmark.root g).path.toList := by
    rw [heq, hpath]
    exact List.mem_append_right _ List.mem_cons_self
  rw [Landmark.path, String.toList_append] at hmem
  rcases List.mem_append.1 hmem with hmem | hmem
  · obtain rfl : c = '@' := by simpa using hmem
    exact absurd hc (by simp [IsSign])
  · exact hg.not_isSign hmem hc

theorem nodup_landmarks (hg : g.PlainScope) (h : ∀ repository ∈ g.repositories, repository.Plain) :
    (g.landmarks.map Landmark.path).Nodup := by
  refine List.nodup_cons.2 ⟨fun hmem => ?_, nodup_entries h⟩
  obtain ⟨l, hl, heq⟩ := List.mem_map.1 hmem
  exact path_root_ne hg hl heq.symm

theorem takeWhile_path (hg : g.PlainScope) (hl : l ∈ g.entries) :
    l.path.toList.takeWhile (fun c => c != '/' && c != '#') = g.scopeName.toList := by
  obtain ⟨c, rest, hc, hpath⟩ := sign_of_mem_entries hl
  have hall (c : Char) (hmem : c ∈ g.scopeName.toList) : (c != '/' && c != '#') = true := by
    have := hg.not_isSign hmem
    simpa [IsSign] using this
  rw [hpath, List.takeWhile_append_of_pos hall]
  rcases hc with rfl | rfl <;> simp

/-- Grammars of different names have no path in common. -/
theorem disjoint_landmarks (hg : g.PlainScope) (hg' : g'.PlainScope)
    (hne : g.scopeName ≠ g'.scopeName) :
    (g.landmarks.map Landmark.path).Disjoint (g'.landmarks.map Landmark.path) := by
  refine disjoint_map_path fun l hl l' hl' heq => ?_
  rcases List.mem_cons.1 hl with rfl | hl
  · rcases List.mem_cons.1 hl' with rfl | hl'
    · exact hne ((String.append_right_inj "@").1 heq)
    · exact path_root_ne hg hl' heq
  · rcases List.mem_cons.1 hl' with rfl | hl'
    · exact path_root_ne hg' hl heq.symm
    · refine hne (String.toList_injective ?_)
      rw [← takeWhile_path hg hl, ← takeWhile_path hg' hl', heq]

end WrittenGrammar

/-- **No two landmarks of grammars with plain names have the same path.** -/
theorem PlainNames.distinctPaths {base : WrittenGrammar} {set : GrammarSet}
    (h : PlainNames base set) : DistinctPaths base set := by
  rw [DistinctPaths, landmarksOf, List.map_flatMap, List.nodup_flatMap]
  refine ⟨fun g hg => WrittenGrammar.nodup_landmarks (h.scope g hg) (h.plain g hg), ?_⟩
  refine (List.pairwise_map.1 h.distinct).imp_of_mem fun hg hg' hne => ?_
  exact WrittenGrammar.disjoint_landmarks (h.scope _ hg) (h.scope _ hg') hne

/-! ### Numbers of includes -/

namespace Grammar

/-- **With plain names the number of an include is never that of something else**: no two landmarks
have the same path, and what has the number is the landmark to which the include refers. -/
theorem includes_referent {source : WrittenGrammar} {set : GrammarSet} {g : Grammar}
    (h : compile source set = .ok g) (hnames : PlainNames source set) :
    DistinctPaths source set ∧ ∃ a : Account, a.Accounts source set g ∧
      ∀ r ∈ a.origins, ∀ p ∈ r.listed, ∀ target r' id, p.rule.target = some target →
        (Include.ofText? target).bind (p.around.referent? source set) = some r' →
          a.Denotes source set p id →
            ∃ r'', a.origins[id]? = some r'' ∧ r''.landmark = r'.landmark := by
  obtain ⟨a, ha⟩ := exists_account h
  refine ⟨hnames.distinctPaths, a, ha, ?_⟩
  intro r hr p hp target r' id htarget hreferent hid
  obtain ⟨r'', horigin, -, hlandmark⟩ := ha.origin_of_denotes hr hp htarget hreferent hid
  exact ⟨r'', horigin, hlandmark hnames.distinctPaths⟩

end Grammar

/-- Parentheses with an entry of their own. -/
def WrittenRule.enclosing : WrittenRule where
  beginPattern := some "\\("
  endPattern := some "\\)"
  name := some "a"
  patterns := [.including "#b"]
  repository := [("b", .matching "x" "inner")]

/-- Parentheses with an entry of their own, and another entry with the given key. -/
def WrittenGrammar.joined (scopeName key : String) (patterns : List WrittenRule) :
    WrittenGrammar where
  scopeName := scopeName
  patterns := .including "#a" :: patterns
  repository := [("a", .enclosing), (key, .matching "y" "outer")]

namespace Grammar

/-- Two grammars with the same keys: the second pattern of the first is its entry of that key. -/
theorem includes_referent_joined :
    ∃ g, compile (.joined "text" "c" [.including "#c", .including "other"])
          [.joined "other" "c" [.including "#c"]] = .ok g ∧
      PlainNames (.joined "text" "c" [.including "#c", .including "other"])
          [.joined "other" "c" [.including "#c"]] ∧
        ∃ a : Account,
          a.Accounts (.joined "text" "c" [.including "#c", .including "other"])
            [.joined "other" "c" [.including "#c"]] g ∧
          ∃ id around,
            a.Denotes (.joined "text" "c" [.including "#c", .including "other"])
              [.joined "other" "c" [.including "#c"]]
              ⟨.including "#c", "text/patterns[1]", .ofGrammar (.joined "text" "c"
                [.including "#c", .including "other"])⟩ id ∧
            a.origins[id]? = some (.entry (.matching "y" "outer") "text#c" around) := by
  have hok : (compile (.joined "text" "c" [.including "#c", .including "other"])
      [.joined "other" "c" [.including "#c"]]).toOption.any (fun _ => true) = true := by
    decide +kernel
  have hnames : PlainNames (.joined "text" "c" [.including "#c", .including "other"])
      [.joined "other" "c" [.including "#c"]] :=
    ⟨by decide +kernel, by decide +kernel, by decide +kernel⟩
  obtain ⟨g, hg, -⟩ := exists_ok_of_any hok
  obtain ⟨-, a, ha, hincludes⟩ := includes_referent hg hnames
  refine ⟨g, hg, hnames, a, ha, ?_⟩
  have hroot := List.mem_of_getElem? ha.root_eq
  have hp : ⟨.including "#c", "text/patterns[1]", .ofGrammar (.joined "text" "c"
      [.including "#c", .including "other"])⟩ ∈ (Referent.root (.joined "text" "c"
        [.including "#c", .including "other"])).listed :=
    List.mem_cons_of_mem _ List.mem_cons_self
  obtain ⟨id, hid⟩ := ha.exists_denotes hroot hp
  have htext : Include.ofText? "#c" = some (.entry "c") := by decide +kernel
  obtain ⟨r, horigin, hlandmark⟩ := hincludes _ hroot _ hp "#c" (.entry (.matching "y" "outer")
    "text#c" (.ofGrammar _)) id rfl (by rw [htext]; rfl) hid
  cases r with
  | root => exact absurd hlandmark (by simp [Referent.landmark])
  | entry rule path around =>
    obtain ⟨rfl, rfl⟩ := Landmark.entry.inj hlandmark
    exact ⟨id, around, hid, horigin⟩

/-- A key with a slash is taken for the key of an entry in parentheses: both have one path, and the
include of the one has the number of the other. -/
theorem not_distinctPaths_joined :
    landmarksOf (.joined "text" "a/b" [.including "#a/b"]) [] =
        [.root (.joined "text" "a/b" [.including "#a/b"]), .entry .enclosing "text#a",
          .entry (.matching "x" "inner") "text#a/b", .entry (.matching "y" "outer") "text#a/b"] ∧
      ¬ DistinctPaths (.joined "text" "a/b" [.including "#a/b"]) [] ∧
      ((Surroundings.ofGrammar (.joined "text" "a/b" [.including "#a/b"])).lookup "a/b" =
        some (.matching "y" "outer", "text#a/b")) ∧
      (compile (.joined "text" "a/b" [.including "#a/b"]) []).toOption.map outline =
        some [(none, [1, 2]), (some "a", [2]), (some "inner", [])] :=
  ⟨rfl, by decide +kernel, rfl, by decide +kernel⟩

end Grammar

end Highlight
