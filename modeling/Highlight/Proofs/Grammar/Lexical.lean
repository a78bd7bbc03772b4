import Highlight.Proofs.Grammar.Account

/-!
# Includes of entries

An include of an entry is looked up in the repositories around the rule as it is met.  Those around
it in the grammar are among them, in their order, and no repository is there twice; so what is found
is the entry of the innermost repository around the rule in the grammar, unless a repository that is
not around it there has an entry of the same key (`WrittenGrammar.MeetsFrom.lookup_eq`).

An entry is compiled in the surroundings of the include by which it is first reached.  If the key
is **shadowed**, by a nested repository from which the entry around an include is reached first, the
include refers to the entry there, and with the patterns in another order it may refer to another
one (`WrittenGrammar.shadowing`).
-/

namespace Highlight

namespace WrittenGrammar

variable {g : WrittenGrammar} {key : String} {p : Place} {lexical : Surroundings}

/-- Every nested repository that has an entry of the key is among those around. -/
def Unshadowed (g : WrittenGrammar) (key : String) (s : Surroundings) : Prop :=
  ∀ p, g.Holds p → (p.rule.repository.lookup key).isSome →
    (p.rule.repository, p.path ++ "/") ∈ s.repositories

/-- The repository of a grammar is around every rule of it. -/
theorem Holds.own_mem (h : g.Holds p) :
    (g.repository, g.scopeName ++ "#") ∈ p.around.repositories := by
  have hinside (q : Place) (hq : (g.repository, g.scopeName ++ "#") ∈ q.around.repositories) :
      (g.repository, g.scopeName ++ "#") ∈ q.inside.repositories := by
    unfold Place.inside Surroundings.nested
    split
    · exact hq
    · exact List.mem_cons_of_mem _ hq
  induction h with
  | pattern hmem =>
    rw [Surroundings.around_of_mem_listed hmem]
    exact List.mem_cons_self
  | entry => exact List.mem_cons_self
  | patternOf _ hmem ih =>
    rw [Surroundings.around_of_mem_listed hmem]
    exact hinside _ ih
  | entryOf _ _ ih => exact hinside _ ih

/-- The repositories around a rule as it is met are nested repositories of the grammar, and its
own. -/
theorem Stacks.mem {repositories : List (Repository × String)} (h : g.Stacks repositories)
    {x : Repository × String} (hx : x ∈ repositories) :
    x = (g.repository, g.scopeName ++ "#") ∨
      ∃ p, g.Holds p ∧ x = (p.rule.repository, p.path ++ "/") := by
  induction h with
  | own => exact .inl (List.mem_singleton.1 hx)
  | nested hholds _ _ ih =>
    rcases List.mem_cons.1 hx with rfl | hx
    · exact .inr ⟨_, hholds, rfl⟩
    · exact ih hx

end WrittenGrammar

namespace Surroundings

variable {key : String}

theorem mem_paths_of_isSome {repository : Repository} (front : String)
    (h : (repository.lookup key).isSome) : front ++ key ∈ Repository.paths front repository := by
  obtain ⟨rule, hrule⟩ := Option.isSome_iff_exists.1 h
  exact List.mem_map.2 ⟨_, WrittenGrammar.lookup_mem hrule, rfl⟩

theorem lookupIn_cons_of_eq_none {repository : Repository} (front : String)
    (h : repository.lookup key = none) (outer : List (Repository × String)) :
    lookupIn key ((repository, front) :: outer) = lookupIn key outer := by
  rw [lookupIn, h]

/-- Repositories that do not have the key make no difference, as long as no other is there twice. -/
theorem lookupIn_eq_of_sublist {some all : List (Repository × String)} (hsub : some.Sublist all)
    (hnodup : (all.flatMap fun x => Repository.paths x.2 x.1).Nodup)
    (hkey : ∀ x ∈ all, (x.1.lookup key).isSome → x ∈ some) :
    lookupIn key all = lookupIn key some := by
  induction hsub with
  | slnil => rfl
  | @cons some all x hsub ih =>
    obtain ⟨repository, front⟩ := x
    rw [List.flatMap_cons, List.nodup_append'] at hnodup
    obtain ⟨-, hall, hdisjoint⟩ := hnodup
    have hnone : repository.lookup key = none := by
      rw [← Option.not_isSome_iff_eq_none]
      intro hsome
      -- it would be among the others once more
      have hmem := hsub.subset (hkey _ List.mem_cons_self hsome)
      have hpath := mem_paths_of_isSome front hsome
      exact hdisjoint hpath (List.mem_flatMap.2 ⟨_, hmem, hpath⟩)
    rw [lookupIn_cons_of_eq_none front hnone]
    exact ih hall fun x hx => hkey x (List.mem_cons_of_mem _ hx)
  | @cons_cons some all x hsub ih =>
    obtain ⟨repository, front⟩ := x
    cases hlookup : repository.lookup key with
    | some rule => rw [lookupIn, lookupIn, hlookup]
    | none =>
      rw [lookupIn_cons_of_eq_none front hlookup, lookupIn_cons_of_eq_none front hlookup]
      rw [List.flatMap_cons, List.nodup_append'] at hnodup
      refine ih hnodup.2.1 fun x hx hsome => ?_
      rcases List.mem_cons.1 (hkey x (List.mem_cons_of_mem _ hx) hsome) with rfl | hmem
      · rw [hlookup] at hsome
        exact absurd hsome (by simp)
      · exact hmem

end Surroundings

namespace WrittenGrammar

variable {g : WrittenGrammar} {key : String} {p : Place} {lexical : Surroundings}

/-- **Where a key is not shadowed, it is looked up as if only the repositories around the rule in
the grammar were there.** -/
theorem MeetsFrom.lookup_eq (h : g.MeetsFrom lexical p) (hnodup : p.around.paths.Nodup)
    (hkey : p.around = lexical ∨ g.Unshadowed key lexical) :
    p.around.lookup key = lexical.lookup key := by
  rcases hkey with rfl | hkey
  · rfl
  · refine Surroundings.lookupIn_eq_of_sublist h.sublist hnodup fun x hx hsome => ?_
    rcases h.stacked.mem hx with rfl | ⟨q, hq, rfl⟩
    · exact h.holds.own_mem
    · exact hkey q hq hsome

end WrittenGrammar

namespace Grammar

variable {source : WrittenGrammar} {set : GrammarSet} {g : Grammar}

/-- **An include of an entry denotes the one of the innermost repository around it**, if it is met
where it stands, or if no repository that is not around it has an entry of the key; whichever
include led to it, and in whichever order. -/
theorem includes_innermost (h : compile source set = .ok g)
    (hdistinct : DistinctPaths source set) :
    ∃ a : Account, a.Accounts source set g ∧ ∀ r ∈ a.origins, ∀ p ∈ r.listed,
      (∃ n ∈ grammarsOf source set, ∃ lexical, n.MeetsFrom lexical p) ∧
        ∀ key (n : WrittenGrammar) lexical id,
          p.rule.target.bind Include.ofText? = some (.entry key) → n.MeetsFrom lexical p →
            p.around = lexical ∨ n.Unshadowed key lexical → a.Denotes source set p id →
              ∃ rule path around, lexical.lookup key = some (rule, path) ∧
                a.origins[id]? = some (.entry rule path around) := by
  obtain ⟨a, ha⟩ := exists_account h
  refine ⟨a, ha, fun r hr p hp => ⟨(ha.met r hr).exists_meetsFrom hp, ?_⟩⟩
  intro key n lexical id hkey hmeets hunshadowed hdenotes
  obtain ⟨target, htarget, htext⟩ := Option.bind_eq_some_iff.1 hkey
  have hlookup := hmeets.lookup_eq ((ha.tidy r hr).nodup_paths hdistinct hp) hunshadowed
  obtain ⟨r', hreferent⟩ := hdenotes.exists_referent htarget
  obtain ⟨r'', horigin, -, hlandmark⟩ := ha.origin_of_denotes hr hp htarget hreferent hdenotes
  rw [htext] at hreferent
  obtain ⟨⟨rule, path⟩, hfound, rfl⟩ := Option.map_eq_some_iff.1 hreferent
  cases r'' with
  | root => exact absurd (hlandmark hdistinct) (by simp [Referent.landmark])
  | entry rule' path' around =>
    obtain ⟨rfl, rfl⟩ := Landmark.entry.inj (hlandmark hdistinct)
    exact ⟨_, _, around, hlookup.symm.trans hfound, horigin⟩

end Grammar

/-! ### A key in a nested repository -/

/-- A key with which no path of an entry ends, after a slash, is in no nested repository. -/
theorem WrittenGrammar.unshadowed_of_entries {n : WrittenGrammar} {key : String}
    (h : ∀ l ∈ n.entries, ¬ ('/' :: key.toList) <:+ l.path.toList) (s : Surroundings) :
    n.Unshadowed key s := by
  intro p hp hsome
  obtain ⟨rule, hrule⟩ := Option.isSome_iff_exists.1 hsome
  refine absurd ⟨p.path.toList, ?_⟩ (h _ (hp.mem_entries (lookup_mem hrule)))
  simp [Landmark.path]

/-- Parentheses around a word. -/
def WrittenRule.parentheses : WrittenRule where
  beginPattern := some "\\("
  endPattern := some "\\)"
  name := some "parentheses"
  patterns := [.including "#word"]

/-- Brackets with an entry of their own, in which parentheses are allowed; and the rules of which
the grammar consists. -/
def WrittenGrammar.shadowing (key first second : String) : WrittenGrammar where
  scopeName := "text"
  patterns := [.including first, .including second]
  repository := [
    ("brackets", {
      beginPattern := some "<"
      endPattern := some ">"
      name := some "brackets"
      patterns := [.including "#parentheses"]
      repository := [(key, .matching "x" "inner")] }),
    ("parentheses", .parentheses),
    ("word", .matching "x" "outer")]

theorem WrittenGrammar.holds_parentheses (key first second : String) :
    (shadowing key first second).Holds
      ⟨.parentheses, "text#parentheses", .ofGrammar (shadowing key first second)⟩ := by
  have hpath : "text" ++ "#" ++ "parentheses" = "text#parentheses" := by decide +kernel
  rw [← hpath]
  exact .entry (List.mem_cons_of_mem _ List.mem_cons_self)

theorem Place.mem_listed_parentheses (s : Surroundings) :
    ⟨.including "#word", "text#parentheses/patterns[0]", s⟩ ∈
      (Place.inside ⟨.parentheses, "text#parentheses", s⟩).listed "text#parentheses" 0
        WrittenRule.parentheses.patterns := by
  have hpath : "text#parentheses" ++ "/patterns[" ++ toString 0 ++ "]" =
    "text#parentheses/patterns[0]" := by decide +kernel
  rw [← hpath]
  exact List.mem_cons_self

namespace Grammar

/-- Parentheses are first met in brackets, and there what the brackets call by another key does not
stand for the word in parentheses. -/
theorem includes_innermost_digit :
    ∃ g, compile (.shadowing "digit" "#brackets" "#parentheses") [] = .ok g ∧
      DistinctPaths (.shadowing "digit" "#brackets" "#parentheses") [] ∧
        ∃ a : Account, a.Accounts (.shadowing "digit" "#brackets" "#parentheses") [] g ∧
          ∃ s id around,
            a.Denotes (.shadowing "digit" "#brackets" "#parentheses") []
              ⟨.including "#word", "text#parentheses/patterns[0]", s⟩ id ∧
            a.origins[id]? = some (.entry (.matching "x" "outer") "text#word" around) := by
  have hok : (compile (.shadowing "digit" "#brackets" "#parentheses") []).toOption.any
      (fun _ => true) = true := by
    decide +kernel
  have hkey : ∀ l ∈ (WrittenGrammar.shadowing "digit" "#brackets" "#parentheses").entries,
      ¬ ('/' :: "word".toList) <:+ l.path.toList := by
    decide +kernel
  have hdistinct : DistinctPaths (.shadowing "digit" "#brackets" "#parentheses") [] := by
    decide +kernel
  obtain ⟨g, hg, -⟩ := exists_ok_of_any hok
  obtain ⟨a, ha, hincludes⟩ := includes_innermost hg hdistinct
  refine ⟨g, hg, hdistinct, a, ha, ?_⟩
  -- the second pattern of the root is an include of the parentheses, and stands where it is met
  have hroot : Referent.root (.shadowing "digit" "#brackets" "#parentheses") ∈ a.origins :=
    List.mem_of_getElem? ha.root_eq
  have hp : ⟨.including "#parentheses", _, .ofGrammar _⟩ ∈
      (Referent.root (.shadowing "digit" "#brackets" "#parentheses")).listed :=
    List.mem_cons_of_mem _ List.mem_cons_self
  obtain ⟨id, hid⟩ := ha.exists_denotes hroot hp
  obtain ⟨rule, path, around, hlookup, horigin⟩ := (hincludes _ hroot _ hp).2 "parentheses" _ _ id
    (by decide +kernel) (WrittenGrammar.meetsFrom_of_mem_listed hp) (.inl rfl) hid
  have hparentheses : (Surroundings.ofGrammar
      (.shadowing "digit" "#brackets" "#parentheses")).lookup "parentheses" =
        some (.parentheses, "text#parentheses") := rfl
  obtain ⟨rfl, rfl⟩ := Prod.mk.inj (Option.some.inj (hlookup.symm.trans hparentheses))
  -- in them is an include of a word, whatever is around them
  have hmem := List.mem_of_getElem? horigin
  obtain ⟨n, hn, lexical, hmeets⟩ := ha.met _ hmem
  obtain rfl := List.mem_singleton.1 hn
  have hmeets' : (WrittenGrammar.shadowing "digit" "#brackets" "#parentheses").MeetsFrom
      (.ofGrammar _) ⟨.parentheses, "text#parentheses", around⟩ :=
    ⟨WrittenGrammar.holds_parentheses _ _ _, hmeets.grammar_eq,
      List.singleton_sublist.2 (hmeets.sublist.subset hmeets.holds.own_mem), hmeets.stacked⟩
  have hword := Place.mem_listed_parentheses around
  have htext : Include.ofText? "#word" = some (.entry "word") := by decide +kernel
  obtain ⟨id, hid⟩ := ha.exists_denotes hmem hword
  obtain ⟨rule, path, around', hlookup, horigin⟩ := (hincludes _ hmem _ hword).2 "word" _ _ id
    htext (hmeets'.listed hword) (.inr (WrittenGrammar.unshadowed_of_entries hkey _)) hid
  have houter : (Surroundings.ofGrammar (.shadowing "digit" "#brackets" "#parentheses")).lookup
      "word" = some (.matching "x" "outer", "text#word") := rfl
  obtain ⟨rfl, rfl⟩ := Prod.mk.inj (Option.some.inj (hlookup.symm.trans houter))
  exact ⟨around, id, around', hid, horigin⟩

/-- If the brackets have a word of their own, then it stands in parentheses that are first met in
brackets, though these are not around them; with the patterns in another order it does not. -/
theorem not_innermost_shadowing :
    (WrittenGrammar.shadowing "word" "#brackets" "#parentheses").Holds
        ⟨.including "#word", "text#parentheses/patterns[0]",
          .ofGrammar (.shadowing "word" "#brackets" "#parentheses")⟩ ∧
      (Surroundings.ofGrammar (.shadowing "word" "#brackets" "#parentheses")).lookup "word" =
        some (.matching "x" "outer", "text#word") ∧
      (compile (.shadowing "word" "#brackets" "#parentheses") []).toOption.map outline =
        some [(none, [1, 2]), (some "brackets", [2]), (some "parentheses", [3]),
          (some "inner", [])] ∧
      (compile (.shadowing "word" "#parentheses" "#brackets") []).toOption.map outline =
        some [(none, [1, 3]), (some "parentheses", [2]), (some "outer", []),
          (some "brackets", [1])] :=
  ⟨.patternOf (WrittenGrammar.holds_parentheses _ _ _) (Place.mem_listed_parentheses _), rfl,
    by decide +kernel, by decide +kernel⟩

end Grammar

end Highlight
