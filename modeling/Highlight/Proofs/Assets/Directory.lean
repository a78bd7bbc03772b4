import Highlight.Assets.Directory
import Mathlib.Data.List.Induction

/-!
# Grammar files of languages

A directory of assets takes the grammar of a scope name from the file of the last language with that
scope name (`AssetDirectory.grammarFile?_ofLanguages`), whereas the languages themselves give the
first one.  So both know the same scope names, and they mean the same file just where the first and
the last language with a scope name have their grammar in one file
(`AssetDirectory.agrees_byScope?`).
-/

namespace Highlight.AssetDirectory

variable {d : AssetDirectory} {r : Languages} {scope : String}

/-- A file that is taken for a scope name is the file of that one, and changes no other. -/
theorem grammarFile?_withGrammarFile (d : AssetDirectory) (name file scope : String) :
    (d.withGrammarFile name file).grammarFile? scope =
      if scope = name then some file else d.grammarFile? scope := by
  unfold withGrammarFile grammarFile?
  rw [List.lookup_cons]
  by_cases hname : scope = name
  · rw [if_pos hname, hname, beq_self_eq_true]
  · rw [if_neg hname, beq_false_of_ne hname]
    show (d.grammarFiles.filter (·.1 != name)).lookup scope = d.grammarFiles.lookup scope
    induction d.grammarFiles with
    | nil => rfl
    | cons entry entries ih =>
      by_cases hentry : entry.1 = name
      · -- an entry of the given name is dropped, and it was not the one looked for
        have hother : (scope == entry.1) = false := beq_false_of_ne (hentry ▸ hname)
        rw [List.filter_cons_of_neg (by simpa using hentry), List.lookup_cons, hother, ih]
      · rw [List.filter_cons_of_pos (by simpa using hentry), List.lookup_cons, List.lookup_cons, ih]

/-- The file of a scope name is that of the last language with it. -/
theorem grammarFile?_ofLanguages (root : String) (r : Languages) (scope : String) :
    (ofLanguages root r).grammarFile? scope =
      (Languages.byScope? r.reverse scope).map Language.grammarPath := by
  induction r using List.reverseRecOn with
  | nil => rfl
  | append_singleton r l ih =>
    have hlast : ofLanguages root (r ++ [l]) =
        (ofLanguages root r).withGrammarFile l.scopeName l.grammarPath := by
      rw [ofLanguages, ofLanguages, List.foldl_append, List.foldl_cons, List.foldl_nil]
    rw [hlast, grammarFile?_withGrammarFile, ih, List.reverse_append, List.reverse_singleton,
      List.singleton_append, Languages.byScope?, Languages.byScope?, List.find?_cons]
    by_cases hscope : l.scopeName = scope
    · rw [if_pos hscope.symm, beq_iff_eq.2 hscope]
      rfl
    · rw [if_neg (Ne.symm hscope), beq_false_of_ne hscope]

theorem root_ofLanguages (root : String) (r : Languages) : (ofLanguages root r).root = root := by
  induction r using List.reverseRecOn with
  | nil => rfl
  | append_singleton r l ih =>
    rw [ofLanguages, List.foldl_append]
    exact ih

/-- The grammar of a scope name is what its file holds. -/
theorem grammar_assets (d : AssetDirectory) (files : Files) (scope : String) :
    (d.assets files).grammar scope =
      match d.grammarFile? scope with
      | none => .error (.notFound scope)
      | some file => readAsset WrittenGrammar.ofText files (d.grammarPath file) := by
  have hlookup : (d.assets files).grammars.lookup scope = (d.grammarFile? scope).map fun file =>
      readAsset WrittenGrammar.ofText files (d.grammarPath file) := by
    show (d.grammarFiles.map fun entry =>
      (entry.1, readAsset WrittenGrammar.ofText files (d.grammarPath entry.2))).lookup scope = _
    unfold grammarFile?
    induction d.grammarFiles with
    | nil => rfl
    | cons entry entries ih =>
      rw [List.map_cons, List.lookup_cons, List.lookup_cons]
      cases scope == entry.1 with
      | true => rfl
      | false => exact ih
  rw [Assets.grammar, hlookup]
  cases d.grammarFile? scope <;> rfl

/-- From behind the same scope names are known. -/
theorem byScope?_reverse_eq_none_iff :
    Languages.byScope? r.reverse scope = none ↔ r.byScope? scope = none := by
  rw [Languages.byScope?, Languages.byScope?, List.find?_eq_none, List.find?_eq_none]
  simp only [List.mem_reverse]

/-- From behind the last language with a scope name comes first. -/
theorem byScope?_reverse_of_last {front back : List Language} {last : Language}
    (hlast : last.scopeName = scope) (hback : ∀ l ∈ back, l.scopeName ≠ scope) :
    Languages.byScope? (front ++ last :: back).reverse scope = some last := by
  rw [Languages.byScope?, List.find?_eq_some_iff_append]
  refine ⟨beq_iff_eq.2 hlast, back.reverse, front.reverse, by simp, ?_⟩
  intro l hl
  simpa using hback l (List.mem_reverse.1 hl)

/-- **A directory and its languages know the same scope names, and mean the same file where the
first and the last language with a scope name do.**  The directory takes the file of the last one,
and gives what is in that file for the grammar of the scope name. -/
theorem agrees_byScope? (root : String) (r : Languages) (scope : String) (files : Files) :
    ((ofLanguages root r).grammarFile? scope).isSome = (r.byScope? scope).isSome ∧
    ((ofLanguages root r).grammarFile? scope = (r.byScope? scope).map Language.grammarPath ↔
      ∀ first last, r.byScope? scope = some first →
        Languages.byScope? r.reverse scope = some last → first.grammarPath = last.grammarPath) ∧
    (r.byScope? scope = none →
      ((ofLanguages root r).assets files).grammar scope = .error (.notFound scope)) ∧
    ∀ front last back, r = front ++ last :: back → last.scopeName = scope →
      (∀ l ∈ back, l.scopeName ≠ scope) →
        (ofLanguages root r).grammarFile? scope = some last.grammarPath ∧
        ((ofLanguages root r).assets files).grammar scope = readAsset WrittenGrammar.ofText files
          (Path.join (Path.join root "grammars") last.grammarPath) := by
  have hfile := grammarFile?_ofLanguages root r scope
  have hassets := grammar_assets (ofLanguages root r) files scope
  refine ⟨?_, ?_, fun hnone => ?_, ?_⟩
  · rw [hfile, Option.isSome_map, Bool.eq_iff_iff, Option.isSome_iff_ne_none,
      Option.isSome_iff_ne_none, Ne, byScope?_reverse_eq_none_iff]
  · rw [hfile]
    cases hfirst : r.byScope? scope with
    | none =>
      rw [byScope?_reverse_eq_none_iff.2 hfirst]
      constructor
      · intro _ first last h
        cases h
      · intro _
        rfl
    | some first =>
      cases hlast : Languages.byScope? r.reverse scope with
      | none => exact absurd (byScope?_reverse_eq_none_iff.1 hlast) (by simp [hfirst])
      | some last =>
        simp only [Option.map_some, Option.some.injEq]
        constructor
        · rintro hpath _ _ rfl rfl
          exact hpath.symm
        · intro hpath
          exact (hpath first last rfl rfl).symm
  · rw [hassets, hfile, byScope?_reverse_eq_none_iff.2 hnone]
    rfl
  · rintro front last back rfl hlast hback
    rw [byScope?_reverse_of_last hlast hback] at hfile
    refine ⟨hfile, ?_⟩
    rw [hassets, hfile]
    show readAsset _ files (Path.join (Path.join (ofLanguages _ _).root _) _) = _
    rw [root_ofLanguages]

/-- A language with the scope name of the one that is always there. -/
def sharing : LanguageRegistration where
  id := "forum"
  scopeName := "text.bbcode"
  grammarPath := some "other.json"

/-- The directory takes the file of the language that came later. -/
theorem agrees_byScope?_sharing (files : Files) :
    Languages.ofRegistrations [sharing] = [.bbcode] ++ Language.ofRegistration sharing :: [] ∧
      (ofLanguages "assets" (.ofRegistrations [sharing])).grammarFile? "text.bbcode" =
        some "other.json" ∧
      ((ofLanguages "assets" (.ofRegistrations [sharing])).assets files).grammar "text.bbcode" =
        readAsset WrittenGrammar.ofText files "assets/grammars/other.json" := by
  have hall : Languages.ofRegistrations [sharing] =
      [.bbcode] ++ Language.ofRegistration sharing :: [] := by decide
  obtain ⟨-, -, -, hlast⟩ :=
    agrees_byScope? "assets" (.ofRegistrations [sharing]) "text.bbcode" files
  obtain ⟨hfile, hgrammar⟩ := hlast _ _ _ hall rfl (List.forall_mem_nil _)
  exact ⟨hall, hfile, hgrammar⟩

/-- The languages give the one that was there first for a scope name that two of them share, and the
directory does not take the file of that one. -/
theorem not_agrees_sharing :
    ¬ ∀ (root : String) (entries : List LanguageRegistration) (scope : String) (l : Language),
      (Languages.ofRegistrations entries).byScope? scope = some l →
        (ofLanguages root (.ofRegistrations entries)).grammarFile? scope = some l.grammarPath := by
  intro h
  have hfirst : (Languages.ofRegistrations [sharing]).byScope? "text.bbcode" = some .bbcode := by
    decide
  have hfile : (ofLanguages "assets" (.ofRegistrations [sharing])).grammarFile? "text.bbcode" =
      some "other.json" := by decide
  have hagrees := h "assets" [sharing] "text.bbcode" .bbcode hfirst
  exact absurd (hfile.symm.trans hagrees) (by decide)

end Highlight.AssetDirectory
