import Highlight.Assets
import Mathlib.Data.Finset.Card
import Mathlib.Data.Set.Finite.Lattice
import Mathlib.Logic.Relation

/-!
# Gathering grammars

Gathering goes in rounds, each of which meets one scope name (`Gathering.Round`).  A name is passed
over once there is a grammar of that name in the set; but what is known under a name may be a
grammar of another name, and then the name is asked for again whenever it is met.

So gathering need not end.  The argument of `Gathering.ends_iff`, which says when it does, goes as
follows.

1. From some round on no new name comes into the set, as there are only so many grammars
   (`Gathering.Settled`).
2. After that, a name that is asked for is never found, and a name that does not lead back to
   itself leads to fewer names than the one that includes it (`Gathering.reach_lt`), so everything
   that it puts on the stack is met and leaves the stack again (`Gathering.Settled.leaves`).
3. A name that leads back to itself through names that are never found is met again, with fewer
   rounds to go, each time that it has been met (`Gathering.not_returns_of_gather`).
-/

namespace Highlight

/-! ### Sets of grammars -/

namespace GrammarSet

variable {set : GrammarSet} {g : WrittenGrammar} {scope : String}

theorem has_iff : set.has scope ↔ ∃ g ∈ set, g.scopeName = scope := by
  simp [has, get?]

theorem mem_insert : g ∈ set.insert h ↔ g = h ∨ g ∈ set ∧ g.scopeName ≠ h.scopeName := by
  simp [insert]

theorem has_insert : (set.insert g).has scope ↔ g.scopeName = scope ∨ set.has scope := by
  simp only [has_iff, mem_insert]
  constructor
  · rintro ⟨h, rfl | ⟨hmem, -⟩, hname⟩
    · exact .inl hname
    · exact .inr ⟨h, hmem, hname⟩
  · rintro (hname | ⟨h, hmem, hname⟩)
    · exact ⟨g, .inl rfl, hname⟩
    · by_cases heq : h.scopeName = g.scopeName
      · exact ⟨g, .inl rfl, heq ▸ hname⟩
      · exact ⟨h, .inr ⟨hmem, heq⟩, hname⟩

end GrammarSet

/-! ### Rounds -/

/-- The scope names that are still to be met, and the grammars gathered so far. -/
structure Gathering where
  stack : List String
  set : GrammarSet

namespace Gathering

open Assets Relation

section

variable (answer : String → Except AssetError WrittenGrammar) (base : WrittenGrammar)

/-- At first the scope names that the base includes are to be met. -/
def start : Gathering := ⟨base.includedScopes.reverse, []⟩

/-- The grammar of a scope name is asked for, as it is not in the set and not the base. -/
def Asks (set : GrammarSet) (scope : String) : Prop :=
  ¬set.has scope ∧ scope ≠ base.scopeName

/-- What happens when the scope name at the top of the stack is met. -/
inductive Round : Gathering → Gathering → Prop where
  | passed {scope : String} {stack : List String} {set : GrammarSet}
    (known : ¬Asks base set scope) : Round ⟨scope :: stack, set⟩ ⟨stack, set⟩
  | missing {scope : String} {stack : List String} {set : GrammarSet} {e : AssetError}
    (asks : Asks base set scope) (answer_eq : answer scope = .error e) :
    Round ⟨scope :: stack, set⟩ ⟨stack, set⟩
  | found {scope : String} {stack : List String} {set : GrammarSet} {g : WrittenGrammar}
    (asks : Asks base set scope) (answer_eq : answer scope = .ok g) :
    Round ⟨scope :: stack, set⟩ ⟨g.includedScopes.reverse ++ stack, set.insert g⟩

/-- Any number of rounds. -/
abbrev Rounds : Gathering → Gathering → Prop := ReflTransGen (Round answer base)

/-- The scope names that are on the stack at some time. -/
def Named (scope : String) : Prop :=
  ∃ m : Gathering, Rounds answer base (start base) m ∧ scope ∈ m.stack

/-- The scope names that are passed over from some time on: that of the base, and those of the
grammars that come into the set. -/
def Found (scope : String) : Prop :=
  scope = base.scopeName ∨ ∃ m : Gathering, Rounds answer base (start base) m ∧ m.set.has scope

/-- A scope name that is never found, and one that the grammar known under it includes. -/
def Leads (scope scope' : String) : Prop :=
  ¬Found answer base scope ∧ ∃ g, answer scope = .ok g ∧ scope' ∈ g.includedScopes

/-- A scope name leads back to itself. -/
abbrev Returns (scope : String) : Prop := TransGen (Leads answer base) scope scope

end

variable {answer : String → Except AssetError WrittenGrammar} {base : WrittenGrammar}
  {m m' : Gathering} {scope : String}

theorem not_asks_iff {set : GrammarSet} :
    ¬Asks base set scope ↔ (set.has scope || scope == base.scopeName) = true := by
  rw [Asks, not_and_or, not_not, not_not, Bool.or_eq_true, beq_iff_eq]

/-- One name is met in one round. -/
theorem Round.gather_eq (h : Round answer base m m') (n : Nat) :
    gather answer base (n + 1) m.stack m.set = gather answer base n m'.stack m'.set := by
  cases h with
  | passed hknown => rw [gather, if_pos (not_asks_iff.1 hknown)]
  | missing hasks hanswer => rw [gather, if_neg (mt not_asks_iff.2 (not_not.2 hasks)), hanswer]
  | found hasks hanswer => rw [gather, if_neg (mt not_asks_iff.2 (not_not.2 hasks)), hanswer]

theorem exists_round (answer : String → Except AssetError WrittenGrammar) (base : WrittenGrammar)
    (scope : String) (stack : List String) (set : GrammarSet) :
    ∃ m', Round answer base ⟨scope :: stack, set⟩ m' := by
  by_cases hasks : Asks base set scope
  · cases hanswer : answer scope with
    | error e => exact ⟨_, .missing hasks hanswer⟩
    | ok g => exact ⟨_, .found hasks hanswer⟩
  · exact ⟨_, .passed hasks⟩

theorem Round.unique {m'' : Gathering} (h : Round answer base m m')
    (h' : Round answer base m m'') : m' = m'' := by
  cases h with
  | passed hknown =>
    cases h' with
    | passed => rfl
    | missing hasks | found hasks => exact absurd hasks hknown
  | missing hasks hanswer =>
    cases h' with
    | passed hknown => exact absurd hasks hknown
    | missing => rfl
    | found _ hanswer' => exact absurd (hanswer.symm.trans hanswer') (by simp)
  | found hasks hanswer =>
    cases h' with
    | passed hknown => exact absurd hasks hknown
    | missing _ hanswer' => exact absurd (hanswer.symm.trans hanswer') (by simp)
    | found _ hanswer' =>
      obtain rfl := Except.ok.inj (hanswer.symm.trans hanswer')
      rfl

/-- Where gathering ends, it ends after each of its rounds. -/
theorem exists_gather_of_rounds {set : GrammarSet} (h : Rounds answer base m m') {n : Nat}
    (hn : gather answer base n m.stack m.set = some set) :
    ∃ n' ≤ n, gather answer base n' m'.stack m'.set = some set := by
  induction h with
  | refl => exact ⟨n, le_rfl, hn⟩
  | @tail m₁ m₂ _ hround ih =>
    obtain ⟨n', hle, hn'⟩ := ih
    cases n' with
    | zero =>
      cases hround <;> exact absurd hn' (by simp [gather])
    | succ n' =>
      rw [hround.gather_eq] at hn'
      exact ⟨n', Nat.le_of_succ_le hle, hn'⟩

/-- Rounds lead to the set that is gathered. -/
theorem rounds_of_gather {n : Nat} {set : GrammarSet}
    (hn : gather answer base n m.stack m.set = some set) : Rounds answer base m ⟨[], set⟩ := by
  induction n generalizing m with
  | zero =>
    obtain ⟨stack, set'⟩ := m
    cases stack with
    | nil =>
      obtain rfl : set' = set := by simpa [gather] using hn
      exact .refl
    | cons scope stack => exact absurd hn (by simp [gather])
  | succ n ih =>
    obtain ⟨stack, set'⟩ := m
    cases stack with
    | nil =>
      obtain rfl : set' = set := by simpa [gather] using hn
      exact .refl
    | cons scope stack =>
      obtain ⟨m', hround⟩ := exists_round answer base scope stack set'
      rw [hround.gather_eq] at hn
      exact .head hround (ih hn)

/-- Gathering ends when rounds lead to an empty stack. -/
theorem exists_gather_of_rounds_to_nil {set : GrammarSet} (h : Rounds answer base m ⟨[], set⟩) :
    ∃ n, gather answer base n m.stack m.set = some set := by
  generalize hend : (⟨[], set⟩ : Gathering) = m' at h
  induction h using ReflTransGen.head_induction_on with
  | refl =>
    subst hend
    exact ⟨0, by rw [gather]⟩
  | head hround _ ih =>
    obtain ⟨n, hn⟩ := ih
    exact ⟨n + 1, by rw [hround.gather_eq, hn]⟩

/-- Where gathering ends, everything on the stack is met. -/
theorem exists_rounds_drop {above below : List String} {set set' : GrammarSet} {n : Nat}
    (hn : gather answer base n (above ++ below) set = some set') :
    ∃ set'', Rounds answer base ⟨above ++ below, set⟩ ⟨below, set''⟩ := by
  induction n generalizing above set with
  | zero =>
    cases above with
    | nil => exact ⟨set, .refl⟩
    | cons scope above => exact absurd hn (by simp [gather])
  | succ n ih =>
    cases above with
    | nil => exact ⟨set, .refl⟩
    | cons scope above =>
      obtain ⟨m', hround⟩ := exists_round answer base scope (above ++ below) set
      have hn' := (hround.gather_eq n).symm.trans hn
      have hrest : ∃ above', m'.stack = above' ++ below := by
        cases hround with
        | passed => exact ⟨above, rfl⟩
        | missing => exact ⟨above, rfl⟩
        | found => exact ⟨_, (List.append_assoc _ _ _).symm⟩
      obtain ⟨above', habove⟩ := hrest
      rw [habove] at hn'
      obtain ⟨set'', hrounds⟩ := ih hn'
      rw [← habove] at hrounds
      exact ⟨set'', .head hround hrounds⟩

/-! ### What is found -/

theorem Round.has_mono (h : Round answer base m m') (hscope : m.set.has scope) :
    m'.set.has scope := by
  cases h with
  | passed | missing => exact hscope
  | found => exact GrammarSet.has_insert.2 (.inr hscope)

theorem has_mono (h : Rounds answer base m m') (hscope : m.set.has scope) :
    m'.set.has scope := by
  induction h with
  | refl => exact hscope
  | tail _ hround ih => exact hround.has_mono ih

/-- What comes into the set is known under some scope name. -/
theorem exists_answer_of_mem (h : Rounds answer base (start base) m) {g : WrittenGrammar}
    (hg : g ∈ m.set) : ∃ scope, answer scope = .ok g := by
  induction h with
  | refl => exact absurd hg List.not_mem_nil
  | tail _ hround ih =>
    cases hround with
    | passed | missing => exact ih hg
    | found _ hanswer =>
      rcases GrammarSet.mem_insert.1 hg with rfl | ⟨hg, -⟩
      · exact ⟨_, hanswer⟩
      · exact ih hg

/-- What comes on the stack is included by the base or by a grammar that is known. -/
theorem Named.cases (h : Named answer base scope) : scope ∈ base.includedScopes ∨
    ∃ scope' g, answer scope' = .ok g ∧ scope ∈ g.includedScopes := by
  obtain ⟨m, hm, hscope⟩ := h
  induction hm with
  | refl => exact .inl (List.mem_reverse.1 hscope)
  | tail _ hround ih =>
    cases hround with
    | passed | missing => exact ih (List.mem_cons_of_mem _ hscope)
    | found _ hanswer =>
      rcases List.mem_append.1 hscope with hscope | hscope
      · exact .inr ⟨_, _, hanswer, List.mem_reverse.1 hscope⟩
      · exact ih (List.mem_cons_of_mem _ hscope)

/-! ### Names that lead back to themselves -/

/-- A name that leads on leads to a name that leads back to itself, if it does so itself. -/
theorem Returns.exists_leads (h : Returns answer base scope) :
    ∃ scope', Leads answer base scope scope' ∧ Returns answer base scope' := by
  obtain ⟨scope', hleads, hback⟩ := TransGen.head'_iff.1 h
  exact ⟨scope', hleads, TransGen.tail' hback hleads⟩

/-- **Where gathering ends, no name that is met leads back to itself**: it would be met again and
again, with fewer and fewer rounds to go. -/
theorem not_returns_of_gather {stack : List String} {set set' : GrammarSet} {n : Nat}
    (hreached : Rounds answer base (start base) ⟨scope :: stack, set⟩)
    (hn : gather answer base n (scope :: stack) set = some set') :
    ¬Returns answer base scope := by
  induction n using Nat.strong_induction_on generalizing scope stack set with
  | _ n ih =>
    intro hreturns
    obtain ⟨scope', ⟨hnever, g, hanswer, hmem⟩, hreturns'⟩ := hreturns.exists_leads
    have hasks : Asks base set scope :=
      ⟨fun hhas => hnever (.inr ⟨_, hreached, hhas⟩), fun heq => hnever (.inl heq)⟩
    have hround : Round answer base ⟨scope :: stack, set⟩
        ⟨g.includedScopes.reverse ++ stack, set.insert g⟩ := .found hasks hanswer
    cases n with
    | zero => exact absurd hn (by simp [gather])
    | succ n =>
      have hn' := (hround.gather_eq n).symm.trans hn
      obtain ⟨above, below, hsplit⟩ := List.append_of_mem (List.mem_reverse.2 hmem)
      simp only [hsplit, List.append_assoc, List.cons_append] at hn' hround
      obtain ⟨set'', hrounds⟩ := exists_rounds_drop hn'
      obtain ⟨n', hle, hn''⟩ := exists_gather_of_rounds hrounds hn'
      exact ih n' (Nat.lt_succ_of_le hle) ((hreached.tail hround).trans hrounds) hn'' hreturns'

/-! ### Rounds without new names -/

/-- No new name comes into the set any more. -/
def Settled (answer : String → Except AssetError WrittenGrammar) (base : WrittenGrammar)
    (m : Gathering) : Prop :=
  ∀ m', Rounds answer base m m' → ∀ scope, m'.set.has scope → m.set.has scope

/-- After that a name that is asked for is never found. -/
theorem Settled.not_found (h : m.Settled answer base)
    (hreached : Rounds answer base (start base) m) (hrounds : Rounds answer base m m')
    (hasks : Asks base m'.set scope) : ¬Found answer base scope := by
  rintro (heq | ⟨m'', hreached', hhas⟩)
  · exact hasks.2 heq
  · have hunique : Relator.RightUnique (Round answer base) := fun _ _ _ => Round.unique
    rcases ReflTransGen.total_of_right_unique hunique (hreached.trans hrounds) hreached'
      with hlater | hearlier
    · exact hasks.1 (has_mono hrounds (h m'' (hrounds.trans hlater) scope hhas))
    · exact hasks.1 (has_mono hearlier hhas)

/-- The number of names to which a name leads. -/
noncomputable def reach (answer : String → Except AssetError WrittenGrammar)
    (base : WrittenGrammar) (names : Finset String) (scope : String) : Nat :=
  open Classical in (names.filter (TransGen (Leads answer base) scope)).card

theorem reach_lt {names : Finset String} {scope' : String}
    (hleads : Leads answer base scope scope') (hmem : scope' ∈ names)
    (hreturns : ¬Returns answer base scope') :
    reach answer base names scope' < reach answer base names scope := by
  classical
  refine Finset.card_lt_card (Finset.ssubset_iff_of_subset ?_ |>.2 ⟨scope', ?_, ?_⟩)
  · intro other hother
    rw [Finset.mem_filter] at hother ⊢
    exact ⟨hother.1, .head hleads hother.2⟩
  · exact Finset.mem_filter.2 ⟨hmem, .single hleads⟩
  · exact fun h => hreturns (Finset.mem_filter.1 h).2

/-- Names on the stack leave it, if each of them does so when it is at the top. -/
theorem leaves_all (P : String → Prop)
    (hone : ∀ s stack set, P s → Rounds answer base m ⟨s :: stack, set⟩ →
      ∃ set', Rounds answer base m ⟨stack, set'⟩)
    {above below : List String} {set : GrammarSet} (habove : ∀ s ∈ above, P s)
    (h : Rounds answer base m ⟨above ++ below, set⟩) :
    ∃ set', Rounds answer base m ⟨below, set'⟩ := by
  induction above generalizing set with
  | nil => exact ⟨set, h⟩
  | cons s above ih =>
    obtain ⟨hs, habove⟩ := List.forall_mem_cons.1 habove
    obtain ⟨set', h'⟩ := hone s _ _ hs h
    exact ih habove h'

section

variable {names : Finset String} (hsettled : m.Settled answer base)
  (hreached : Rounds answer base (start base) m) (hnames : ∀ s, Named answer base s → s ∈ names)
  (hreturns : ∀ s, Named answer base s → ¬Returns answer base s)
include hsettled hreached hnames hreturns

/-- **Without new names, a name leaves the stack**, after all that it puts there. -/
theorem Settled.leaves {stack : List String} {set : GrammarSet}
    (h : Rounds answer base m ⟨scope :: stack, set⟩) :
    ∃ set', Rounds answer base m ⟨stack, set'⟩ := by
  induction hn : reach answer base names scope using Nat.strong_induction_on
    generalizing scope stack set with
  | _ n ih =>
    obtain ⟨m', hround⟩ := exists_round answer base scope stack set
    cases hround with
    | passed hknown => exact ⟨set, h.tail (.passed hknown)⟩
    | missing hasks hanswer => exact ⟨set, h.tail (.missing hasks hanswer)⟩
    | @found _ _ _ g hasks hanswer =>
      have hnever := hsettled.not_found hreached h hasks
      have hnext := h.tail (.found hasks hanswer)
      refine leaves_all (fun s => reach answer base names s < n)
        (fun s stack set hs hrounds => ih _ hs hrounds rfl) (fun s hs => ?_) hnext
      have hnamed : Named answer base s :=
        ⟨_, hreached.trans hnext, List.mem_append_left _ hs⟩
      rw [← hn]
      exact reach_lt ⟨hnever, g, hanswer, List.mem_reverse.1 hs⟩ (hnames s hnamed)
        (hreturns s hnamed)

end

/-! ### When gathering ends -/

/-- The number of names of grammars, among the given ones, that are not in the set. -/
def left (own : Finset String) (m : Gathering) : Nat :=
  (own.filter fun name => !m.set.has name).card

/-- Once no fewer names are left, gathering is settled. -/
theorem settled_of_left_le {own : Finset String}
    (hown : ∀ s g, answer s = .ok g → g.scopeName ∈ own)
    (hreached : Rounds answer base (start base) m)
    (h : ∀ m', Rounds answer base m m' → m.left own ≤ m'.left own) : m.Settled answer base := by
  intro m' hrounds scope hhas
  by_contra hnew
  obtain ⟨g, hg, rfl⟩ := GrammarSet.has_iff.1 hhas
  obtain ⟨s, hs⟩ := exists_answer_of_mem (hreached.trans hrounds) hg
  refine absurd (h m' hrounds) (Nat.not_le_of_lt (Finset.card_lt_card ?_))
  refine Finset.ssubset_iff_of_subset ?_ |>.2 ⟨g.scopeName, ?_, ?_⟩
  · intro name hname
    rw [Finset.mem_filter, Bool.not_eq_true'] at hname ⊢
    refine ⟨hname.1, Bool.eq_false_iff.2 fun hhas' => ?_⟩
    exact absurd (has_mono hrounds hhas') (by simp [hname.2])
  · exact Finset.mem_filter.2 ⟨hown s g hs, by simpa using hnew⟩
  · exact fun hname => absurd (Finset.mem_filter.1 hname).2 (by simp [hhas])

theorem rounds_to_nil {names own : Finset String}
    (hown : ∀ s g, answer s = .ok g → g.scopeName ∈ own)
    (hnames : ∀ s, Named answer base s → s ∈ names)
    (hreturns : ∀ s, Named answer base s → ¬Returns answer base s)
    (hreached : Rounds answer base (start base) m) : ∃ set, Rounds answer base m ⟨[], set⟩ := by
  induction hn : m.left own using Nat.strong_induction_on generalizing m with
  | _ n ih =>
    by_cases hless : ∃ m', Rounds answer base m m' ∧ m'.left own < n
    · obtain ⟨m', hrounds, hlt⟩ := hless
      obtain ⟨set, hset⟩ := ih _ hlt (hreached.trans hrounds) rfl
      exact ⟨set, hrounds.trans hset⟩
    · have hsettled : m.Settled answer base :=
        settled_of_left_le hown hreached fun m' hrounds =>
          Nat.le_of_not_lt fun hlt => hless ⟨m', hrounds, hn ▸ hlt⟩
      have hself : Rounds answer base m ⟨m.stack ++ [], m.set⟩ := by
        rw [List.append_nil]
      exact leaves_all (fun _ => True) (fun s stack set _ hrounds =>
        hsettled.leaves hreached hnames hreturns hrounds) (fun _ _ => trivial) hself

/-- **When gathering ends**: when no scope name that is met leads back to itself through names that
are never found. -/
theorem ends_iff (hfinite : {g | ∃ s, answer s = .ok g}.Finite) (base : WrittenGrammar) :
    (∃ n set, gather answer base n base.includedScopes.reverse [] = some set) ↔
      ∀ s, Named answer base s → ¬Returns answer base s := by
  constructor
  · rintro ⟨n, set, hn⟩ s ⟨⟨stack, set'⟩, hreached, hs⟩
    obtain ⟨n', -, hn'⟩ := exists_gather_of_rounds hreached hn
    obtain ⟨above, below, rfl⟩ := List.append_of_mem hs
    obtain ⟨set'', hrounds⟩ := exists_rounds_drop hn'
    obtain ⟨n'', -, hn''⟩ := exists_gather_of_rounds hrounds hn'
    exact not_returns_of_gather (hreached.trans hrounds) hn''
  · intro hreturns
    -- there are only finitely many grammars, so they have and include finitely many names
    have hown : ∀ s g, answer s = .ok g →
        g.scopeName ∈ (hfinite.image WrittenGrammar.scopeName).toFinset :=
      fun s g hanswer => (Set.Finite.mem_toFinset _).2 ⟨g, ⟨s, hanswer⟩, rfl⟩
    have hnames : {s | Named answer base s}.Finite := by
      refine ((List.finite_toSet base.includedScopes).union
        (hfinite.biUnion fun g _ => List.finite_toSet g.includedScopes)).subset fun s hs => ?_
      rcases Named.cases hs with hs | ⟨s', g, hanswer, hs⟩
      · exact .inl hs
      · exact .inr (Set.mem_biUnion ⟨s', hanswer⟩ hs)
    obtain ⟨set, hrounds⟩ := rounds_to_nil hown
      (fun s hs => (Set.Finite.mem_toFinset hnames).2 hs) hreturns .refl
    obtain ⟨n, hn⟩ := exists_gather_of_rounds_to_nil hrounds
    exact ⟨n, set, hn⟩

end Gathering

namespace Assets

theorem grammar_eq_ok_iff {a : Assets} {scope : String} {g : WrittenGrammar} :
    a.grammar scope = .ok g ↔ a.grammars.lookup scope = some (.ok g) := by
  rw [grammar]
  cases a.grammars.lookup scope with
  | none => simp
  | some answer => simp

/-- The set of a grammar that is known, unless there is no end to what is to be met. -/
theorem grammarSet_eq {a : Assets} {scope : String} {base : WrittenGrammar}
    (h : a.grammar scope = .ok base) : a.grammarSet scope =
      match gather a.grammar base (a.gatherLimit base) base.includedScopes.reverse [] with
      | some set => .ok (base, set)
      | none => .error .endless := by
  rw [grammarSet, h]
  rfl

/-- There are only finitely many grammars. -/
theorem finite_grammars (a : Assets) : {g | ∃ scope, a.grammar scope = .ok g}.Finite := by
  refine (List.finite_toSet (a.grammars.filterMap fun entry => entry.2.toOption)).subset ?_
  rintro g ⟨scope, hg⟩
  obtain ⟨front, back, hsplit, -⟩ := List.lookup_eq_some_iff.1 (grammar_eq_ok_iff.1 hg)
  refine List.mem_filterMap.2 ⟨(scope, .ok g), ?_, rfl⟩
  rw [hsplit]
  exact List.mem_append_right _ List.mem_cons_self

/-! ### Grammars under other names -/

/-- A grammar `a` that includes `b`.  The grammar known under `b` is named `c` and includes the
given names; the grammar known under `d` is named `b`. -/
def misnamed (included : List String) : Assets where
  grammars := [("a", .ok { scopeName := "a", patterns := [.including "b"] }),
    ("b", .ok { scopeName := "c", patterns := included.map .including }),
    ("d", .ok { scopeName := "b" })]

/-- Gathering ends although `b` is included again by what is known under `b`: there is another
grammar of that name, which comes into the set before `b` is met for the second time. -/
theorem ends_iff_misnamed : ∃ base, (misnamed ["b", "d"]).grammar "a" = .ok base ∧
    {g | ∃ s, (misnamed ["b", "d"]).grammar s = .ok g}.Finite ∧
      ∀ s, Gathering.Named (misnamed ["b", "d"]).grammar base s →
        ¬Gathering.Returns (misnamed ["b", "d"]).grammar base s := by
  refine ⟨_, rfl, finite_grammars _, (Gathering.ends_iff (finite_grammars _) _).1 ⟨4, ?_⟩⟩
  have hends : (gather (misnamed ["b", "d"]).grammar
      { scopeName := "a", patterns := [.including "b"] } 4 ["b"] []).isSome := by
    decide +kernel
  exact Option.isSome_iff_exists.1 hends

/-- A name under which a grammar of another name is known, and which that grammar includes alone,
is met without end. -/
theorem gather_eq_none {answer : String → Except AssetError WrittenGrammar}
    {base g : WrittenGrammar} {scope : String} (hanswer : answer scope = .ok g)
    (hincluded : g.includedScopes = [scope]) (hname : g.scopeName ≠ scope)
    (hbase : scope ≠ base.scopeName) {set : GrammarSet} (hset : ¬set.has scope) (n : Nat) :
    gather answer base n [scope] set = none := by
  induction n generalizing set with
  | zero => rw [gather]
  | succ n ih =>
    have hround : Gathering.Round answer base ⟨[scope], set⟩
        ⟨g.includedScopes.reverse, set.insert g⟩ :=
      List.append_nil g.includedScopes.reverse ▸ .found ⟨hset, hbase⟩ hanswer
    rw [hincluded] at hround
    refine (hround.gather_eq n).trans (ih fun hhas => ?_)
    exact (GrammarSet.has_insert.1 hhas).elim hname hset

/-- The grammar known under `b` includes `b` and has another name, so there is no end. -/
theorem never_ends_misnamed : ∃ base, (misnamed ["b"]).grammar "a" = .ok base ∧
    {g | ∃ s, (misnamed ["b"]).grammar s = .ok g}.Finite ∧
      (∀ n, gather (misnamed ["b"]).grammar base n base.includedScopes.reverse [] = none) ∧
        ∀ pair, (misnamed ["b"]).grammarSet "a" ≠ .ok pair := by
  have hincluded : WrittenGrammar.includedScopes
      { scopeName := "a", patterns := [.including "b"] } = ["b"] := by decide +kernel
  have hincluded' : WrittenGrammar.includedScopes
      { scopeName := "c", patterns := [.including "b"] } = ["b"] := by decide +kernel
  have hnone : ∀ n, gather (misnamed ["b"]).grammar
      { scopeName := "a", patterns := [.including "b"] } n ["b"] [] = none :=
    gather_eq_none rfl hincluded' (by decide) (by decide) (by decide)
  refine ⟨_, rfl, finite_grammars _, fun n => ?_, fun pair hpair => ?_⟩
  · rw [hincluded]
    exact hnone n
  · rw [grammarSet_eq rfl, hincluded, List.reverse_singleton, hnone] at hpair
    exact absurd hpair (by simp)

end Assets

end Highlight
