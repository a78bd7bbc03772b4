import Highlight.Proofs.Grammar.Building
import Highlight.Proofs.Grammar.Candidates
import Highlight.Proofs.Grammar.Declared
import Mathlib.Data.List.Forall2

/-!
# Where the rules of a compiled grammar come from

An **account** of a compiled grammar says what each of its numbers was given out for, and which
numbers landmarks have.  Every rule is what its origin is compiled to, and its patterns are, in
their order, the rules that stand in the origin: a rule that is no include is the origin of the
number, and for an include the number is that of the landmark to which it refers
(`Account.Explains`).

While the table is built, numbers that have been given out may not have a rule yet.  Compiling a
rule leaves them as they are, and gives a rule to every number that it gives out (`Table.Grows`).
So at the end there is a rule for every number, and an account of them all
(`Grammar.exists_account`).
-/

namespace Highlight

/-! ### Accounts -/

namespace Referent

/-- The places of the rules that are compiled with a root or a rule; an include itself stands in
what is compiled for it. -/
def listed : Referent → List Place
  | root g => (Surroundings.ofGrammar g).listed g.scopeName 0 g.patterns
  | entry rule path around =>
    if rule.target.isSome then [⟨rule, path, around⟩]
    else (around.nested rule path).listed path 0 rule.inner

/-- What a root or a rule is compiled to, whatever numbers the rules in it have. -/
def Gives : Referent → Rule → Prop
  | root _, compiled => ∃ ids, compiled = .group ids
  | entry rule _ _, compiled =>
    if rule.target.isSome then ∃ ids, compiled = .group ids else rule.Gives compiled

end Referent

/-- What each number was given out for, and the numbers of landmarks by their paths. -/
structure Account where
  origins : List Referent
  known : List (String × RuleId)

namespace Account

/-- A number is that of a rule at a place, or for an include, that of the landmark to which it
refers. -/
inductive Denotes (base : WrittenGrammar) (set : GrammarSet) (a : Account) (p : Place)
    (id : RuleId) : Prop where
  | rule (target_eq : p.rule.target = none)
    (origin_eq : a.origins[id]? = some (.entry p.rule p.path p.around))
  | included {target : String} {r : Referent} (target_eq : p.rule.target = some target)
    (referent_eq : (Include.ofText? target).bind (p.around.referent? base set) = some r)
    (known_eq : a.known.lookup r.landmark.path = some id)

/-- A compiled rule is that of its origin. -/
structure Explains (base : WrittenGrammar) (set : GrammarSet) (a : Account) (r : Referent)
    (compiled : Rule) : Prop where
  gives : r.Gives compiled
  denotes : List.Forall₂ (a.Denotes base set) r.listed compiled.patterns

section

variable {base : WrittenGrammar} {set : GrammarSet} {a : Account} {r : Referent} {compiled : Rule}

theorem Explains.exists_denotes (h : a.Explains base set r compiled) {p : Place}
    (hp : p ∈ r.listed) : ∃ id, a.Denotes base set p id := by
  obtain ⟨i, hi, rfl⟩ := List.getElem_of_mem hp
  have hi' : i < compiled.patterns.length := h.denotes.length_eq ▸ hi
  exact ⟨_, h.denotes.get hi hi'⟩

theorem Explains.exists_place (h : a.Explains base set r compiled) {id : RuleId}
    (hid : id ∈ compiled.patterns) : ∃ p ∈ r.listed, a.Denotes base set p id := by
  obtain ⟨i, hi, rfl⟩ := List.getElem_of_mem hid
  have hi' : i < r.listed.length := h.denotes.length_eq ▸ hi
  exact ⟨_, List.getElem_mem hi', h.denotes.get hi' hi⟩

end

/-- An account with more numbers than another. -/
structure Extends (a a' : Account) : Prop where
  origins : a.origins <+: a'.origins
  known : ∀ path id, a.known.lookup path = some id → a'.known.lookup path = some id

variable {base : WrittenGrammar} {set : GrammarSet} {a a' : Account}

theorem Extends.origin (h : a.Extends a') {id : RuleId} {r : Referent}
    (hr : a.origins[id]? = some r) : a'.origins[id]? = some r := by
  obtain ⟨more, hmore⟩ := h.origins
  rw [← hmore, List.getElem?_append_left (List.getElem?_eq_some_iff.1 hr).1, hr]

theorem Denotes.mono {p : Place} {id : RuleId} (hp : a.Denotes base set p id)
    (h : a.Extends a') : a'.Denotes base set p id := by
  cases hp with
  | rule htarget horigin => exact .rule htarget (h.origin horigin)
  | included htarget hr hknown => exact .included htarget hr (h.known _ _ hknown)

/-- An include that has a number refers to something. -/
theorem Denotes.exists_referent {p : Place} {id : RuleId} (hp : a.Denotes base set p id)
    {target : String} (htarget : p.rule.target = some target) :
    ∃ r, (Include.ofText? target).bind (p.around.referent? base set) = some r := by
  cases hp with
  | rule htarget' => exact absurd (htarget.symm.trans htarget') (by simp)
  | included htarget' hreferent =>
    obtain rfl := Option.some.inj (htarget.symm.trans htarget')
    exact ⟨_, hreferent⟩

theorem Explains.mono {r : Referent} {compiled : Rule} (hr : a.Explains base set r compiled)
    (h : a.Extends a') : a'.Explains base set r compiled :=
  ⟨hr.gives, hr.denotes.imp fun _ _ hp => hp.mono h⟩

end Account

/-! ### Tables -/

namespace Table

/-- The account of a table in which numbers were given out for the given origins. -/
def account (t : Table) (origins : List Referent) : Account := ⟨origins, t.known⟩

/-- The origins are those of the numbers in a table. -/
structure Accounted (base : WrittenGrammar) (set : GrammarSet) (t : Table)
    (origins : List Referent) : Prop where
  length_eq : origins.length = t.slots.size
  met : ∀ r ∈ origins, r.Met base set
  tidy : ∀ r ∈ origins, r.Tidy base set
  known : ∀ path id, t.known.lookup path = some id → ∃ r, origins[id]? = some r ∧
    r.landmark.path = path ∧ r.landmark ∈ landmarksOf base set
  explains : ∀ (id : RuleId) (compiled : Rule), t.slots[id]? = some (some compiled) →
    ∃ r, origins[id]? = some r ∧ (t.account origins).Explains base set r compiled

/-- From one table to another, every number that is given out gets a rule, and the others are left
as they are. -/
structure Grows (t : Table) (origins : List Referent) (t' : Table) (origins' : List Referent) :
    Prop where
  extend : (t.account origins).Extends (t'.account origins')
  kept : ∀ id < t.slots.size, t'.slots[id]? = t.slots[id]?
  filled : ∀ id, t.slots.size ≤ id → id < t'.slots.size →
    ∃ compiled, t'.slots[id]? = some (some compiled)

variable {base : WrittenGrammar} {set : GrammarSet} {t t' t'' : Table}
  {origins origins' origins'' : List Referent}

theorem Grows.refl (t : Table) (origins : List Referent) : t.Grows origins t origins :=
  ⟨⟨List.prefix_rfl, fun _ _ h => h⟩, fun _ _ => rfl, fun _ h h' => absurd h' (Nat.not_lt.2 h)⟩

theorem Grows.trans (h : t.Grows origins t' origins') (h' : t'.Grows origins' t'' origins'')
    (hsize : t.slots.size ≤ t'.slots.size) : t.Grows origins t'' origins'' := by
  constructor
  case extend =>
    exact ⟨h.extend.origins.trans h'.extend.origins, fun path id hpath =>
      h'.extend.known path id (h.extend.known path id hpath)⟩
  case kept => exact fun id hid => (h'.kept id (Nat.lt_of_lt_of_le hid hsize)).trans (h.kept id hid)
  case filled =>
    intro id hle hlt
    by_cases hid : id < t'.slots.size
    · rw [h'.kept id hid]
      exact h.filled id hle hid
    · exact h'.filled id (Nat.le_of_not_lt hid) hlt

theorem Grows.size_le (h : t.Grows origins t' origins') (ht : t.Accounted base set origins)
    (ht' : t'.Accounted base set origins') : t.slots.size ≤ t'.slots.size := by
  rw [← ht.length_eq, ← ht'.length_eq]
  exact h.extend.origins.length_le

/-- A number is given out for an origin, and maybe it is that of a landmark from then on. -/
theorem Accounted.push (h : t.Accounted base set origins) {r : Referent} (hr : r.Met base set)
    (htidy : r.Tidy base set) (hslots : t'.slots = t.slots.push none)
    (hold : ∀ path id, t.known.lookup path = some id → t'.known.lookup path = some id)
    (hnew : ∀ path id, t'.known.lookup path = some id → t.known.lookup path = some id ∨
      id = t.slots.size ∧ r.landmark.path = path ∧ r.landmark ∈ landmarksOf base set) :
    t'.Accounted base set (origins ++ [r]) := by
  have hextend : (t.account origins).Extends (t'.account (origins ++ [r])) :=
    ⟨List.prefix_append _ _, hold⟩
  constructor
  case length_eq =>
    rw [hslots, Array.size_push, List.length_append, h.length_eq]
    rfl
  case met =>
    intro r' hr'
    rcases List.mem_append.1 hr' with hr' | hr'
    · exact h.met r' hr'
    · rw [List.mem_singleton.1 hr']
      exact hr
  case tidy =>
    intro r' hr'
    rcases List.mem_append.1 hr' with hr' | hr'
    · exact h.tidy r' hr'
    · rw [List.mem_singleton.1 hr']
      exact htidy
  case known =>
    intro path id hpath
    rcases hnew path id hpath with hpath | ⟨rfl, hpath, hl⟩
    · obtain ⟨r', hr', hrest⟩ := h.known path id hpath
      exact ⟨r', hextend.origin hr', hrest⟩
    · refine ⟨r, ?_, hpath, hl⟩
      rw [← h.length_eq, List.getElem?_concat_length]
  case explains =>
    intro id compiled hid
    rw [hslots, Array.getElem?_push] at hid
    split at hid
    · exact absurd hid (by simp)
    · obtain ⟨r', hr', hexplains⟩ := h.explains id compiled hid
      exact ⟨r', hextend.origin hr', hexplains.mono hextend⟩

theorem Accounted.reserve (h : t.Accounted base set origins) {r : Referent}
    (hr : r.Met base set) (htidy : r.Tidy base set) :
    t.reserve.Accounted base set (origins ++ [r]) :=
  h.push hr htidy rfl (fun _ _ hpath => hpath) fun _ _ hpath => .inl hpath

theorem lookup_open {path path' : String} {id : RuleId} (hnew : t.known.lookup path = none)
    (h : t.known.lookup path' = some id) : (t.open path).known.lookup path' = some id := by
  rw [Table.open, List.lookup_cons]
  split
  · rename_i heq
    rw [beq_iff_eq.1 heq, hnew] at h
    exact absurd h (by simp)
  · exact h

theorem Accounted.enter (h : t.Accounted base set origins) {r : Referent} (hr : r.Met base set)
    (htidy : r.Tidy base set) (hl : r.landmark ∈ landmarksOf base set)
    (hnew : t.known.lookup r.landmark.path = none) :
    (t.open r.landmark.path).Accounted base set (origins ++ [r]) := by
  refine h.push hr htidy rfl (fun _ _ => lookup_open hnew) fun path id hpath => ?_
  rw [Table.open, List.lookup_cons] at hpath
  split at hpath
  · rename_i heq
    exact .inr ⟨(Option.some.inj hpath).symm, (beq_iff_eq.1 heq).symm, hl⟩
  · exact .inl hpath

/-- A number that has been given out gets its rule when the rules in it are compiled. -/
def Closes (base : WrittenGrammar) (set : GrammarSet) (t : Table) (origins : List Referent)
    (id : RuleId) (r : Referent) (t'' : Table) : Prop :=
  ∃ t' origins' compiled, t'.Accounted base set origins' ∧ t.Grows origins t' origins' ∧
    (t'.account origins').Explains base set r compiled ∧ t'' = t'.fill id compiled

/-- The table with a rule for a number that was given out for it. -/
theorem Closes.accounted {r : Referent} {t₁ : Table}
    (h : t₁.Closes base set (origins ++ [r]) t.slots.size r t')
    (ht : t.Accounted base set origins) (hslots : t₁.slots = t.slots.push none)
    (hold : ∀ path id, t.known.lookup path = some id → t₁.known.lookup path = some id) :
    ∃ origins', t'.Accounted base set origins' ∧ t.Grows origins t' origins' ∧
      (∀ path id, t₁.known.lookup path = some id → t'.known.lookup path = some id) ∧
        origins'[t.slots.size]? = some r := by
  obtain ⟨t₂, origins₂, compiled, ht₂, hgrows, hexplains, rfl⟩ := h
  have hsize : t₁.slots.size = t.slots.size + 1 := by rw [hslots, Array.size_push]
  -- the number was given out last, and since then no other origin has got it
  have hself : origins₂[t.slots.size]? = some r := by
    refine hgrows.extend.origin ?_
    show (origins ++ [r])[t.slots.size]? = some r
    rw [← ht.length_eq, List.getElem?_concat_length]
  have hlt : t.slots.size < t₂.slots.size := by
    rw [← ht₂.length_eq]
    exact (List.getElem?_eq_some_iff.1 hself).1
  have hfill (id : RuleId) : (t₂.fill t.slots.size compiled).slots[id]? =
      if t.slots.size = id then some (some compiled) else t₂.slots[id]? := by
    rw [Table.fill, Array.getElem?_setIfInBounds, if_pos hlt]
  have hsize' : (t₂.fill t.slots.size compiled).slots.size = t₂.slots.size :=
    Array.size_setIfInBounds
  refine ⟨origins₂, ?accounted, ?grows, hgrows.extend.known, hself⟩
  case accounted =>
    refine ⟨ht₂.length_eq.trans hsize'.symm, ht₂.met, ht₂.tidy, ht₂.known, fun id rule hid => ?_⟩
    rw [hfill] at hid
    split at hid
    · rename_i heq
      obtain rfl := Option.some.inj (Option.some.inj hid)
      exact ⟨r, heq ▸ hself, hexplains⟩
    · exact ht₂.explains id rule hid
  case grows =>
    constructor
    case extend =>
      exact ⟨(List.prefix_append origins [r]).trans hgrows.extend.origins,
        fun path id hpath => hgrows.extend.known path id (hold path id hpath)⟩
    case kept =>
      intro id hid
      rw [hfill, if_neg (Nat.ne_of_gt hid), hgrows.kept id (by omega), hslots, Array.getElem?_push,
        if_neg (Nat.ne_of_lt hid)]
    case filled =>
      intro id hle hid
      rw [hfill]
      split
      · exact ⟨compiled, rfl⟩
      · exact hgrows.filled id (by omega) (hsize' ▸ hid)

end Table

/-! ### Compiling -/

namespace Build

variable {α β : Type} {t : Table} {P : α → Table → Prop}

/-- Every answer of a computation, and the table after it, satisfy a predicate. -/
def Ensures (m : Build α) (t : Table) (P : α → Table → Prop) : Prop :=
  ∀ a t', m.run t = .ok (a, t') → P a t'

theorem ensures_pure {a : α} (h : P a t) : Ensures (pure a) t P := by
  intro b t' hrun
  obtain ⟨rfl, rfl⟩ := Prod.mk.inj (Except.ok.inj hrun)
  exact h

theorem ensures_throw (e : GrammarError) : Ensures (throw e : Build α) t P :=
  fun _ _ hrun => nomatch hrun

theorem ensures_bind {Q : β → Table → Prop} {m : Build α} {f : α → Build β}
    (hm : Ensures m t P) (hf : ∀ a t', P a t' → Ensures (f a) t' Q) :
    Ensures (m >>= f) t Q := by
  intro b t'' hrun
  cases hrun' : m.run t with
  | error e =>
    rw [run_bind_error hrun'] at hrun
    exact absurd hrun (by simp)
  | ok answer =>
    obtain ⟨a, t'⟩ := answer
    rw [run_bind_ok hrun'] at hrun
    exact hf a t' (hm a t' hrun') b t'' hrun

/-- A computation that does not depend on how rules are compiled, followed by others. -/
theorem ensures_of_plain {p : α → Prop} {Q : β → Table → Prop} {m : Build α} {f : α → Build β}
    (hm : WrittenRule.Plain m p) (hf : ∀ a, p a → Ensures (f a) t Q) : Ensures (m >>= f) t Q := by
  cases hm with
  | throw _ heq =>
    rw [heq]
    exact ensures_throw _
  | pure hp heq =>
    rw [heq, pure_bind]
    exact hf _ hp

end Build

section

variable {base : WrittenGrammar} {set : GrammarSet} {t : Table} {origins : List Referent}
  {compile : CompileRule}

/-- A rule that is met is compiled to what it denotes, and all numbers that are given out are
accounted for. -/
def CompileRule.Faithful (base : WrittenGrammar) (set : GrammarSet) (compile : CompileRule) :
    Prop :=
  ∀ g ∈ grammarsOf base set, ∀ p, g.Meets p → ∀ t origins, Table.Accounted base set t origins →
    Clear base set t.known p.paths →
      Build.Ensures (compile p.rule p.around p.path) t fun id t' => ∃ origins',
        t'.Accounted base set origins' ∧ t.Grows origins t' origins' ∧
          (t'.account origins').Denotes base set p id

namespace WrittenRule

theorem ensures_compileList (h : compile.Faithful base set) {g : WrittenGrammar}
    (hg : g ∈ grammarsOf base set) {s : Surroundings} {path : String} {i : Nat}
    {rules : List WrittenRule} (hmeets : ∀ p ∈ s.listed path i rules, g.Meets p)
    (ht : t.Accounted base set origins)
    (hclear : ∀ p ∈ s.listed path i rules, Clear base set t.known p.paths) :
    Build.Ensures (compileList compile s path i rules) t fun ids t' => ∃ origins',
      t'.Accounted base set origins' ∧ t.Grows origins t' origins' ∧
        List.Forall₂ ((t'.account origins').Denotes base set) (s.listed path i rules) ids := by
  induction rules generalizing i t origins with
  | nil => exact Build.ensures_pure ⟨origins, ht, .refl t origins, .nil⟩
  | cons rule rules ih =>
    obtain ⟨hrule, hrules⟩ := List.forall_mem_cons.1 hmeets
    obtain ⟨hclear₀, hclears⟩ := List.forall_mem_cons.1 hclear
    refine Build.ensures_bind (h g hg _ hrule t origins ht hclear₀)
      fun id t₁ ⟨o₁, ht₁, hgrows₁, hid⟩ => ?_
    have hclears₁ := fun p hp => (hclears p hp).mono hgrows₁.extend.known
    refine Build.ensures_bind (ih hrules ht₁ hclears₁) fun ids t₂ ⟨o₂, ht₂, hgrows₂, hids⟩ => ?_
    exact Build.ensures_pure ⟨o₂, ht₂, hgrows₁.trans hgrows₂ (hgrows₁.size_le ht ht₁),
      .cons (hid.mono hgrows₂.extend) hids⟩

theorem ensures_compileAs (h : compile.Faithful base set) {g : WrittenGrammar}
    (hg : g ∈ grammarsOf base set) {p : Place} (hp : g.Meets p) (id : RuleId)
    (ht : t.Accounted base set origins) (hclear : Clear base set t.known p.paths) :
    Build.Ensures (compileAs compile id p.rule p.around p.path) t fun _ t' =>
      t.Closes base set origins id (.entry p.rule p.path p.around) t' := by
  unfold compileAs
  split
  · rename_i htarget
    refine Build.ensures_bind (h g hg p hp t origins ht hclear)
      fun target t₁ ⟨o₁, ht₁, hgrows, hid⟩ => ?_
    intro _ t' hrun
    obtain ⟨-, rfl⟩ := Prod.mk.inj (Except.ok.inj hrun)
    refine ⟨t₁, o₁, _, ht₁, hgrows, ⟨?_, ?_⟩, rfl⟩
    · rw [Referent.Gives, if_pos htarget]
      exact ⟨_, rfl⟩
    · rw [Referent.listed, if_pos htarget]
      exact .cons hid .nil
  · rename_i htarget
    rw [compileBody_eq, bind_assoc]
    refine Build.ensures_of_plain (plain_maker _ _ _) fun make hmake => ?_
    rw [bind_assoc]
    have hinner (q : Place) (hq : q ∈ p.inside.listed p.path 0 p.rule.inner) :
        Clear base set t.known q.paths :=
      hclear.of_subperm (Place.paths_subperm_of_mem_listed (Place.listed_of_inner hq))
    refine Build.ensures_bind (ensures_compileList h hg (fun _ => hp.inner) ht hinner)
      fun ids t₁ ⟨o₁, ht₁, hgrows, hids⟩ => ?_
    intro _ t' hrun
    obtain ⟨-, rfl⟩ := Prod.mk.inj (Except.ok.inj hrun)
    have hlength : ids.length = p.rule.inner.length := by
      rw [← hids.length_eq]
      exact Surroundings.length_listed _ _ _ _
    obtain ⟨hgives, hpatterns⟩ := hmake ids hlength
    refine ⟨t₁, o₁, _, ht₁, hgrows, ⟨?_, ?_⟩, rfl⟩
    · rw [Referent.Gives, if_neg htarget]
      exact hgives
    · rw [Referent.listed, if_neg htarget, hpatterns]
      exact hids

end WrittenRule

/-- What is compiled once is accounted for under its path. -/
theorem Build.ensures_once {r : Referent} (hr : r.Met base set)
    (hl : r.landmark ∈ landmarksOf base set) (ht : t.Accounted base set origins)
    (hclear : Clear base set t.known r.paths) {build : RuleId → Build Unit}
    (h : ∀ id t₁, t₁.Accounted base set (origins ++ [r]) →
      Clear base set t₁.known (r.landmark.declared ++ r.paths) →
        Build.Ensures (build id) t₁ fun _ t' => t₁.Closes base set (origins ++ [r]) id r t') :
    Build.Ensures (Build.once r.landmark.path build) t fun id t' => ∃ origins',
      t'.Accounted base set origins' ∧ t.Grows origins t' origins' ∧
        t'.known.lookup r.landmark.path = some id ∧
          (t.known.lookup r.landmark.path = none →
            id = t.slots.size ∧ origins'[id]? = some r) := by
  intro id t' hrun
  cases hlookup : t.known.lookup r.landmark.path with
  | some known =>
    rw [Build.run_once_known hlookup] at hrun
    obtain ⟨rfl, rfl⟩ := Prod.mk.inj (Except.ok.inj hrun)
    exact ⟨origins, ht, .refl t origins, hlookup, fun hnone => absurd hnone (by simp)⟩
  | none =>
    rw [Build.run_once_new hlookup] at hrun
    -- the path has its number before the rules in the landmark are compiled, so includes in them
    -- can refer to it
    have hopen := hclear.enter hl hlookup t.slots.size
    have htidy : r.Tidy base set := fun hdistinct => (hopen hdistinct).1
    have hclose := Build.ensures_bind
      (h t.slots.size _ (ht.enter hr htidy hl hlookup) hopen)
      (Q := fun id t' => id = t.slots.size ∧
        (t.open r.landmark.path).Closes base set (origins ++ [r]) t.slots.size r t')
      fun _ _ hcloses => Build.ensures_pure ⟨rfl, hcloses⟩
    obtain ⟨rfl, hcloses⟩ := hclose id t' hrun
    obtain ⟨origins', ht', hgrows, hknown, hself⟩ := hcloses.accounted ht rfl
      fun _ _ => Table.lookup_open hlookup
    refine ⟨origins', ht', hgrows, hknown _ _ ?_, fun _ => ⟨rfl, hself⟩⟩
    rw [Table.open, List.lookup_cons_self]

theorem WrittenGrammar.ensures_compileRoot (h : compile.Faithful base set) {g : WrittenGrammar}
    (hg : g ∈ grammarsOf base set) (ht : t.Accounted base set origins) :
    Build.Ensures (g.compileRoot compile) t fun id t' => ∃ origins',
      t'.Accounted base set origins' ∧ t.Grows origins t' origins' ∧
        t'.known.lookup (Landmark.root g).path = some id ∧
          (t.known.lookup (Landmark.root g).path = none →
            id = t.slots.size ∧ origins'[id]? = some (.root g)) := by
  obtain ⟨hmet, hl⟩ := met_root hg
  refine Build.ensures_once hmet hl ht (.ownPaths hg _) fun id t₁ ht₁ hclear => ?_
  have hlisted (p : Place) (hp : p ∈ (Surroundings.ofGrammar g).listed g.scopeName 0 g.patterns) :
      Clear base set t₁.known p.paths :=
    hclear.of_subperm (Place.paths_subperm_of_mem_root hp)
  refine Build.ensures_bind (WrittenRule.ensures_compileList h hg
    (fun p hp => ⟨_, meetsFrom_of_mem_listed hp⟩) ht₁ hlisted)
    fun ids t₂ ⟨o₂, ht₂, hgrows, hids⟩ => ?_
  intro _ t' hrun
  obtain ⟨-, rfl⟩ := Prod.mk.inj (Except.ok.inj hrun)
  exact ⟨t₂, o₂, _, ht₂, hgrows, ⟨⟨_, rfl⟩, hids⟩, rfl⟩

theorem Referent.ensures_compile (h : compile.Faithful base set) {r : Referent}
    (hr : r.Met base set) (hl : r.landmark ∈ landmarksOf base set)
    (ht : t.Accounted base set origins) (hclear : Clear base set t.known r.paths) :
    Build.Ensures (r.compile compile) t fun id t' => ∃ origins',
      t'.Accounted base set origins' ∧ t.Grows origins t' origins' ∧
        t'.known.lookup r.landmark.path = some id := by
  cases r with
  | root g =>
    intro id t' hrun
    obtain ⟨origins', ht', hgrows, hknown, -⟩ :=
      WrittenGrammar.ensures_compileRoot h hr ht id t' hrun
    exact ⟨origins', ht', hgrows, hknown⟩
  | entry rule path around =>
    have hmet := hr
    obtain ⟨g, hg, hmeets⟩ := hr
    intro id t' hrun
    obtain ⟨origins', ht', hgrows, hknown, -⟩ := Build.ensures_once hmet hl ht hclear
      (fun id t₁ ht₁ hclear₁ => WrittenRule.ensures_compileAs h hg hmeets id ht₁ hclear₁) id t' hrun
    exact ⟨origins', ht', hgrows, hknown⟩

/-- **Compiling accounts for all numbers that it gives out.** -/
theorem WrittenRule.faithful_compile (base : WrittenGrammar) (set : GrammarSet) (depth : Nat) :
    CompileRule.Faithful base set (WrittenRule.compile base set depth) := by
  induction depth with
  | zero => exact fun g _ p _ t _ _ _ => Build.ensures_throw _
  | succ depth ih =>
    intro g hg p hp t origins ht hclear
    unfold WrittenRule.compile
    split
    · -- a rule has a number of its own
      rename_i htarget
      have hmet : (Referent.entry p.rule p.path p.around).Met base set := ⟨g, hg, hp⟩
      have htidy : (Referent.entry p.rule p.path p.around).Tidy base set :=
        fun hdistinct => (hclear hdistinct).1
      have hreserve : Build.Ensures Build.reserve t fun id t' => id = t.slots.size ∧
          t' = t.reserve := by
        intro id t' hrun
        obtain ⟨rfl, rfl⟩ := Prod.mk.inj (Except.ok.inj hrun)
        exact ⟨rfl, rfl⟩
      refine Build.ensures_bind hreserve fun id t₁ ⟨hid, ht₁⟩ => ?_
      obtain rfl := hid
      obtain rfl := ht₁
      refine Build.ensures_bind (ensures_compileAs ih hg hp _ (ht.reserve hmet htidy) hclear)
        fun _ t' hcloses => Build.ensures_pure ?_
      obtain ⟨origins', ht', hgrows, -, hself⟩ := hcloses.accounted ht rfl fun _ _ hpath => hpath
      exact ⟨origins', ht', hgrows, .rule htarget hself⟩
    · -- an include has the number of what it refers to
      rename_i target htarget
      split
      · exact Build.ensures_throw _
      · rename_i r hr
        obtain ⟨target', -, hr'⟩ := Option.bind_eq_some_iff.1 hr
        obtain ⟨lexical, hmeets⟩ := hp
        obtain ⟨hmet, hl⟩ := hmeets.stacked.referent hg hmeets.grammar_eq hr'
        have haround : Clear base set t.known p.around.paths :=
          hclear.of_subperm (List.sublist_append_right _ _).subperm
        have hclear' := Surroundings.clear_referent haround (hmeets.grammar_eq ▸ hg) hr'
        intro id t' hrun
        obtain ⟨origins', ht', hgrows, hknown⟩ := r.ensures_compile ih hmet hl ht hclear' id t' hrun
        exact ⟨origins', ht', hgrows, .included htarget hr hknown⟩

end

/-! ### Grammars -/

/-- The rules of a grammar come from the origins of an account, and includes refer to the landmarks
that have a number in it. -/
structure Account.Accounts (base : WrittenGrammar) (set : GrammarSet) (a : Account) (g : Grammar) :
    Prop where
  length_eq : a.origins.length = g.ruleCount
  root_eq : a.origins[g.root]? = some (.root base)
  met : ∀ r ∈ a.origins, r.Met base set
  tidy : ∀ r ∈ a.origins, r.Tidy base set
  known : ∀ path id, a.known.lookup path = some id → ∃ r, a.origins[id]? = some r ∧
    r.landmark.path = path ∧ r.landmark ∈ landmarksOf base set
  explains : ∀ (id : RuleId) (compiled : Rule), g.rule? id = some compiled →
    ∃ r, a.origins[id]? = some r ∧ a.Explains base set r compiled

section

variable {base : WrittenGrammar} {set : GrammarSet} {a : Account} {g : Grammar} {r : Referent}
  {p : Place}

theorem Account.Accounts.lt_ruleCount (h : a.Accounts base set g) {id : RuleId}
    (hid : a.origins[id]? = some r) : id < g.ruleCount :=
  h.length_eq ▸ (List.getElem?_eq_some_iff.1 hid).1

/-- Every origin has its compiled rule. -/
theorem Account.Accounts.exists_explains (h : a.Accounts base set g) {id : RuleId}
    (hid : a.origins[id]? = some r) :
    ∃ compiled, g.rule? id = some compiled ∧ a.Explains base set r compiled := by
  obtain ⟨compiled, hcompiled⟩ := Grammar.exists_rule?_of_lt (h.lt_ruleCount hid)
  obtain ⟨r', hr', hexplains⟩ := h.explains id compiled hcompiled
  obtain rfl := Option.some.inj (hid.symm.trans hr')
  exact ⟨compiled, hcompiled, hexplains⟩

/-- Everything that is compiled has a number. -/
theorem Account.Accounts.exists_denotes (h : a.Accounts base set g) (hr : r ∈ a.origins)
    (hp : p ∈ r.listed) : ∃ id, a.Denotes base set p id := by
  obtain ⟨id, hid⟩ := List.getElem?_of_mem hr
  obtain ⟨compiled, -, hexplains⟩ := h.exists_explains hid
  exact hexplains.exists_denotes hp

/-- What stands in a root or a rule that is met is met. -/
theorem Referent.Met.exists_meetsFrom (hr : r.Met base set) (hp : p ∈ r.listed) :
    ∃ n ∈ grammarsOf base set, ∃ lexical, n.MeetsFrom lexical p := by
  cases r with
  | root n => exact ⟨n, hr, _, WrittenGrammar.meetsFrom_of_mem_listed hp⟩
  | entry rule path around =>
    obtain ⟨n, hn, hmeets⟩ := hr
    refine ⟨n, hn, ?_⟩
    rw [Referent.listed] at hp
    split at hp
    · rw [List.mem_singleton.1 hp]
      exact hmeets
    · exact hmeets.inner hp

/-- Where the paths of landmarks are distinct, so are those around what stands in a rule. -/
theorem Referent.Tidy.nodup_paths (hr : r.Tidy base set) (hdistinct : DistinctPaths base set)
    (hp : p ∈ r.listed) : p.around.paths.Nodup := by
  have hnodup := hr hdistinct
  cases r with
  | root n =>
    rw [Surroundings.around_of_mem_listed hp, Surroundings.paths_ofGrammar]
    exact (List.nodup_append'.1 hnodup).2.1
  | entry rule path around =>
    rw [Referent.listed] at hp
    split at hp
    · rw [List.mem_singleton.1 hp]
      exact (List.nodup_append'.1 hnodup).2.1
    · rw [Surroundings.around_of_mem_listed hp]
      exact nodup_of_subperm (Place.inside_paths_subperm ⟨rule, path, around⟩) hnodup

/-- The number of an include is that of a landmark with the path of what the include refers to, and
where the paths of landmarks are distinct, of that landmark. -/
theorem Account.Accounts.origin_of_denotes (ha : a.Accounts base set g) (hr : r ∈ a.origins)
    (hp : p ∈ r.listed) {target : String} {r' : Referent} (htarget : p.rule.target = some target)
    (hreferent : (Include.ofText? target).bind (p.around.referent? base set) = some r')
    {id : RuleId} (hid : a.Denotes base set p id) :
    ∃ r'', a.origins[id]? = some r'' ∧ r''.landmark.path = r'.landmark.path ∧
      (DistinctPaths base set → r''.landmark = r'.landmark) := by
  obtain ⟨n, hn, lexical, hmeets⟩ := (ha.met r hr).exists_meetsFrom hp
  obtain ⟨include?, -, hreferent'⟩ := Option.bind_eq_some_iff.1 hreferent
  obtain ⟨-, hlandmark⟩ := hmeets.stacked.referent hn hmeets.grammar_eq hreferent'
  cases hid with
  | rule htarget' => exact absurd (htarget.symm.trans htarget') (by simp)
  | included htarget' hreferent'' hknown =>
    obtain rfl := Option.some.inj (htarget.symm.trans htarget')
    obtain rfl := Option.some.inj (hreferent.symm.trans hreferent'')
    obtain ⟨r'', horigin, hpath, hlandmark'⟩ := ha.known _ _ hknown
    exact ⟨r'', horigin, hpath, fun hdistinct => hdistinct.eq_of_path_eq hlandmark' hlandmark hpath⟩

end

theorem rulesOfSlots_map_some (name : String) (i : Nat) (rules : List Rule) :
    rulesOfSlots name i (rules.map some) = .ok rules := by
  induction rules generalizing i with
  | nil => rfl
  | cons rule rules ih =>
    rw [List.map_cons, rulesOfSlots, ih]
    rfl

theorem exists_eq_map_some {α : Type} {slots : List (Option α)} (h : ∀ s ∈ slots, s.isSome) :
    ∃ xs : List α, slots = xs.map some := by
  induction slots with
  | nil => exact ⟨[], rfl⟩
  | cons s slots ih =>
    obtain ⟨hs, hslots⟩ := List.forall_mem_cons.1 h
    obtain ⟨x, rfl⟩ := Option.isSome_iff_exists.1 hs
    obtain ⟨xs, rfl⟩ := ih hslots
    exact ⟨x :: xs, rfl⟩

namespace Grammar

variable {source : WrittenGrammar} {set : GrammarSet} {g : Grammar}

/-- Compiling the root of a grammar, from which everything else is met. -/
def buildRoot (source : WrittenGrammar) (set : GrammarSet) (depth : Nat) :
    Except GrammarError (RuleId × Table) :=
  (source.compileRoot (WrittenRule.compile source set depth)).run {}

/-- The root has the first number, and when it has been compiled, every number has a rule. -/
theorem exists_rules_of_buildRoot {depth : Nat} {root : RuleId} {table : Table}
    (h : buildRoot source set depth = .ok (root, table)) :
    root = 0 ∧ ∃ (rules : List Rule) (origins : List Referent),
      table.slots.toList = rules.map some ∧
        Table.Accounted source set table origins ∧ origins[0]? = some (.root source) := by
  have hempty : Table.Accounted source set {} [] :=
    ⟨rfl, fun _ h => absurd h List.not_mem_nil, fun _ h => absurd h List.not_mem_nil,
      fun _ _ h => absurd h (by simp), fun _ _ h => absurd h (by simp)⟩
  obtain ⟨origins, htable, hgrows, -, hroot⟩ := WrittenGrammar.ensures_compileRoot
    (WrittenRule.faithful_compile source set depth) List.mem_cons_self hempty root table h
  obtain ⟨rfl, hself⟩ := hroot rfl
  have hfilled : ∀ s ∈ table.slots.toList, s.isSome := by
    intro s hs
    obtain ⟨id, hid, rfl⟩ := List.getElem_of_mem hs
    obtain ⟨compiled, hcompiled⟩ := hgrows.filled id (Nat.zero_le id) hid
    rw [← Array.getElem?_toList, List.getElem?_eq_getElem hid] at hcompiled
    rw [Option.some.inj hcompiled]
    rfl
  obtain ⟨rules, hrules⟩ := exists_eq_map_some hfilled
  exact ⟨rfl, rules, origins, hrules, htable, hself⟩

theorem compile_eq (source : WrittenGrammar) (set : GrammarSet) :
    compile source set =
      if (Text.trimChars source.scopeName.toList).isEmpty then
        .error (.emptyGrammar (source.name.getD ""))
      else if source.injections.isSome then
        .error (.unsupportedRule source.scopeName "injections" .injections)
      else (do
        let (root, table) ← buildRoot source set (compileDepth source set)
        let rules ← rulesOfSlots source.scopeName 0 table.slots.toList
        return ofRules source.scopeName root rules.toArray) := by
  unfold compile
  split
  · rfl
  · split <;> rfl

/-- Where the root compiles, so does the grammar. -/
theorem bind_buildRoot_of_ok {depth : Nat} {root : RuleId} {table : Table} {rules : List Rule}
    (h : buildRoot source set depth = .ok (root, table))
    (hrules : table.slots.toList = rules.map some) :
    (do
      let (root, table) ← buildRoot source set depth
      let rules ← rulesOfSlots source.scopeName 0 table.slots.toList
      return ofRules source.scopeName root rules.toArray) =
      .ok (ofRules source.scopeName root rules.toArray) := by
  rw [h]
  show (do
    let rules ← rulesOfSlots source.scopeName 0 table.slots.toList
    return ofRules source.scopeName root rules.toArray) = _
  rw [hrules, rulesOfSlots_map_some]
  rfl

/-- A grammar that compiles has no injections, and it consists of the rules in a table. -/
theorem exists_table (h : compile source set = .ok g) : source.injections = none ∧
    ∃ (table : Table) (rules : List Rule) (origins : List Referent),
      buildRoot source set (compileDepth source set) = .ok (0, table) ∧
        table.slots.toList = rules.map some ∧ Table.Accounted source set table origins ∧
          origins[0]? = some (.root source) ∧ g = ofRules source.scopeName 0 rules.toArray := by
  rw [compile_eq] at h
  split at h
  · exact absurd h (by simp)
  · split at h
    · exact absurd h (by simp)
    · rename_i hinjections
      refine ⟨by simpa using hinjections, ?_⟩
      cases hroot : buildRoot source set (compileDepth source set) with
      | error e =>
        rw [hroot] at h
        exact nomatch h
      | ok built =>
        obtain ⟨root, table⟩ := built
        obtain ⟨rfl, rules, origins, hrules, htable, hself⟩ := exists_rules_of_buildRoot hroot
        rw [bind_buildRoot_of_ok hroot hrules] at h
        exact ⟨table, rules, origins, rfl, hrules, htable, hself, (Except.ok.inj h).symm⟩

theorem exists_ok_of_any {P : Grammar → Bool} (h : (compile source set).toOption.any P) :
    ∃ g, compile source set = .ok g ∧ P g := by
  cases hg : compile source set with
  | error e =>
    rw [hg] at h
    exact absurd h (by simp [Except.toOption])
  | ok g =>
    rw [hg] at h
    exact ⟨g, rfl, h⟩

/-- **A grammar that compiles has an account of its rules.** -/
theorem exists_account (h : compile source set = .ok g) :
    ∃ a : Account, a.Accounts source set g := by
  obtain ⟨-, table, rules, origins, -, hrules, htable, hself, rfl⟩ := exists_table h
  have hsize : table.slots.size = rules.length := by
    rw [← Array.length_toList, hrules, List.length_map]
  refine ⟨table.account origins, ?_, hself, htable.met, htable.tidy, htable.known,
    fun id compiled hid => ?_⟩
  · exact htable.length_eq.trans hsize
  · refine htable.explains id compiled ?_
    have hid : rules[id]? = some compiled := by
      rw [← hid]
      exact (List.getElem?_toArray).symm
    rw [← Array.getElem?_toList, hrules, List.getElem?_map, hid]
    rfl

end Grammar

/-! ### Outlines -/

/-- The scope that a rule gives to what it matches. -/
def Rule.name? : Rule → Option Scope
  | matching rule => rule.name
  | span rule => rule.name
  | group _ => none

/-- The names of the rules of a grammar, with the numbers of the rules that they list. -/
def Grammar.outline (g : Grammar) : List (Option Scope × List RuleId) :=
  g.rules.toList.map fun rule => (rule.name?, rule.patterns)

end Highlight
