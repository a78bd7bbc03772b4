import Highlight.Language
import Highlight.Proofs.Text.Distinct
import Mathlib.Data.List.Find
import Mathlib.Data.List.Nodup

/-!
# Registered languages

A language that is registered takes the place of the one with its id, or comes last
(`Languages.register_cases`).  So the ids are those under which languages have been registered, each
where it first came up (`Languages.After.map_id`), and a language stays where it is until another
one is registered under its id (`Languages.getElem?_registerAll`).

Looking for an id finds the language registered last under it, unless one that stands before has the
id as an alias (`Languages.byId?_append_cons`): an alias counts as much as an id does, and the first
language that fits is taken.
-/

namespace Highlight

/-- Whether a name is an alias of the language, in any case. -/
def Language.hasAlias (l : Language) (name : String) : Bool :=
  l.aliases.any fun a => Text.sameIgnoringCase a name

theorem Language.hasName_eq (l : Language) (name : String) :
    l.hasName name = (l.id == name || l.hasAlias name) := rfl

namespace Languages

variable {r : Languages} {registered front back : List Language} {l m : Language} {i : Nat}

/-- With distinct ids, what stands before or behind a language has another id. -/
theorem id_ne_of_mem (hnodup : ((front ++ l :: back).map Language.id).Nodup)
    (hm : m ∈ front ++ back) : m.id ≠ l.id := by
  rw [List.map_append, List.map_cons, List.nodup_middle, ← List.map_append] at hnodup
  intro hid
  apply (List.nodup_cons.1 hnodup).1
  rw [← hid]
  exact List.mem_map_of_mem hm

/-! ### One registration -/

/-- A language that is registered replaces the first one with its id, or else it comes last. -/
theorem register_cases (r : Languages) (l : Language) :
    (∃ front m back, r = front ++ m :: back ∧ m.id = l.id ∧ (∀ n ∈ front, n.id ≠ l.id) ∧
      r.register l = front ++ l :: back) ∨
    ((∀ n ∈ r, n.id ≠ l.id) ∧ r.register l = r ++ [l]) := by
  induction r with
  | nil => exact .inr ⟨List.forall_mem_nil _, rfl⟩
  | cons first rest ih =>
    by_cases hid : first.id = l.id
    · have hregister : register (first :: rest) l = l :: rest := by
        rw [register, if_pos (beq_iff_eq.2 hid)]
      exact .inl ⟨[], first, rest, rfl, hid, List.forall_mem_nil _, hregister⟩
    · have hregister : register (first :: rest) l = first :: register rest l := by
        rw [register, if_neg (mt beq_iff_eq.1 hid)]
      rw [hregister]
      obtain ⟨front, m, back, hrest, hm, hfront, hput⟩ | ⟨hnew, hput⟩ := ih
      · refine .inl ⟨first :: front, m, back, ?_, hm, List.forall_mem_cons.2 ⟨hid, hfront⟩, ?_⟩
        · rw [hrest, List.cons_append]
        · rw [hput, List.cons_append]
      · refine .inr ⟨List.forall_mem_cons.2 ⟨hid, hnew⟩, ?_⟩
        rw [hput, List.cons_append]

/-- The ids are those there were and, if it is new, that of the language. -/
theorem map_id_register (r : Languages) (l : Language) :
    (r.register l).map Language.id = Text.appendNew (r.map Language.id) l.id := by
  obtain ⟨front, m, back, rfl, hm, -, hput⟩ | ⟨hnew, hput⟩ := register_cases r l
  · have hmem : l.id ∈ (front ++ m :: back).map Language.id :=
      List.mem_map.2 ⟨m, by simp, hm⟩
    rw [hput, Text.appendNew_of_mem hmem, List.map_append, List.map_append, List.map_cons,
      List.map_cons, hm]
  · have hnot : l.id ∉ r.map Language.id := by
      intro hmem
      obtain ⟨n, hn, hid⟩ := List.mem_map.1 hmem
      exact hnew n hn hid
    rw [hput, Text.appendNew_of_not_mem hnot, List.map_append, List.map_singleton]

theorem mem_register_self (r : Languages) (l : Language) : l ∈ r.register l := by
  obtain ⟨front, m, back, -, -, -, hput⟩ | ⟨-, hput⟩ := register_cases r l
  · rw [hput]
    simp
  · rw [hput]
    simp

/-- The language at a place changes only when another one is registered under its id. -/
theorem getElem?_register (hnodup : (r.map Language.id).Nodup) (h : r[i]? = some m) :
    (r.register l)[i]? = some (if m.id = l.id then l else m) := by
  obtain ⟨front, m', back, rfl, hm', hfront, hput⟩ | ⟨hnew, hput⟩ := register_cases r l
  · rw [hput]
    obtain hlt | rfl | hgt := Nat.lt_trichotomy i front.length
    · rw [List.getElem?_append_left hlt] at h ⊢
      rw [if_neg (hfront m (List.mem_of_getElem? h)), h]
    · rw [List.getElem?_append_right (Nat.le_refl _), Nat.sub_self, List.getElem?_cons_zero] at h ⊢
      obtain rfl := Option.some.inj h
      rw [if_pos hm']
    · -- what stands behind the one that is replaced has another id than that
      obtain ⟨j, hj⟩ : ∃ j, i - front.length = j + 1 := ⟨i - front.length - 1, by omega⟩
      rw [List.getElem?_append_right (by omega), hj, List.getElem?_cons_succ] at h ⊢
      have hne : m.id ≠ m'.id :=
        id_ne_of_mem hnodup (List.mem_append_right _ (List.mem_of_getElem? h))
      rw [if_neg (hm' ▸ hne), h]
  · have hlt : i < r.length := (List.getElem?_eq_some_iff.1 h).1
    rw [hput, List.getElem?_append_left hlt, h, if_neg (hnew m (List.mem_of_getElem? h))]

/-! ### Registering one after the other -/

/-- Registers languages in order. -/
def registerAll (r : Languages) (more : List Language) : Languages := more.foldl register r

theorem registerAll_cons (r : Languages) (l : Language) (more : List Language) :
    r.registerAll (l :: more) = (r.register l).registerAll more := rfl

theorem registerAll_append (r : Languages) (some more : List Language) :
    r.registerAll (some ++ more) = (r.registerAll some).registerAll more :=
  List.foldl_append

theorem map_id_registerAll (r : Languages) (more : List Language) :
    (r.registerAll more).map Language.id =
      (more.map Language.id).foldl Text.appendNew (r.map Language.id) := by
  induction more generalizing r with
  | nil => rfl
  | cons l more ih => rw [registerAll_cons, ih, map_id_register, List.map_cons, List.foldl_cons]

/-- At every place there remains a language of the same id, and the same language unless another one
is registered under that id. -/
theorem getElem?_registerAll (hnodup : (r.map Language.id).Nodup) (h : r[i]? = some m)
    (more : List Language) : ∃ m', (r.registerAll more)[i]? = some m' ∧ m'.id = m.id ∧
      ((∀ l ∈ more, l.id ≠ m.id) → m' = m) := by
  induction more generalizing r m with
  | nil => exact ⟨m, h, rfl, fun _ => rfl⟩
  | cons l more ih =>
    have hnodup' : ((r.register l).map Language.id).Nodup := by
      rw [map_id_register]
      exact Text.nodup_appendNew hnodup l.id
    obtain ⟨m', hm', hid, hkept⟩ := ih hnodup' (getElem?_register hnodup h)
    rw [registerAll_cons]
    refine ⟨m', hm', ?_, fun hnone => ?_⟩
    · rw [hid]
      split
      · rename_i heq
        exact heq.symm
      · rfl
    · obtain ⟨hne, hnone⟩ := List.forall_mem_cons.1 hnone
      rw [if_neg hne.symm] at hkept
      exact hkept hnone

/-- How languages come to be registered, with all that have been, the first one first.  The language
that is always there counts as registered at the start. -/
inductive After : List Language → Languages → Prop where
  | empty : After [] .empty
  | standard : After [.bbcode] .standard
  | ofRegistrations (entries : List LanguageRegistration) :
    After (.bbcode :: entries.map .ofRegistration) (.ofRegistrations entries)
  | register {registered : List Language} {r : Languages} (h : After registered r) (l : Language) :
    After (registered ++ [l]) (r.register l)

namespace After

/-- However they come to be registered, it is one after the other. -/
theorem eq_registerAll (h : After registered r) : r = registerAll [] registered := by
  induction h with
  | empty => rfl
  | standard => rfl
  | ofRegistrations entries =>
    show Languages.ofRegistrations entries = registerAll (.register [] .bbcode) _
    rw [registerAll, List.foldl_map]
    rfl
  | register _ l ih =>
    rw [ih, registerAll_append]
    rfl

/-- The ids are those under which languages have been registered, each where it first came up. -/
theorem map_id (h : After registered r) :
    r.map Language.id = (registered.map Language.id).eraseDups := by
  rw [h.eq_registerAll, map_id_registerAll, List.map_nil, Text.foldl_appendNew_nil]

theorem nodup (h : After registered r) : (r.map Language.id).Nodup := by
  rw [h.map_id, ← Text.foldl_appendNew_nil]
  exact Text.nodup_foldl_appendNew .nil _

/-- The language registered last under its id is there. -/
theorem mem_of_last {before after : List Language} (h : After (before ++ l :: after) r)
    (hlast : ∀ m ∈ after, m.id ≠ l.id) : l ∈ r := by
  have hnodup : (((registerAll [] before).register l).map Language.id).Nodup := by
    rw [map_id_register, map_id_registerAll]
    exact Text.nodup_appendNew (Text.nodup_foldl_appendNew .nil _) _
  obtain ⟨i, hi⟩ := List.getElem?_of_mem (mem_register_self (registerAll [] before) l)
  obtain ⟨m, hm, -, hkept⟩ := getElem?_registerAll hnodup hi after
  obtain rfl := hkept hlast
  rw [h.eq_registerAll, registerAll_append, registerAll_cons]
  exact List.mem_of_getElem? hm

end After

/-! ### Looking for an id -/

/-- With distinct ids, an id is that of the language that has it as an alias and stands first before
the language of that id, or of that language itself. -/
theorem byId?_append_cons (hnodup : ((front ++ l :: back).map Language.id).Nodup) :
    byId? (front ++ l :: back) l.id = (front.find? (·.hasAlias l.id)).or (some l) := by
  have hself : l.hasName l.id = true := by simp [Language.hasName_eq]
  have hfront : front.find? (·.hasName l.id) = front.find? (·.hasAlias l.id) := by
    apply List.find?_congr
    intro m hm
    have hne : m.id ≠ l.id := id_ne_of_mem hnodup (List.mem_append_left _ hm)
    rw [Language.hasName_eq, beq_false_of_ne hne, Bool.false_or]
  rw [byId?, List.find?_append, List.find?_cons, hself, hfront]

/-- **A registered language is found under its id, if no alias stands before it.**  The ids are
distinct, in the order in which they first came up.  Whatever else is registered, every place keeps
its id, and its language unless one is registered under that id.  Looking for the id of the language
registered last under it finds that language, or the first one before it that has the id as an
alias. -/
theorem After.byId?_lastRegistered (h : After registered r) :
    (r.map Language.id).Nodup ∧ r.map Language.id = (registered.map Language.id).eraseDups ∧
    (∀ (i : Nat) (m : Language) (more : List Language), r[i]? = some m →
      ∃ m', (r.registerAll more)[i]? = some m' ∧ m'.id = m.id ∧
        ((∀ l ∈ more, l.id ≠ m.id) → m' = m)) ∧
    ∀ before l after, registered = before ++ l :: after → (∀ m ∈ after, m.id ≠ l.id) →
      ∃ front back, r = front ++ l :: back ∧
        (byId? r l.id = some l ↔ ∀ m ∈ front, m.hasAlias l.id = false) ∧
        ∀ m, front.find? (·.hasAlias l.id) = some m → byId? r l.id = some m ∧ m.id ≠ l.id := by
  refine ⟨h.nodup, h.map_id, fun i m more hm => getElem?_registerAll h.nodup hm more, ?_⟩
  rintro before l after rfl hlast
  obtain ⟨front, back, rfl⟩ := List.append_of_mem (h.mem_of_last hlast)
  have hfound := byId?_append_cons h.nodup
  have hne : ∀ m ∈ front, m.id ≠ l.id := fun m hm =>
    id_ne_of_mem h.nodup (List.mem_append_left _ hm)
  refine ⟨front, back, rfl, ?_⟩
  rw [hfound]
  cases hfind : front.find? (·.hasAlias l.id) with
  | none =>
    refine ⟨⟨fun _ m hm => ?_, fun _ => rfl⟩, fun m hm => nomatch hm⟩
    simpa using List.find?_eq_none.1 hfind m hm
  | some n =>
    have hn := List.mem_of_find?_eq_some hfind
    have halias : n.hasAlias l.id = true := (List.find?_eq_some_iff_append.1 hfind).1
    refine ⟨⟨fun hself => ?_, fun hnone => ?_⟩, fun m hm => ?_⟩
    · exact absurd (congrArg Language.id (Option.some.inj hself)) (hne n hn)
    · exact absurd (halias.symm.trans (hnone n hn)) (by decide)
    · obtain rfl := Option.some.inj hm
      exact ⟨rfl, hne n hn⟩

/-- The language that is always there is registered anew.  It keeps its place, and there it is found
before another one that has its id as an alias. -/
theorem byId?_lastRegistered_anew :
    let forum : Language := ⟨"forum", "text.forum", [], ["BBCode"], "forum.json"⟩
    let anew : Language := { Language.bbcode with grammarPath := "other.json" }
    let r := (standard.register forum).register anew
    After ([.bbcode] ++ [forum] ++ [anew]) r ∧ r = [anew, forum] ∧ forum.hasAlias "bbcode" = true ∧
      r.byId? "bbcode" = some anew := by
  intro forum anew r
  have h : After ([.bbcode] ++ [forum] ++ [anew]) r :=
    .register (.register .standard forum) anew
  obtain ⟨-, -, -, hfound⟩ := h.byId?_lastRegistered
  obtain ⟨front, back, hr, hself, -⟩ := hfound _ anew [] rfl (List.forall_mem_nil _)
  have hall : r = [anew, forum] := by decide
  refine ⟨h, hall, by decide, hself.2 ?_⟩
  -- nothing stands before the first place
  cases front with
  | nil => exact List.forall_mem_nil _
  | cons first front =>
    have hfirst : anew = first := (List.cons.inj (hall.symm.trans hr)).1
    have hne : first.id ≠ anew.id := id_ne_of_mem (hr ▸ h.nodup) (by simp)
    exact absurd (congrArg Language.id hfirst.symm) hne

/-- A language whose id is an alias of the one that is always there is not found under it. -/
theorem not_found_bbc :
    ¬ ∀ (registered : List Language) (r : Languages), After registered r →
      ∀ before l after, registered = before ++ l :: after → (∀ m ∈ after, m.id ≠ l.id) →
        byId? r l.id = some l := by
  intro h
  let e : LanguageRegistration := { id := "bbc", scopeName := "text.bbc" }
  have hfound := h _ _ (.ofRegistrations [e]) [.bbcode] _ [] rfl (List.forall_mem_nil _)
  have hfirst : byId? (ofRegistrations [e]) "bbc" = some .bbcode := by decide
  exact absurd (hfirst.symm.trans hfound) (by decide)

end Languages

end Highlight
