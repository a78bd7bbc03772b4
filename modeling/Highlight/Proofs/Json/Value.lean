import Highlight.Json.Value
import Mathlib.Data.String.Basic
import Mathlib.Data.List.Perm.Basic

/-!
# Values by their parts

What holds of a value as soon as it holds of its parts holds of every value (`Json.induction`).

A map is a list of members in the order of their keys (`InOrder`).  `putMembers` puts members into
such a list one after the other, and so sorts members with distinct keys: however they stand, they
come out in order (`putMembers_eq_of_perm`).

`Json.ordered` is a value with the members of its objects in the order of their keys.  It is an
**arrangement**: it changes nothing but the order in which members stand (`Arrangement`).
-/

namespace Highlight.Json

/-! ### Values by their parts -/

/-- What holds of a value if it holds of its parts holds of every value. -/
@[elab_as_elim]
theorem induction {motive : Json → Prop} (null : motive null) (bool : ∀ b, motive (bool b))
    (integer : ∀ n, motive (integer n)) (real : ∀ written, motive (real written))
    (string : ∀ s, motive (string s))
    (array : ∀ items, (∀ j ∈ items, motive j) → motive (array items))
    (object : ∀ members, (∀ m ∈ members, motive m.2) → motive (object members)) :
    ∀ j, motive j :=
  @Json.rec motive (fun items => ∀ j ∈ items, motive j) (fun members => ∀ m ∈ members, motive m.2)
    (fun m => motive m.2) null bool integer real string array object (List.forall_mem_nil _)
    (fun _ _ hj hitems => List.forall_mem_cons.2 ⟨hj, hitems⟩) (List.forall_mem_nil _)
    (fun _ _ hm hmembers => List.forall_mem_cons.2 ⟨hm, hmembers⟩) (fun _ _ hvalue => hvalue)

mutual

/-- No real number is in the value. -/
def HasNoReal : Json → Prop
  | real _ => False
  | array items => ItemsHaveNoReal items
  | object members => MembersHaveNoReal members
  | null | bool _ | integer _ | string _ => True

/-- No real number is in the elements of an array. -/
def ItemsHaveNoReal : List Json → Prop
  | [] => True
  | item :: items => item.HasNoReal ∧ ItemsHaveNoReal items

/-- No real number is in the members of an object. -/
def MembersHaveNoReal : List (String × Json) → Prop
  | [] => True
  | (_, value) :: members => value.HasNoReal ∧ MembersHaveNoReal members

end

theorem hasNoReal_array {items : List Json} :
    (array items).HasNoReal ↔ ∀ j ∈ items, j.HasNoReal := by
  rw [HasNoReal]
  induction items with
  | nil => simp [ItemsHaveNoReal]
  | cons item items ih => rw [ItemsHaveNoReal, ih, List.forall_mem_cons]

theorem hasNoReal_object {members : List (String × Json)} :
    (object members).HasNoReal ↔ ∀ m ∈ members, m.2.HasNoReal := by
  rw [HasNoReal]
  induction members with
  | nil => simp [MembersHaveNoReal]
  | cons m members ih => rw [MembersHaveNoReal, ih, List.forall_mem_cons]

variable {α β : Type}

/-! ### Lists of members -/

/-- The members stand in the order of their keys, each key once. -/
def InOrder (members : List (String × α)) : Prop := members.Pairwise (·.1 < ·.1)

/-- Puts members into a list ordered by key, one after the other. -/
def putMembers (read members : List (String × α)) : List (String × α) :=
  members.foldl (fun read m => putMember m.1 m.2 read) read

theorem InOrder.nodup {members : List (String × α)} (h : InOrder members) :
    (members.map Prod.fst).Nodup := by
  rw [List.nodup_iff_pairwise_ne, List.pairwise_map]
  exact h.imp ne_of_lt

theorem InOrder.map {members : List (String × α)} (h : InOrder members) (f : α → β) :
    InOrder (members.map fun m => (m.1, f m.2)) :=
  List.pairwise_map.2 h

theorem mem_or_mem_of_mem_putMember {key : String} {value : α} {members : List (String × α)}
    {m : String × α} (h : m ∈ putMember key value members) : m = (key, value) ∨ m ∈ members := by
  induction members with
  | nil => exact .inl (List.mem_singleton.1 h)
  | cons first members ih =>
    rw [putMember] at h
    split at h
    · exact List.mem_cons.1 h
    · split at h
      · exact (List.mem_cons.1 h).imp_right (List.mem_cons_of_mem _)
      · obtain rfl | h := List.mem_cons.1 h
        · exact .inr List.mem_cons_self
        · exact (ih h).imp_right (List.mem_cons_of_mem _)

theorem InOrder.putMember {members : List (String × α)} (h : InOrder members) (key : String)
    (value : α) : InOrder (putMember key value members) := by
  induction members with
  | nil => exact List.pairwise_singleton _ _
  | cons first members ih =>
    obtain ⟨hfirst, hmembers⟩ := List.pairwise_cons.1 h
    rw [Json.putMember]
    split
    next hlt =>
      refine List.pairwise_cons.2 ⟨fun m hm => ?_, h⟩
      obtain rfl | hm := List.mem_cons.1 hm
      · exact hlt
      · exact hlt.trans (hfirst m hm)
    next hlt =>
      split
      next heq =>
        rw [beq_iff_eq] at heq
        exact List.pairwise_cons.2 ⟨fun m hm => heq ▸ hfirst m hm, hmembers⟩
      next hne =>
        have hgt : first.1 < key :=
          lt_of_le_of_ne (not_lt.1 hlt) fun heq => hne (beq_iff_eq.2 heq.symm)
        refine List.pairwise_cons.2 ⟨fun m hm => ?_, ih hmembers⟩
        obtain rfl | hm := mem_or_mem_of_mem_putMember hm
        · exact hgt
        · exact hfirst m hm

theorem putMember_perm {key : String} {members : List (String × α)}
    (h : key ∉ members.map Prod.fst) (value : α) :
    (putMember key value members).Perm ((key, value) :: members) := by
  induction members with
  | nil => exact List.Perm.refl _
  | cons first members ih =>
    rw [List.map_cons, List.mem_cons, not_or] at h
    rw [putMember]
    split
    · exact List.Perm.refl _
    · rw [if_neg (by simpa using h.1)]
      exact ((ih h.2).cons _).trans (List.Perm.swap ..)

theorem InOrder.putMembers {read : List (String × α)} (h : InOrder read)
    (members : List (String × α)) : InOrder (putMembers read members) := by
  induction members generalizing read with
  | nil => exact h
  | cons m members ih => exact ih (h.putMember m.1 m.2)

theorem mem_or_mem_of_mem_putMembers {read members : List (String × α)} {m : String × α}
    (h : m ∈ putMembers read members) : m ∈ read ∨ m ∈ members := by
  induction members generalizing read with
  | nil => exact .inl h
  | cons first members ih =>
    obtain h | h := ih h
    · obtain rfl | h := mem_or_mem_of_mem_putMember h
      · exact .inr List.mem_cons_self
      · exact .inl h
    · exact .inr (List.mem_cons_of_mem _ h)

theorem putMembers_perm {read members : List (String × α)}
    (h : ((members ++ read).map Prod.fst).Nodup) :
    (putMembers read members).Perm (members ++ read) := by
  induction members generalizing read with
  | nil => exact List.Perm.refl _
  | cons m members ih =>
    rw [List.cons_append, List.map_cons, List.nodup_cons, List.map_append, List.mem_append,
      not_or] at h
    have hput : (putMember m.1 m.2 read).Perm (m :: read) := putMember_perm h.1.2 m.2
    have hmoved : (members ++ putMember m.1 m.2 read).Perm (m :: (members ++ read)) :=
      (hput.append_left members).trans List.perm_middle
    have hnodup : ((m :: (members ++ read)).map Prod.fst).Nodup := by
      rw [List.map_cons, List.nodup_cons, List.map_append, List.mem_append, not_or]
      exact h
    exact (ih ((hmoved.map _).nodup_iff.2 hnodup)).trans hmoved

/-- **Members with distinct keys are sorted**, however they stand. -/
theorem putMembers_eq_of_perm {members sorted : List (String × α)} (hperm : members.Perm sorted)
    (h : InOrder sorted) : putMembers [] members = sorted := by
  have hnodup : ((members ++ []).map Prod.fst).Nodup := by
    rw [List.append_nil]
    exact ((hperm.map _).nodup_iff).2 h.nodup
  have hput : (putMembers [] members).Perm sorted := by
    simpa using (putMembers_perm hnodup).trans (by simpa using hperm)
  refine List.Perm.eq_of_pairwise (fun a b _ _ hab hba => absurd hba hab.asymm)
    (InOrder.putMembers List.Pairwise.nil members) h hput

/-! ### Arrangements -/

/-- A function on values that changes at most the order in which the members of objects stand, as
long as no object has two members with the same key. -/
structure Arrangement (form : Json → Json) : Prop where
  null : form null = null
  bool : ∀ b, form (bool b) = bool b
  integer : ∀ n, form (integer n) = integer n
  string : ∀ s, form (string s) = string s
  array : ∀ items, form (array items) = array (items.map form)
  object : ∀ members, ∃ arranged, form (object members) = object arranged ∧
    arranged ⊆ members.map (fun m => (m.1, form m.2)) ∧
    ((members.map Prod.fst).Nodup → arranged.Perm (members.map fun m => (m.1, form m.2)))

theorem arrangement_id : Arrangement id where
  null := rfl
  bool _ := rfl
  integer _ := rfl
  string _ := rfl
  array items := by rw [List.map_id]; rfl
  object members := ⟨members, rfl, by simp, by simp⟩

theorem Arrangement.hasNoReal {form : Json → Json} (hform : Arrangement form) {j : Json}
    (hj : j.HasNoReal) : (form j).HasNoReal := by
  induction j using Json.induction with
  | null => rwa [hform.null]
  | bool b => rwa [hform.bool]
  | integer n => rwa [hform.integer]
  | real written => rw [HasNoReal] at hj; exact hj.elim
  | string s => rwa [hform.string]
  | array items ih =>
    rw [hform.array, hasNoReal_array, List.forall_mem_map]
    exact fun j h => ih j h (hasNoReal_array.1 hj j h)
  | object members ih =>
    obtain ⟨arranged, heq, hsubset, -⟩ := hform.object members
    rw [heq, hasNoReal_object]
    intro m hm
    obtain ⟨m, hmem, rfl⟩ := List.mem_map.1 (hsubset hm)
    exact ih m hmem (hasNoReal_object.1 hj m hmem)

mutual

/-- A value with the members of its objects in the order of their keys, as a sorted map keeps them.
Of two members with the same key the later one counts. -/
def ordered : Json → Json
  | array items => array (orderedItems items)
  | object members => object (orderedMembers [] members)
  | null => null
  | bool b => bool b
  | integer n => integer n
  | real written => real written
  | string s => string s

/-- The elements of an array, each with its members in order. -/
def orderedItems : List Json → List Json
  | [] => []
  | item :: items => item.ordered :: orderedItems items

/-- The members of an object in the order of their keys, put in after those of `read`. -/
def orderedMembers : List (String × Json) → List (String × Json) → List (String × Json)
  | read, [] => read
  | read, (key, value) :: members => orderedMembers (putMember key value.ordered read) members

end

theorem orderedItems_eq_map (items : List Json) : orderedItems items = items.map ordered := by
  induction items with
  | nil => rfl
  | cons item items ih => rw [orderedItems, ih, List.map_cons]

theorem orderedMembers_eq_putMembers (read members : List (String × Json)) :
    orderedMembers read members = putMembers read (members.map fun m => (m.1, m.2.ordered)) := by
  induction members generalizing read with
  | nil => rfl
  | cons m members ih => exact ih _

theorem arrangement_ordered : Arrangement ordered where
  null := by rw [ordered]
  bool _ := by rw [ordered]
  integer _ := by rw [ordered]
  string _ := by rw [ordered]
  array items := by rw [ordered, orderedItems_eq_map]
  object members := by
    refine ⟨_, by rw [ordered, orderedMembers_eq_putMembers], fun m hm => ?_, fun hnodup => ?_⟩
    · exact (mem_or_mem_of_mem_putMembers hm).resolve_left List.not_mem_nil
    · have hkeys : ((members.map fun m => (m.1, m.2.ordered)).map Prod.fst) =
          members.map Prod.fst := by simp
      simpa using @putMembers_perm _ [] _ (by rwa [List.append_nil, hkeys])

end Highlight.Json
