import Highlight.Json.Decode
import Highlight.Proofs.Json.Reading
import Highlight.Proofs.Steps
import Mathlib.Data.List.Forall2
import Mathlib.Data.List.Perm.Basic

/-!
# Decoding what was written

What a decoder takes out of a document is taken out of its written form again, by the same decoder
or one with more room, and out of any arrangement of that form.  For each kind of decoder there is
one lemma on what it gives (`list_ok`, `map_ok`, `record_preserves`, `anyValue_ok`) and one on what
it gives for an arrangement of a written value (`list_arrangement`, `map_arrangement`,
`record_arrangement`, `anyValue_arrangement`).  No measure of how deep a value is nested is needed:
that there is room for it is known from its having been read.

A record is read member by member.  What has been read at any time is the record with the fields
given so far (`given`), whatever their order, and each member adds its field to it (`Adds`).
-/

namespace Highlight.Json.Decode

variable {α β σ : Type} {room : Nat}

theorem enter_eq_ok : enter room = .ok () ↔ 2 ≤ room := by
  rw [enter]
  split <;> simp <;> omega

/-! ### Optional values -/

theorem option_of_ne_null {value : Decoder α} {d : Doc} {x : α} (hd : d ≠ .null)
    (h : value d = .ok x) : option value d = .ok (some x) := by
  cases d with
  | null => exact absurd rfl hd
  | _ => simp [option, h, Except.map]

theorem option_ok {value : Decoder α} {d : Doc} {x : α} (h : option value d = .ok (some x)) :
    d ≠ .null ∧ value d = .ok x := by
  cases d with
  | null => cases h
  | _ =>
    obtain ⟨y, hy, heq⟩ := map_eq_ok.1 h
    cases heq
    exact ⟨nofun, hy⟩

/-! ### Lists -/

section Lists

variable {dec again : Decoder α} {write : α → Json}

theorem elements_ok {items : List Doc} {xs : List α} (h : elements dec items = .ok xs) :
    ∀ x ∈ xs, ∃ d, dec d = .ok x := by
  induction items generalizing xs with
  | nil => cases h; simp
  | cons d items ih =>
    obtain ⟨x, hx, h⟩ := bind_eq_ok.1 h
    obtain ⟨rest, hrest, h⟩ := bind_eq_ok.1 h
    cases h
    exact List.forall_mem_cons.2 ⟨⟨d, hx⟩, ih hrest⟩

theorem list_ok {d : Doc} {xs : List α} (h : list room dec d = .ok xs) :
    2 ≤ room ∧ ∀ x ∈ xs, ∃ d, dec d = .ok x := by
  cases d with
  | array items stop =>
    obtain ⟨_, henter, h⟩ := bind_eq_ok.1 h
    obtain ⟨xs, hxs, h⟩ := bind_eq_ok.1 h
    obtain ⟨_, -, h⟩ := bind_eq_ok.1 h
    cases h
    exact ⟨enter_eq_ok.1 henter, elements_ok hxs⟩
  | _ => cases h

theorem elements_docsOfItems {xs : List α} (h : ∀ x ∈ xs, again (write x).toDoc = .ok x) :
    elements again (docsOfItems (xs.map write)) = .ok xs := by
  induction xs with
  | nil => rfl
  | cons x xs ih =>
    rw [List.forall_mem_cons] at h
    simp [docsOfItems, elements, h.1, ih h.2, bind, Except.bind, pure, Except.pure]

theorem list_array (hroom : 2 ≤ room) {xs : List α}
    (h : ∀ x ∈ xs, again (write x).toDoc = .ok x) :
    list room again (array (xs.map write)).toDoc = .ok xs := by
  rw [toDoc, list, enter_eq_ok.2 hroom, elements_docsOfItems h]
  rfl

/-! ### Maps -/

theorem entries_ok {read es : List (String × α)} {members : List (Quoted × Doc)}
    (hread : InOrder read) (hgiven : ∀ e ∈ read, ∃ d, dec d = .ok e.2)
    (h : entries dec read members = .ok es) : InOrder es ∧ ∀ e ∈ es, ∃ d, dec d = .ok e.2 := by
  induction members generalizing read with
  | nil => cases h; exact ⟨hread, hgiven⟩
  | cons m members ih =>
    obtain ⟨key, -, h⟩ := bind_eq_ok.1 h
    obtain ⟨x, hx, h⟩ := bind_eq_ok.1 h
    refine ih (hread.putMember key x) (fun e he => ?_) h
    obtain rfl | he := mem_or_mem_of_mem_putMember he
    · exact ⟨_, hx⟩
    · exact hgiven e he

theorem map_ok {d : Doc} {es : List (String × α)} (h : map room dec d = .ok es) :
    2 ≤ room ∧ InOrder es ∧ ∀ e ∈ es, ∃ d, dec d = .ok e.2 := by
  cases d with
  | object members stop =>
    obtain ⟨_, henter, h⟩ := bind_eq_ok.1 h
    obtain ⟨read, hread, h⟩ := bind_eq_ok.1 h
    obtain ⟨_, -, h⟩ := bind_eq_ok.1 h
    cases h
    exact ⟨enter_eq_ok.1 henter, entries_ok List.Pairwise.nil (List.forall_mem_nil _) hread⟩
  | _ => cases h

theorem entries_docsOfMembers {read es : List (String × α)}
    (h : ∀ e ∈ es, again (write e.2).toDoc = .ok e.2) :
    entries again read (docsOfMembers (es.map fun e => (e.1, write e.2))) =
      .ok (putMembers read es) := by
  induction es generalizing read with
  | nil => rfl
  | cons e es ih =>
    rw [List.forall_mem_cons] at h
    simp only [List.map_cons, docsOfMembers, entries, h.1, ih h.2, bind, Except.bind]
    rfl

theorem exists_perm_of_perm_map {f : α → β} {ys : List β} {xs : List α} (h : ys.Perm (xs.map f)) :
    ∃ xs' : List α, xs'.Perm xs ∧ ys = xs'.map f := by
  have hpointwise : List.Forall₂ (fun y x => y = f x) (xs.map f) xs := by
    simp [List.forall₂_map_left_iff, List.forall₂_same]
  obtain ⟨xs', heq, hperm⟩ := List.perm_comp_forall₂ h hpointwise
  refine ⟨xs', hperm, ?_⟩
  rwa [← List.forall₂_eq_eq_eq, List.forall₂_map_right_iff]

theorem map_object (hroom : 2 ≤ room) {es : List (String × α)} (hes : InOrder es)
    {arranged : List (String × Json)}
    (harranged : arranged.Perm (es.map fun e => (e.1, write e.2)))
    (h : ∀ e ∈ es, again (write e.2).toDoc = .ok e.2) :
    map room again (object arranged).toDoc = .ok es := by
  obtain ⟨es', hperm, rfl⟩ := exists_perm_of_perm_map harranged
  have hread : entries again [] (docsOfMembers (es'.map fun e => (e.1, write e.2))) = .ok es := by
    rw [entries_docsOfMembers fun e he => h e (hperm.mem_iff.1 he), putMembers_eq_of_perm hperm hes]
  rw [toDoc, map, enter_eq_ok.2 hroom, hread]
  rfl

/-- A list is read back from any arrangement of it, if its elements are. -/
theorem list_arrangement {form : Json → Json} (hform : Arrangement form) (hroom : 2 ≤ room)
    {xs : List α} (h : ∀ x ∈ xs, again (form (write x)).toDoc = .ok x) :
    list room again (form (array (xs.map write))).toDoc = .ok xs := by
  rw [hform.array, List.map_map]
  exact list_array hroom h

/-- A map is read back from any arrangement of it, if its values are. -/
theorem map_arrangement {form : Json → Json} (hform : Arrangement form) (hroom : 2 ≤ room)
    {es : List (String × α)} (hes : InOrder es)
    (h : ∀ e ∈ es, again (form (write e.2)).toDoc = .ok e.2) :
    map room again (form (object (es.map fun e => (e.1, write e.2)))).toDoc = .ok es := by
  obtain ⟨arranged, heq, -, hperm⟩ := hform.object (es.map fun e => (e.1, write e.2))
  replace hperm := hperm (hes.map _).nodup
  rw [List.map_map] at hperm
  -- the members are those of the map, written by `form ∘ write`
  have hread : ∀ e ∈ es, again ((form ∘ write) e.2).toDoc = .ok e.2 := h
  rw [heq]
  exact map_object hroom hes (by exact hperm) hread

end Lists

/-! ### Records -/

section Records

variable {fields : List (Field σ)} {start : σ} {P : σ → Prop}

theorem recordMembers_preserves
    (hfield : ∀ f ∈ fields, ∀ {d r r'}, P r → f.read d r = .ok r' → P r')
    {seen seen' : List String} {r r' : σ} {members : List (Quoted × Doc)} (hr : P r)
    (h : recordMembers fields seen r members = .ok (seen', r')) : P r' := by
  induction members generalizing seen r with
  | nil => cases h; exact hr
  | cons m members ih =>
    obtain ⟨key, -, h⟩ := bind_eq_ok.1 h
    cases hfind : fields.find? (·.name == key) with
    | none =>
      rw [hfind] at h
      obtain ⟨_, -, h⟩ := bind_eq_ok.1 h
      exact ih hr h
    | some field =>
      rw [hfind] at h
      dsimp only at h
      split at h
      · cases h
      · obtain ⟨next, hnext, h⟩ := bind_eq_ok.1 h
        exact ih (hfield field (List.mem_of_find?_eq_some hfind) hr hnext) h

theorem recordItems_preserves
    (hfield : ∀ f ∈ fields, ∀ {d r r'}, P r → f.read d r = .ok r' → P r')
    {stop : Option Fault} {r r' : σ} {items : List Doc} (hr : P r)
    (h : recordItems stop fields r items = .ok r') : P r' := by
  induction fields generalizing r items with
  | nil =>
    cases items with
    | nil =>
      obtain ⟨_, -, h⟩ := bind_eq_ok.1 h
      cases h
      exact hr
    | cons => cases h
  | cons field fields ih =>
    rw [List.forall_mem_cons] at hfield
    cases items with
    | nil =>
      obtain ⟨_, -, h⟩ := bind_eq_ok.1 h
      split at h
      · cases h
      · exact ih hfield.2 hr h
    | cons item items =>
      obtain ⟨next, hnext, h⟩ := bind_eq_ok.1 h
      exact ih hfield.2 (hfield.1 hr hnext) h

/-- What holds at the start and is kept by every field holds of the record, however it is given. -/
theorem record_preserves
    (hfield : ∀ f ∈ fields, ∀ {d r r'}, P r → f.read d r = .ok r' → P r') (hstart : P start)
    {d : Doc} {r : σ} (h : record room fields start d = .ok r) : 2 ≤ room ∧ P r := by
  cases d with
  | object members stop =>
    obtain ⟨_, henter, h⟩ := bind_eq_ok.1 h
    obtain ⟨⟨seen, read⟩, hread, h⟩ := bind_eq_ok.1 h
    obtain ⟨_, -, h⟩ := bind_eq_ok.1 h
    refine ⟨enter_eq_ok.1 henter, ?_⟩
    split at h
    · cases h
      exact recordMembers_preserves hfield hstart hread
    · cases h
  | array items stop =>
    obtain ⟨_, henter, h⟩ := bind_eq_ok.1 h
    exact ⟨enter_eq_ok.1 henter, recordItems_preserves hfield hstart h⟩
  | _ => cases h

theorem two_le_of_record {d : Doc} {r : σ} (h : record room fields start d = .ok r) : 2 ≤ room :=
  have hfield : ∀ f ∈ fields, ∀ {d r r'}, True → f.read d r = .ok r' → True :=
    fun _ _ _ _ _ _ _ => trivial
  (record_preserves hfield trivial h).1

/-- Under its key a document adds its field to the fields that have been given. -/
def Adds (fields : List (Field σ)) (given : List String → σ) (key : String) (d : Doc) : Prop :=
  ∃ f, fields.find? (·.name == key) = some f ∧
    ∀ seen, f.read d (given seen) = .ok (given (key :: seen))

theorem recordMembers_docsOfMembers {given : List String → σ} {members : List (String × Json)}
    (hnodup : (members.map Prod.fst).Nodup)
    (hadds : ∀ m ∈ members, Adds fields given m.1 m.2.toDoc)
    {seen : List String} (hseen : ∀ m ∈ members, m.1 ∉ seen) :
    recordMembers fields seen (given seen) (docsOfMembers members) =
      .ok ((members.map Prod.fst).reverse ++ seen,
        given ((members.map Prod.fst).reverse ++ seen)) := by
  induction members generalizing seen with
  | nil => rfl
  | cons m members ih =>
    rw [List.forall_mem_cons] at hadds hseen
    rw [List.map_cons, List.nodup_cons] at hnodup
    obtain ⟨⟨f, hfind, hread⟩, hmembers⟩ := hadds
    have hnext : ∀ m' ∈ members, m'.1 ∉ m.1 :: seen := by
      intro m' hm'
      rw [List.mem_cons, not_or]
      exact ⟨fun heq => hnodup.1 (heq ▸ List.mem_map_of_mem hm'), hseen.2 m' hm'⟩
    have hrest := ih hnodup.2 hmembers hnext
    have hnew : seen.contains m.1 = false := by simpa using hseen.1
    simp only [docsOfMembers, recordMembers, bind, Except.bind, hfind, hnew, hread, hrest,
      List.map_cons, List.reverse_cons, List.append_assoc, List.singleton_append]
    rfl

/-- **A record is read back from any arrangement of its members**, if each of them adds its field
to those that have been given. -/
theorem record_arrangement {form : Json → Json} (hform : Arrangement form) (hroom : 2 ≤ room)
    {given : List String → σ} {members : List (String × Json)}
    (hnodup : (members.map Prod.fst).Nodup)
    (hadds : ∀ m ∈ members, Adds fields given m.1 (form m.2).toDoc)
    (hrequired : ∀ f ∈ fields, f.required → f.name ∈ members.map Prod.fst) :
    ∃ seen, (∀ key, key ∈ seen ↔ key ∈ members.map Prod.fst) ∧
      record room fields (given []) (form (object members)).toDoc = .ok (given seen) := by
  obtain ⟨arranged, heq, -, hperm⟩ := hform.object members
  replace hperm := hperm hnodup
  have hkeys : (arranged.map Prod.fst).Perm (members.map Prod.fst) := by
    simpa [Function.comp_def] using hperm.map Prod.fst
  have hadds' : ∀ m ∈ arranged, Adds fields given m.1 m.2.toDoc := by
    intro m hm
    obtain ⟨m, hmem, rfl⟩ := List.mem_map.1 (hperm.mem_iff.1 hm)
    exact hadds m hmem
  have hread := recordMembers_docsOfMembers (hkeys.nodup_iff.2 hnodup) hadds'
    (fun _ _ => List.not_mem_nil)
  have hall : (fields.all fun field =>
      !field.required || (arranged.map Prod.fst).reverse.contains field.name) = true := by
    rw [List.all_eq_true]
    intro f hf
    cases hf' : f.required with
    | false => rfl
    | true => simpa using hkeys.mem_iff.2 (hrequired f hf hf')
  refine ⟨(arranged.map Prod.fst).reverse, fun key => by rw [List.mem_reverse, hkeys.mem_iff], ?_⟩
  rw [heq, toDoc, record, enter_eq_ok.2 hroom, hread]
  simp only [List.append_nil, bind, Except.bind, check, hall]
  rfl

theorem field_read_eq_ok {name : String} {value : Decoder α} {put : α → σ → σ} {d : Doc}
    {r r' : σ} :
    (field name value put).read d r = .ok r' ↔ ∃ x, value d = .ok x ∧ put x r = r' := by
  simp only [field]
  cases value d <;> simp [bind, Except.bind, pure, Except.pure]

theorem requiredField_read_eq_ok {name : String} {value : Decoder α} {put : α → σ → σ} {d : Doc}
    {r r' : σ} :
    (requiredField name value put).read d r = .ok r' ↔ ∃ x, value d = .ok x ∧ put x r = r' :=
  @field_read_eq_ok _ _ name value put d r r'

theorem adds_field {given : List String → σ} {key : String} {value : Decoder α} {put : α → σ → σ}
    {x : α} {d : Doc} (hfind : fields.find? (·.name == key) = some (field key value put))
    (hput : ∀ seen, put x (given seen) = given (key :: seen)) (hvalue : value d = .ok x) :
    Adds fields given key d :=
  ⟨_, hfind, fun seen => field_read_eq_ok.2 ⟨x, hvalue, hput seen⟩⟩

end Records

/-! ### Any values -/

theorem anyItems_eq_elements (items : List Doc) :
    anyItems room items = elements (anyValue room) items := by
  induction items with
  | nil => rfl
  | cons item items ih => rw [anyItems, ih]; rfl

theorem anyMembers_eq_entries (read : List (String × Json)) (members : List (Quoted × Doc)) :
    anyMembers room read members = entries (anyValue room) read members := by
  induction members generalizing read with
  | nil => rfl
  | cons m members ih => simp only [anyMembers, entries, ih]

theorem anyValue_array (items : List Doc) (stop : Option Fault) :
    anyValue room (.array items stop) =
      (list room (anyValue (room - 1)) (.array items stop)).map .array := by
  rw [anyValue, list, anyItems_eq_elements]
  cases enter room <;> cases elements (anyValue (room - 1)) items <;> cases check stop <;> rfl

theorem anyValue_object (members : List (Quoted × Doc)) (stop : Option Fault) :
    anyValue room (.object members stop) =
      (map room (anyValue (room - 1)) (.object members stop)).map .object := by
  rw [anyValue, map, anyMembers_eq_entries]
  cases enter room <;> cases entries (anyValue (room - 1)) [] members <;> cases check stop <;> rfl

/-- What a value, or its parts, are read from. -/
theorem anyValue_ok {d : Doc} {j : Json} (h : anyValue room d = .ok j) :
    match j with
    | .null => d = .null
    | .integer i => ∃ n : Numeral, n.value = .ok (.integer i)
    | .array items => ∃ d, list room (anyValue (room - 1)) d = .ok items
    | .object members => ∃ d, map room (anyValue (room - 1)) d = .ok members
    | _ => True := by
  cases d with
  | null => cases h; rfl
  | bool => cases h; trivial
  | broken => cases h
  | string s =>
    obtain ⟨s, -, h⟩ := bind_eq_ok.1 h
    cases h
    trivial
  | number n =>
    cases j with
    | integer i => exact ⟨n, h⟩
    | null | array | object =>
      rw [anyValue, Numeral.value] at h
      repeat' split at h
      all_goals cases h
    | _ => trivial
  | array items stop =>
    rw [anyValue_array, map_eq_ok] at h
    obtain ⟨items, hitems, rfl⟩ := h
    exact ⟨_, hitems⟩
  | object members stop =>
    rw [anyValue_object, map_eq_ok] at h
    obtain ⟨members, hmembers, rfl⟩ := h
    exact ⟨_, hmembers⟩

/-- An integer that was read is small enough to be read again. -/
theorem value_integer {n : Numeral} {i : Int} (h : n.value = .ok (.integer i)) (written : String) :
    (Numeral.mk (i < 0) i.natAbs 0 true written).value = .ok (.integer i) := by
  rw [Numeral.value] at h
  split at h
  next hn =>
    simp only [Bool.and_eq_true, decide_eq_true_eq] at hn
    cases h
    simp [Numeral.value, hn.2]
  next =>
    split at h
    next hn =>
      simp only [Bool.and_eq_true, decide_eq_true_eq] at hn
      cases h
      simp [Numeral.value, hn.1.2, hn.2]
    next =>
      split at h <;> cases h

/-- **A value is read back from any arrangement of it**, if no real number is in it. -/
theorem anyValue_arrangement {form : Json → Json} (hform : Arrangement form) {j : Json}
    (hj : j.HasNoReal) {room again : Nat} {d : Doc} (h : anyValue room d = .ok j)
    (hroom : room ≤ again) : anyValue again (form j).toDoc = .ok j := by
  induction j using Json.induction generalizing room again d with
  | null => rw [hform.null]; rfl
  | bool b => rw [hform.bool]; rfl
  | string s => rw [hform.string]; rfl
  | real written => rw [HasNoReal] at hj; exact hj.elim
  | integer i =>
    obtain ⟨n, hn⟩ := anyValue_ok h
    rw [hform.integer, toDoc, anyValue]
    exact value_integer hn _
  | array items ih =>
    obtain ⟨_, hitems⟩ := anyValue_ok h
    obtain ⟨htwo, hread⟩ := list_ok hitems
    rw [hform.array, toDoc, anyValue_array, map_eq_ok]
    refine ⟨items, list_array (htwo.trans hroom) fun j hj' => ?_, rfl⟩
    obtain ⟨d, hd⟩ := hread j hj'
    exact ih j hj' (hasNoReal_array.1 hj j hj') hd (Nat.sub_le_sub_right hroom 1)
  | object members ih =>
    obtain ⟨_, hmembers⟩ := anyValue_ok h
    obtain ⟨htwo, horder, hread⟩ := map_ok hmembers
    obtain ⟨arranged, heq, -, hperm⟩ := hform.object members
    rw [heq, toDoc, anyValue_object, map_eq_ok]
    refine ⟨members, map_object (htwo.trans hroom) horder (hperm horder.nodup) fun m hm => ?_, rfl⟩
    obtain ⟨d, hd⟩ := hread m hm
    exact ih m hm (hasNoReal_object.1 hj m hm) hd (Nat.sub_le_sub_right hroom 1)

/-! ### Texts and values -/

/-- What is written of a value without real numbers is decoded like the value. -/
theorem text_render {decoder : Nat → Decoder α} {j : Json} (hj : j.HasNoReal) :
    text decoder j.render = decoder textRoom j.toDoc := by
  rw [text, Text.ofString_render hj]
  cases decoder textRoom j.toDoc <;> rfl

theorem value_of_ok {decoder : Nat → Decoder α} {j : Json} {x : α}
    (h : decoder valueRoom j.toDoc = .ok x) : value decoder j = .ok x := by
  rw [value, h]

theorem textRoom_le_valueRoom : textRoom ≤ valueRoom := by
  rw [textRoom, valueRoom, Nat.pow_eq]
  decide

end Highlight.Json.Decode
