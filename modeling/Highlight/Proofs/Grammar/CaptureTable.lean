import Highlight.Grammar.Table
import Highlight.Proofs.Checked
import Highlight.Proofs.Steps
import Mathlib.Data.List.Induction

/-!
# Tables of captures

The captures of a rule are written with numbers as keys, which may be spelt in many ways
(`groupNumber?_eq_some_iff`).  The scope of a group is the name that is given last under a key for
its number (`Captures.lookup_ofWritten`).

Captures may also be kept as a table with a place for every group up to the last one with a scope
(`Captures.places`).  The number of places is one more than that of a group and has to fit a word,
and a table has only so many places.  `Captures.enterAll` checks both, and that the place of a group
is in the table; it has a result just where `Captures.ofWritten` has one, and that is the table of
the same captures (`Captures.enterAll_eq`).
-/

namespace Highlight

/-! ### Numbers of groups -/

/-- A key is the number of a group if it is decimal digits, with or without a plus sign in front,
for a number that fits a 64-bit word. -/
theorem groupNumber?_eq_some_iff {key : String} {group : Nat} :
    groupNumber? key = some group ↔ ∃ digits : List Char,
      (key.toList = digits ∨ key.toList = '+' :: digits) ∧ digits ≠ [] ∧
        (∀ c ∈ digits, c.isDigit = true) ∧ Nat.ofDigitChars 10 digits 0 = group ∧
          group < Nat.pow 2 64 := by
  have hnumber (digits : List Char) :
      (if !digits.isEmpty && digits.all Char.isDigit then
        if digits.foldl (fun n c => n * 10 + (c.toNat - 48)) 0 < Nat.pow 2 64 then
          some (digits.foldl (fun n c => n * 10 + (c.toNat - 48)) 0)
        else none
      else none) = some group ↔
        digits ≠ [] ∧ (∀ c ∈ digits, c.isDigit = true) ∧ Nat.ofDigitChars 10 digits 0 = group ∧
          group < Nat.pow 2 64 := by
    rw [foldl_eq_ofDigitChars, Option.ite_none_right_eq_some, Option.ite_none_right_eq_some,
      Option.some_inj, Bool.and_eq_true, List.all_eq_true, Bool.not_eq_true',
      List.isEmpty_eq_false_iff, and_assoc]
    refine and_congr_right fun _ => and_congr_right fun _ => ?_
    constructor
    · rintro ⟨hlt, rfl⟩
      exact ⟨rfl, hlt⟩
    · rintro ⟨rfl, hlt⟩
      exact ⟨hlt, rfl⟩
  unfold groupNumber?
  split
  · rename_i cs hkey
    refine (hnumber cs).trans ⟨fun h => ⟨cs, .inr hkey, h⟩, ?_⟩
    rintro ⟨digits, hdigits | hdigits, h⟩
    · -- a plus sign is no digit
      have hplus : '+' ∈ digits := by
        rw [← hdigits, hkey]
        exact List.mem_cons_self
      exact absurd (h.2.1 _ hplus) (by decide)
    · obtain rfl : cs = digits := (List.cons.inj (hkey.symm.trans hdigits)).2
      exact h
  · rename_i hother
    refine (hnumber key.toList).trans ⟨fun h => ⟨key.toList, .inl rfl, h⟩, ?_⟩
    rintro ⟨digits, rfl | hdigits, h⟩
    · exact h
    · exact absurd hdigits (hother digits)

namespace Captures

variable {captures : Captures} {sources : WrittenCaptures} {group n : Nat} {scope : Scope}

/-! ### The scope of a group -/

theorem lookup_cons_eq (group : Nat) (scope : Scope) (captures : Captures) (n : Nat) :
    ((group, scope) :: captures).lookup n =
      if n = group then some scope else captures.lookup n := by
  rw [List.lookup_cons]
  by_cases hn : n = group
  · rw [if_pos hn, beq_iff_eq.2 hn]
  · rw [if_neg hn, beq_false_of_ne hn]

/-- An entry that is put in gives its group a scope and leaves the others as they are. -/
theorem lookup_put (captures : Captures) (group : Nat) (scope : Scope) (n : Nat) :
    (captures.put group scope).lookup n = if n = group then some scope else captures.lookup n := by
  induction captures with
  | nil => rw [put, lookup_cons_eq]
  | cons head rest ih =>
    rw [put, lookup_cons_eq]
    split
    · rw [lookup_cons_eq, lookup_cons_eq]
    · split
      · rename_i heq
        obtain rfl : group = head.1 := beq_iff_eq.1 heq
        rw [lookup_cons_eq]
        by_cases hn : n = head.1
        · rw [if_pos hn, if_pos hn]
        · rw [if_neg hn, if_neg hn, if_neg hn]
      · rename_i hne
        rw [lookup_cons_eq, ih]
        by_cases hn : n = head.1
        · have hgroup : n ≠ group := by
            rintro rfl
            exact hne (beq_iff_eq.2 hn)
          rw [if_pos hn, if_neg hgroup, if_pos hn]
        · rw [if_neg hn, if_neg hn]

/-- The name that a source gives a group, if it gives it one. -/
def nameFor? (group : Nat) (source : String × Option String) : Option Scope :=
  if groupNumber? source.1 = some group then source.2 else none

theorem nameFor?_eq_some_iff {source : String × Option String} :
    nameFor? group source = some scope ↔
      groupNumber? source.1 = some group ∧ source.2 = some scope :=
  Option.ite_none_right_eq_some

/-- What one source adds: nothing, or a scope for its group, which must not be too large. -/
theorem addWritten_cases (captures : Captures) (source : String × Option String) :
    ((∀ n, nameFor? n source = none) ∧ captures.addWritten source = .ok captures) ∨
    ∃ group name, nameFor? group source = some name ∧
      captures.addWritten source =
        if group < captureLimit then .ok (captures.put group name) else .error group := by
  unfold addWritten
  split
  · rename_i group name hkey hname
    exact .inr ⟨group, name, nameFor?_eq_some_iff.2 ⟨hkey, hname⟩, rfl⟩
  · rename_i hother
    refine .inl ⟨fun n => ?_, rfl⟩
    rw [Option.eq_none_iff_forall_ne_some]
    intro name hname
    obtain ⟨hkey, hname⟩ := nameFor?_eq_some_iff.1 hname
    exact hother n name hkey hname

/-- A source gives only one group a name. -/
theorem nameFor?_of_ne {source : String × Option String} (h : nameFor? group source = some scope)
    (hne : n ≠ group) : nameFor? n source = none := by
  have hkey := (nameFor?_eq_some_iff.1 h).1
  refine if_neg fun hn => hne ?_
  exact Option.some.inj (hn.symm.trans hkey)

/-- The name that is given a group last. -/
def lastName? (sources : WrittenCaptures) (group : Nat) : Option Scope :=
  sources.reverse.findSome? (nameFor? group)

theorem lastName?_concat (sources : WrittenCaptures) (source : String × Option String) (n : Nat) :
    lastName? (sources ++ [source]) n = (nameFor? n source).or (lastName? sources n) := by
  rw [lastName?, List.reverse_append, List.reverse_singleton, List.singleton_append,
    List.findSome?_cons]
  cases nameFor? n source <;> rfl

/-- The name given last stands under a key for the group, and no later key for it has a name. -/
theorem lastName?_eq_some_iff :
    lastName? sources group = some scope ↔ ∃ before key after,
      sources = before ++ (key, some scope) :: after ∧ groupNumber? key = some group ∧
        ∀ source ∈ after, groupNumber? source.1 = some group → source.2 = none := by
  have hnone (source : String × Option String) : nameFor? group source = none ↔
      (groupNumber? source.1 = some group → source.2 = none) := ite_eq_right_iff
  rw [lastName?, List.findSome?_eq_some_iff]
  constructor
  · rintro ⟨after, ⟨key, name⟩, before, hsources, hname, hafter⟩
    obtain ⟨hkey, rfl⟩ := nameFor?_eq_some_iff.1 hname
    refine ⟨before.reverse, key, after.reverse, ?_, hkey, fun source hsource => ?_⟩
    · rw [← List.reverse_reverse sources, hsources]
      simp
    · exact (hnone source).1 (hafter source (List.mem_reverse.1 hsource))
  · rintro ⟨before, key, after, rfl, hkey, hafter⟩
    refine ⟨after.reverse, (key, some scope), before.reverse, by simp, ?_, fun source hsource => ?_⟩
    · exact nameFor?_eq_some_iff.2 ⟨hkey, rfl⟩
    · exact (hnone source).2 (hafter source (List.mem_reverse.1 hsource))

theorem ofWritten_concat (sources : WrittenCaptures) (source : String × Option String) :
    ofWritten (sources ++ [source]) = (ofWritten sources).bind (addWritten · source) :=
  foldlM_concat addWritten [] sources source

/-- Whether all groups that are given names may be in a table. -/
def Fits (sources : WrittenCaptures) : Prop :=
  ∀ source ∈ sources, ∀ group name, nameFor? group source = some name → group < captureLimit

theorem fits_concat {source : String × Option String} :
    Fits (sources ++ [source]) ↔
      Fits sources ∧ ∀ group name, nameFor? group source = some name → group < captureLimit := by
  rw [Fits, List.forall_mem_append, List.forall_mem_singleton]
  rfl

/-- Either all groups fit and each has the name given last, or one of them is too large. -/
theorem ofWritten_cases (sources : WrittenCaptures) :
    (Fits sources ∧ ∃ captures, ofWritten sources = .ok captures ∧
      ∀ n, captures.lookup n = lastName? sources n) ∨
    ∃ group, ofWritten sources = .error group ∧ captureLimit ≤ group ∧
      ∃ source ∈ sources, ∃ name, nameFor? group source = some name := by
  induction sources using List.reverseRecOn with
  | nil => exact .inl ⟨List.forall_mem_nil _, [], rfl, fun _ => rfl⟩
  | append_singleton sources source ih =>
    rw [ofWritten_concat]
    obtain ⟨hfits, captures, hok, hlookup⟩ | ⟨group, herror, hlimit, m, hm, hname⟩ := ih
    · rw [hok]
      obtain ⟨hnone, hadd⟩ | ⟨group, name, hname, hadd⟩ := addWritten_cases captures source
      · refine .inl ⟨fits_concat.2 ⟨hfits, fun n name hn => ?_⟩, captures, hadd, fun n => ?_⟩
        · exact nomatch (hnone n).symm.trans hn
        · rw [lastName?_concat, hnone, Option.none_or, hlookup]
      · by_cases hlt : group < captureLimit
        · rw [if_pos hlt] at hadd
          refine .inl ⟨fits_concat.2 ⟨hfits, fun n _ hn => ?_⟩, captures.put group name, hadd,
            fun n => ?_⟩
          · obtain rfl : n = group := by
              by_contra hne
              exact nomatch (nameFor?_of_ne hname hne).symm.trans hn
            exact hlt
          · rw [lookup_put, lastName?_concat, hlookup]
            by_cases hn : n = group
            · rw [if_pos hn, hn, hname, Option.some_or]
            · rw [if_neg hn, nameFor?_of_ne hname hn, Option.none_or]
        · rw [if_neg hlt] at hadd
          exact .inr ⟨group, hadd, Nat.le_of_not_lt hlt, source, by simp, name, hname⟩
    · rw [herror]
      exact .inr ⟨group, rfl, hlimit, m, List.mem_append_left _ hm, hname⟩

/-! ### A table with a place for every group -/

/-- The number of places in a table, up to that of the last group with a scope. -/
def height : Captures → Nat
  | [] => 0
  | (group, _) :: captures => max (group + 1) (height captures)

/-- The first places of a table. -/
def placesUpTo (captures : Captures) (size : Nat) : Array (Option Scope) :=
  (Array.range size).map (List.lookup · captures)

/-- The table of captures: the scope, if any, of each group. -/
def places (captures : Captures) : Array (Option Scope) := captures.placesUpTo captures.height

/-- A table with more places, if there is room for so many.  A place takes 24 bytes, and they are to
be fewer than `2 ^ 63`. -/
def widen (table : Array (Option Scope)) (size : Nat) : Option (Array (Option Scope)) :=
  if size * 24 < Nat.pow 2 63 then some (Checked.fit table size none) else none

/-- Enters the scope of a group into a table, which is widened if it has no place for it. -/
def enter (table : Array (Option Scope)) (group : Nat) (scope : Scope) :
    Option (Array (Option Scope)) := do
  let table ←
    if table.size ≤ group then (Checked.word (group + 1)).bind (widen table) else some table
  Checked.set table group (some scope)

/-- Enters what one source says. -/
def enterSource (table : Array (Option Scope)) (source : String × Option String) :
    Option (Array (Option Scope)) :=
  match groupNumber? source.1, source.2 with
  | some group, some name => enter table group name
  | _, _ => some table

/-- Enters what the sources say, one after the other. -/
def enterAll (sources : WrittenCaptures) : Option (Array (Option Scope)) :=
  sources.foldlM enterSource #[]

theorem getElem?_placesUpTo (captures : Captures) (size n : Nat) :
    (captures.placesUpTo size)[n]? = if n < size then some (captures.lookup n) else none := by
  rw [placesUpTo, Array.getElem?_map, Array.getElem?_range]
  split <;> rfl

theorem size_placesUpTo (captures : Captures) (size : Nat) :
    (captures.placesUpTo size).size = size := by
  rw [placesUpTo, Array.size_map, Array.size_range]

theorem height_put (captures : Captures) (group : Nat) (scope : Scope) :
    (captures.put group scope).height = max (group + 1) captures.height := by
  induction captures with
  | nil => rfl
  | cons head rest ih =>
    rw [put]
    split
    · rfl
    · split
      · rename_i heq
        obtain rfl : group = head.1 := beq_iff_eq.1 heq
        rw [height, height]
        omega
      · rw [height, height, ih]
        omega

/-- There is no scope behind the last place. -/
theorem lookup_of_height_le (h : captures.height ≤ n) : captures.lookup n = none := by
  induction captures with
  | nil => rfl
  | cons head rest ih =>
    rw [height] at h
    rw [lookup_cons_eq, if_neg (by omega)]
    exact ih (by omega)

/-- A table that is made wider has nothing in the new places. -/
theorem fit_places {size : Nat} (h : captures.height ≤ size) :
    Checked.fit captures.places size none = captures.placesUpTo size := by
  have hsize : captures.places.size = captures.height := size_placesUpTo _ _
  rw [Checked.fit_of_le (hsize ▸ h), hsize]
  refine Array.ext_getElem? fun n => ?_
  rw [Array.getElem?_append, hsize, places, getElem?_placesUpTo, getElem?_placesUpTo,
    Array.getElem?_replicate]
  by_cases hn : n < captures.height
  · rw [if_pos hn, if_pos hn, if_pos (by omega)]
  · rw [if_neg hn, lookup_of_height_le (by omega)]
    exact if_congr (by omega) rfl rfl

/-- A scope in its place is an entry of its group. -/
theorem modify_placesUpTo {size : Nat} (scope : Scope) :
    (captures.placesUpTo size).modify group (fun _ => some scope) =
      (captures.put group scope).placesUpTo size := by
  refine Array.ext_getElem? fun n => ?_
  rw [Array.getElem?_modify, getElem?_placesUpTo, getElem?_placesUpTo, lookup_put]
  by_cases hn : n = group
  · rw [if_pos hn.symm, if_pos hn]
    split <;> rfl
  · rw [if_neg (Ne.symm hn), if_neg hn]

/-- Entering a scope succeeds just where its group is below the limit. -/
theorem enter_places (h : captures.height ≤ captureLimit) (group : Nat) (scope : Scope) :
    enter captures.places group scope =
      if group < captureLimit then some (captures.put group scope).places else none := by
  have hlimit : group < captureLimit ↔ (group + 1) * 24 < Nat.pow 2 63 := by
    unfold captureLimit
    have hpos : 0 < Nat.pow 2 63 := by decide
    omega
  have hset {size : Nat} (hgroup : group < size)
      (hsize : (captures.put group scope).height = size) :
      Checked.set (captures.placesUpTo size) group (some scope) =
        some (captures.put group scope).places := by
    rw [Checked.set_eq (by rwa [size_placesUpTo]), modify_placesUpTo, places, hsize]
  have hheight := height_put captures group scope
  have hsize : captures.places.size = captures.height := size_placesUpTo _ _
  unfold enter
  rw [hsize]
  by_cases hroom : captures.height ≤ group
  · rw [if_pos hroom]
    by_cases hlt : group < captureLimit
    · have hfits := hlimit.1 hlt
      have hword : Checked.word (group + 1) = some (group + 1) := by
        have hle : Nat.pow 2 63 ≤ Nat.pow 2 64 := by decide
        exact if_pos (by omega)
      have hwiden : widen captures.places (group + 1) = some (captures.placesUpTo (group + 1)) := by
        rw [widen, if_pos hfits, fit_places (by omega)]
      rw [if_pos hlt, hword, Option.bind_some, hwiden]
      exact hset (Nat.lt_succ_self group) (by omega)
    · -- the number of places does not fit a word, or there is no room for them
      have hwiden : (Checked.word (group + 1)).bind (widen captures.places) = none := by
        rw [Option.bind_eq_none_iff]
        intro size hsize
        obtain rfl := Option.some.inj (Option.ite_none_right_eq_some.1 hsize).2
        exact if_neg (mt hlimit.2 hlt)
      rw [if_neg hlt, hwiden]
      rfl
  · rw [if_neg hroom, if_pos (by omega)]
    exact hset (by omega) (by omega)

/-- What one source says is entered just where it is added to the captures. -/
theorem enterSource_places (h : captures.height ≤ captureLimit)
    (source : String × Option String) :
    enterSource captures.places source =
      (captures.addWritten source).toOption.map places := by
  unfold enterSource addWritten
  cases groupNumber? source.1 with
  | none => rfl
  | some group =>
    cases source.2 with
    | none => rfl
    | some name =>
      show enter captures.places group name =
        (if group < captureLimit then Except.ok (captures.put group name)
          else Except.error group).toOption.map places
      rw [enter_places h]
      split <;> rfl

/-- Captures that come from a source have no more places than a table may have. -/
theorem height_le_of_addWritten {after : Captures} {source : String × Option String}
    (h : captures.height ≤ captureLimit) (hadd : captures.addWritten source = .ok after) :
    after.height ≤ captureLimit := by
  obtain ⟨-, hsame⟩ | ⟨group, name, -, hput⟩ := addWritten_cases captures source
  · obtain rfl := Except.ok.inj (hsame.symm.trans hadd)
    exact h
  · rw [hput] at hadd
    split at hadd
    · obtain rfl := Except.ok.inj hadd
      rw [height_put]
      omega
    · cases hadd

/-- The table can be filled just where all groups fit, and it is the table of the captures. -/
theorem enterAll_eq (sources : WrittenCaptures) :
    enterAll sources = (ofWritten sources).toOption.map places ∧
      ∀ captures, ofWritten sources = .ok captures → captures.height ≤ captureLimit := by
  induction sources using List.reverseRecOn with
  | nil =>
    have hplaces : places [] = #[] := Array.eq_empty_of_size_eq_zero (size_placesUpTo _ _)
    refine ⟨congrArg some hplaces.symm, fun captures h => ?_⟩
    obtain rfl := Except.ok.inj h
    exact Nat.zero_le _
  | append_singleton sources source ih =>
    obtain ⟨ihtable, ihheight⟩ := ih
    have htable : enterAll (sources ++ [source]) =
        (enterAll sources).bind (enterSource · source) :=
      foldlM_concat enterSource #[] sources source
    rw [htable, ihtable, ofWritten_concat]
    cases hbefore : ofWritten sources with
    | error group => exact ⟨rfl, fun captures h => nomatch h⟩
    | ok before =>
      have hheight := ihheight before hbefore
      exact ⟨enterSource_places hheight source, fun captures hadd =>
        height_le_of_addWritten hheight hadd⟩

/-- The place of a group holds its scope. -/
theorem join_getElem?_places (captures : Captures) (group : Nat) :
    captures.places[group]?.join = captures.lookup group := by
  rw [places, getElem?_placesUpTo]
  split
  · rfl
  · rw [lookup_of_height_le (by omega)]
    rfl

/-- **A table of captures says what its sources say, as long as every number is below the limit.**
There are captures just where no key with a name has a number from the limit on, and then the table
is filled place by place without an error; otherwise it is not, and such a key is to blame.  The
scope of a group is the name given last under a key for its number, and without one it has none. -/
theorem lookup_ofWritten (sources : WrittenCaptures) :
    ((∃ captures, ofWritten sources = .ok captures) ↔
      ∀ key name group, (key, some name) ∈ sources → groupNumber? key = some group →
        group < captureLimit) ∧
    (∀ group, ofWritten sources = .error group →
      enterAll sources = none ∧ captureLimit ≤ group ∧
        ∃ key name, (key, some name) ∈ sources ∧ groupNumber? key = some group) ∧
    ∀ captures, ofWritten sources = .ok captures →
      enterAll sources = some captures.places ∧
        ∀ group, captures.places[group]?.join = captures.lookup group ∧
          ∀ scope, captures.lookup group = some scope ↔ ∃ before key after,
            sources = before ++ (key, some scope) :: after ∧ groupNumber? key = some group ∧
              ∀ source ∈ after, groupNumber? source.1 = some group → source.2 = none := by
  have htable := (enterAll_eq sources).1
  obtain ⟨hfits, captures, hok, hlookup⟩ | ⟨group, herror, hlimit, m, hm, name, hname⟩ :=
    ofWritten_cases sources
  · rw [hok] at htable ⊢
    refine ⟨⟨fun _ key name group hmem hkey => ?_, fun _ => ⟨captures, rfl⟩⟩, ?_, ?_⟩
    · exact hfits _ hmem group name (nameFor?_eq_some_iff.2 ⟨hkey, rfl⟩)
    · intro group h
      cases h
    · intro captures' h
      obtain rfl := Except.ok.inj h
      refine ⟨htable, fun group => ⟨join_getElem?_places captures group, fun scope => ?_⟩⟩
      rw [hlookup]
      exact lastName?_eq_some_iff
  · obtain ⟨key, _⟩ := m
    obtain ⟨hkey, rfl⟩ := nameFor?_eq_some_iff.1 hname
    rw [herror] at htable ⊢
    refine ⟨⟨?_, fun hall => ?_⟩, ?_, ?_⟩
    · rintro ⟨captures, h⟩
      cases h
    · exact absurd (hall key name group hm hkey) (Nat.not_lt.2 hlimit)
    · intro group' h
      obtain rfl := Except.error.inj h
      exact ⟨htable, hlimit, key, name, hm, hkey⟩
    · intro captures h
      cases h

/-- Two spellings of one number, of which the later counts, and a key that is no number. -/
theorem lookup_ofWritten_spellings :
    let sources : WrittenCaptures :=
      [("+01", some "first"), ("1", some "second"), ("1 ", some "third"), ("2", none)]
    ∃ captures, ofWritten sources = .ok captures ∧
      enterAll sources = some captures.places ∧ captures.lookup 1 = some "second" ∧
        captures.lookup 2 = none := by
  intro sources
  obtain ⟨-, -, htable⟩ := lookup_ofWritten sources
  have hok : ofWritten sources = .ok [(1, "second")] := by decide
  obtain ⟨hfilled, hlookup⟩ := htable _ hok
  refine ⟨_, hok, hfilled, ?_, rfl⟩
  refine ((hlookup 1).2 "second").2 ⟨[("+01", some "first")], "1", _, rfl, by decide, ?_⟩
  decide

/-- There are no captures with the largest number of 64 bits: one cannot be added to it, so no table
has a place for it. -/
theorem no_ofWritten_largest :
    ¬ ∀ sources : WrittenCaptures,
      (∃ captures, ofWritten sources = .ok captures) ∨ ∃ table, enterAll sources = some table := by
  intro h
  have herror : ofWritten [("18446744073709551615", some "group")] =
      .error 18446744073709551615 := by decide
  have hnone : enterAll [("18446744073709551615", some "group")] = none := by decide
  obtain ⟨captures, hok⟩ | ⟨table, htable⟩ := h [("18446744073709551615", some "group")]
  · exact nomatch herror.symm.trans hok
  · exact nomatch hnone.symm.trans htable

end Captures

end Highlight
