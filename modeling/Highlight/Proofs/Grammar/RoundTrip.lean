import Highlight.Grammar.Written
import Highlight.Proofs.Json.Decoding

/-!
# Reading a grammar back

A grammar that was read from a text is read back from what is written of it
(`WrittenGrammar.ofText_toJson`).  Three things have to agree for each of its fields: the key, when
it is left out, and what stands for it when it is not given.

* A field is left out only when it has the value that it starts with (`keys_members`, `given_eq`).
* The members of a written rule or grammar each add their field to those given so far
  (`adds_members`), in whichever order they stand; `record_arrangement` does the rest.
* A rule is read back with the room it was read with, or more (`WrittenRule.decode_toJson`): by
  induction on the room, since the rules in a rule were read with two levels less.

What is known of a rule or grammar is that it was read, and so that its maps are in order and its
parts were read in turn (`WrittenRule.Read`, `WrittenGrammar.Read`).
-/

namespace Highlight

open Json (Arrangement Decoder Doc InOrder)
open Json.Decode

/-! ### Members that may be left out -/

namespace WrittenGrammar

theorem mem_textMember {key : String} {x : Option String} {m : String × Json} :
    m ∈ textMember key x ↔ ∃ s, x = some s ∧ m = (key, .string s) := by
  cases x <;> simp [textMember]

theorem mem_capturesMember {key : String} {captures : WrittenCaptures} {m : String × Json} :
    m ∈ capturesMember key captures ↔ captures ≠ [] ∧
      m = (key, .object (captures.map fun c => (c.1, captureToJson c.2))) := by
  cases captures <;> simp [capturesMember]

theorem mem_listMember {key : String} {items : List Json} {m : String × Json} :
    m ∈ listMember key items ↔ items ≠ [] ∧ m = (key, .array items) := by
  cases items <;> simp [listMember]

theorem mem_mapMember {key : String} {members : List (String × Json)} {m : String × Json} :
    m ∈ mapMember key members ↔ members ≠ [] ∧ m = (key, .object members) := by
  cases members <;> simp [mapMember]

theorem keys_textMember (key : String) (x : Option String) :
    (textMember key x).map Prod.fst = if x = none then [] else [key] := by
  cases x <;> simp [textMember]

theorem keys_capturesMember (key : String) (captures : WrittenCaptures) :
    (capturesMember key captures).map Prod.fst = if captures = [] then [] else [key] := by
  cases captures <;> simp [capturesMember]

theorem keys_listMember (key : String) (items : List Json) :
    (listMember key items).map Prod.fst = if items = [] then [] else [key] := by
  cases items <;> simp [listMember]

theorem keys_mapMember (key : String) (members : List (String × Json)) :
    (mapMember key members).map Prod.fst = if members = [] then [] else [key] := by
  cases members <;> simp [mapMember]

theorem ite_nil_sublist (p : Prop) [Decidable p] (key : String) :
    (if p then [] else [key]).Sublist [key] := by
  split
  · exact List.nil_sublist _
  · exact List.Sublist.refl _

end WrittenGrammar

variable {form : Json → Json} {room again : Nat}

/-- A string that is set adds its field. -/
theorem WrittenGrammar.adds_textMember {σ : Type} {fields : List (Json.Decode.Field σ)}
    {given : List String → σ} (hform : Arrangement form) {key : String} {x : Option String}
    {put : Option String → σ → σ}
    (hfind : fields.find? (·.name == key) = some (field key (option string) put))
    (hput : ∀ seen, put x (given seen) = given (key :: seen)) :
    ∀ m ∈ textMember key x, Adds fields given m.1 (form m.2).toDoc := by
  intro m hm
  obtain ⟨s, rfl, rfl⟩ := mem_textMember.1 hm
  exact adds_field hfind hput (by rw [hform.string]; rfl)

/-! ### Names of groups -/

/-- The name of a group, if the field of that name is given. -/
def WrittenCaptures.givenName (name : Option String) (seen : List String) : Option String :=
  if "name" ∈ seen then name else none

theorem WrittenCaptures.decodeName_captureToJson (hform : Arrangement form) (hroom : 2 ≤ room)
    (name : Option String) :
    decodeName room (form (WrittenGrammar.captureToJson name)).toDoc = .ok name := by
  have hnodup : ((WrittenGrammar.textMember "name" name).map Prod.fst).Nodup := by
    cases name <;> simp [WrittenGrammar.textMember]
  have hadds : ∀ m ∈ WrittenGrammar.textMember "name" name,
      Adds [field "name" (option string) fun name _ => name] (givenName name) m.1
        (form m.2).toDoc :=
    WrittenGrammar.adds_textMember hform rfl (by simp [givenName])
  obtain ⟨seen, hseen, hread⟩ :=
    record_arrangement hform hroom hnodup hadds (by simp [field])
  have hname : givenName name seen = name := by
    simp only [givenName, hseen]
    cases name <;> simp [WrittenGrammar.textMember]
  rw [hname] at hread
  exact hread

theorem WrittenCaptures.decode_object (hform : Arrangement form) {d : Doc}
    {captures : WrittenCaptures} (h : decode room d = .ok captures) (hroom : room ≤ again) :
    decode again (form (.object (captures.map fun c =>
      (c.1, WrittenGrammar.captureToJson c.2)))).toDoc = .ok captures := by
  obtain ⟨htwo, horder, hread⟩ := map_ok h
  refine map_arrangement hform (htwo.trans hroom) horder fun c hc => ?_
  obtain ⟨d, hd⟩ := hread c hc
  have htwo' : 2 ≤ room - 1 := two_le_of_record hd
  exact decodeName_captureToJson hform (by omega) c.2

/-- Names of groups that were read add their field. -/
theorem WrittenGrammar.adds_capturesMember {σ : Type} {fields : List (Json.Decode.Field σ)}
    {given : List String → σ} (hform : Arrangement form) {key : String} {x : WrittenCaptures}
    {put : WrittenCaptures → σ → σ}
    (hfind : fields.find? (·.name == key) = some (field key (WrittenCaptures.decode again) put))
    (hput : ∀ seen, put x (given seen) = given (key :: seen))
    (hx : x = [] ∨ ∃ d, WrittenCaptures.decode room d = .ok x) (hroom : room ≤ again) :
    ∀ m ∈ capturesMember key x, Adds fields given m.1 (form m.2).toDoc := by
  intro m hm
  obtain ⟨hne, rfl⟩ := mem_capturesMember.1 hm
  obtain ⟨d, hd⟩ := hx.resolve_left hne
  exact adds_field hfind hput (WrittenCaptures.decode_object hform hd hroom)

/-! ### Rules -/

theorem rulesToJson_eq_map (rules : List WrittenRule) :
    rulesToJson rules = rules.map WrittenRule.toJson := by
  induction rules with
  | nil => rfl
  | cons rule rules ih => rw [rulesToJson, ih, List.map_cons]

theorem entriesToJson_eq_map (entries : Repository) :
    entriesToJson entries = entries.map fun e => (e.1, e.2.toJson) := by
  induction entries with
  | nil => rfl
  | cons e entries ih => rw [entriesToJson, ih, List.map_cons]

namespace WrittenRule

open WrittenGrammar

/-- The members of the written form of a rule. -/
def members (r : WrittenRule) : List (String × Json) :=
  textMember "include" r.target ++ textMember "name" r.name ++
    textMember "contentName" r.contentName ++ textMember "match" r.matchPattern ++
    textMember "begin" r.beginPattern ++ textMember "end" r.endPattern ++
    textMember "while" r.whilePattern ++ capturesMember "captures" r.captures ++
    capturesMember "beginCaptures" r.beginCaptures ++ capturesMember "endCaptures" r.endCaptures ++
    listMember "patterns" (r.patterns.map toJson) ++
    mapMember "repository" (r.repository.map fun e => (e.1, e.2.toJson)) ++
    [("applyEndPatternLast", .bool r.applyEndPatternLast)]

theorem toJson_eq (r : WrittenRule) : r.toJson = .object r.members := by
  rw [members, ← rulesToJson_eq_map, ← entriesToJson_eq_map]
  cases r
  rw [toJson]

/-- The fields of a rule, when the rules in it are left a given room. -/
def fields (room : Nat) : List (Json.Decode.Field WrittenRule) :=
  let text := option string
  let captures := WrittenCaptures.decode (room + 1)
  [field "include" text fun x r => { r with target := x },
    field "name" text fun x r => { r with name := x },
    field "contentName" text fun x r => { r with contentName := x },
    field "match" text fun x r => { r with matchPattern := x },
    field "begin" text fun x r => { r with beginPattern := x },
    field "end" text fun x r => { r with endPattern := x },
    field "while" text fun x r => { r with whilePattern := x },
    field "captures" captures fun x r => { r with captures := x },
    field "beginCaptures" captures fun x r => { r with beginCaptures := x },
    field "endCaptures" captures fun x r => { r with endCaptures := x },
    field "patterns" (list (room + 1) (decode room)) fun x r => { r with patterns := x },
    field "repository" (map (room + 1) (decode room)) fun x r => { r with repository := x },
    field "applyEndPatternLast" bool fun x r => { r with applyEndPatternLast := x }]

theorem decode_eq_record (room : Nat) : decode (room + 2) = record (room + 2) (fields room) {} := by
  funext d
  rw [decode]
  rfl

/-- The rule with the fields of the given names; the others are not set. -/
def given (r : WrittenRule) (seen : List String) : WrittenRule where
  target := if "include" ∈ seen then r.target else none
  name := if "name" ∈ seen then r.name else none
  contentName := if "contentName" ∈ seen then r.contentName else none
  matchPattern := if "match" ∈ seen then r.matchPattern else none
  beginPattern := if "begin" ∈ seen then r.beginPattern else none
  endPattern := if "end" ∈ seen then r.endPattern else none
  whilePattern := if "while" ∈ seen then r.whilePattern else none
  captures := if "captures" ∈ seen then r.captures else []
  beginCaptures := if "beginCaptures" ∈ seen then r.beginCaptures else []
  endCaptures := if "endCaptures" ∈ seen then r.endCaptures else []
  patterns := if "patterns" ∈ seen then r.patterns else []
  repository := if "repository" ∈ seen then r.repository else []
  applyEndPatternLast := if "applyEndPatternLast" ∈ seen then r.applyEndPatternLast else false

/-- What is known of a rule that was read: what its maps and lists hold, if it is not nothing, was
read by their decoders. -/
structure Read (room : Nat) (r : WrittenRule) : Prop where
  captures : r.captures = [] ∨ ∃ d, WrittenCaptures.decode (room + 1) d = .ok r.captures
  beginCaptures :
    r.beginCaptures = [] ∨ ∃ d, WrittenCaptures.decode (room + 1) d = .ok r.beginCaptures
  endCaptures : r.endCaptures = [] ∨ ∃ d, WrittenCaptures.decode (room + 1) d = .ok r.endCaptures
  patterns : r.patterns = [] ∨ ∃ d, list (room + 1) (decode room) d = .ok r.patterns
  repository : r.repository = [] ∨ ∃ d, map (room + 1) (decode room) d = .ok r.repository

theorem read_of_decode {d : Doc} {r : WrittenRule} (h : decode (room + 2) d = .ok r) :
    Read room r := by
  rw [decode_eq_record] at h
  have hstart : Read room {} := ⟨.inl rfl, .inl rfl, .inl rfl, .inl rfl, .inl rfl⟩
  refine (record_preserves (P := Read room) ?_ hstart h).2
  intro f hf d r r' hr hread
  simp only [fields, List.mem_cons, List.not_mem_nil, or_false] at hf
  obtain rfl | rfl | rfl | rfl | rfl | rfl | rfl | rfl | rfl | rfl | rfl | rfl | rfl := hf
  all_goals
    obtain ⟨x, hx, rfl⟩ := field_read_eq_ok.1 hread
  iterate 7 exact { hr with }
  · exact { hr with captures := .inr ⟨_, hx⟩ }
  · exact { hr with beginCaptures := .inr ⟨_, hx⟩ }
  · exact { hr with endCaptures := .inr ⟨_, hx⟩ }
  · exact { hr with patterns := .inr ⟨_, hx⟩ }
  · exact { hr with repository := .inr ⟨_, hx⟩ }
  · exact { hr with }

theorem keys_members (r : WrittenRule) : r.members.map Prod.fst =
    (if r.target = none then [] else ["include"]) ++ (if r.name = none then [] else ["name"]) ++
      (if r.contentName = none then [] else ["contentName"]) ++
      (if r.matchPattern = none then [] else ["match"]) ++
      (if r.beginPattern = none then [] else ["begin"]) ++
      (if r.endPattern = none then [] else ["end"]) ++
      (if r.whilePattern = none then [] else ["while"]) ++
      (if r.captures = [] then [] else ["captures"]) ++
      (if r.beginCaptures = [] then [] else ["beginCaptures"]) ++
      (if r.endCaptures = [] then [] else ["endCaptures"]) ++
      (if r.patterns = [] then [] else ["patterns"]) ++
      (if r.repository = [] then [] else ["repository"]) ++ ["applyEndPatternLast"] := by
  simp only [members, List.map_append, keys_textMember, keys_capturesMember, keys_listMember,
    keys_mapMember, List.map_eq_nil_iff, List.map_cons, List.map_nil]

theorem nodup_keys (r : WrittenRule) : (r.members.map Prod.fst).Nodup := by
  have hsublist : (r.members.map Prod.fst).Sublist
      (["include"] ++ ["name"] ++ ["contentName"] ++ ["match"] ++ ["begin"] ++ ["end"] ++
        ["while"] ++ ["captures"] ++ ["beginCaptures"] ++ ["endCaptures"] ++ ["patterns"] ++
        ["repository"] ++ ["applyEndPatternLast"]) := by
    rw [keys_members]
    apply_rules [List.Sublist.append, ite_nil_sublist, List.Sublist.refl]
  exact hsublist.nodup (by decide)

theorem given_eq {r : WrittenRule} {seen : List String}
    (h : ∀ key, key ∈ seen ↔ key ∈ r.members.map Prod.fst) : r.given seen = r := by
  cases r
  simp only [given, h, keys_members, List.mem_append]
  simp [eq_comm]

/-- Every member of the written form adds its field, if the rules in the rule are read back. -/
theorem adds_members (hform : Arrangement form) {r : WrittenRule} (hr : Read room r)
    (hroom : room ≤ again)
    (ih : ∀ {d r}, decode room d = .ok r → decode again (form r.toJson).toDoc = .ok r) :
    ∀ m ∈ r.members, Adds (fields again) r.given m.1 (form m.2).toDoc := by
  have hcaptures : room + 1 ≤ again + 1 := Nat.succ_le_succ hroom
  simp only [members, List.forall_mem_append, and_assoc]
  refine ⟨adds_textMember hform rfl ?_, adds_textMember hform rfl ?_,
    adds_textMember hform rfl ?_, adds_textMember hform rfl ?_, adds_textMember hform rfl ?_,
    adds_textMember hform rfl ?_, adds_textMember hform rfl ?_,
    adds_capturesMember hform rfl ?_ hr.captures hcaptures,
    adds_capturesMember hform rfl ?_ hr.beginCaptures hcaptures,
    adds_capturesMember hform rfl ?_ hr.endCaptures hcaptures, fun m hm => ?patterns,
    fun m hm => ?repository, fun m hm => ?last⟩
  case patterns =>
    obtain ⟨hne, rfl⟩ := mem_listMember.1 hm
    obtain ⟨d, hd⟩ := hr.patterns.resolve_left (by simpa using hne)
    obtain ⟨htwo, hrules⟩ := list_ok hd
    refine adds_field rfl (x := r.patterns) (by simp [given])
      (list_arrangement hform (by omega) fun r hr => ?_)
    obtain ⟨d, hd⟩ := hrules r hr
    exact ih hd
  case repository =>
    obtain ⟨hne, rfl⟩ := mem_mapMember.1 hm
    obtain ⟨d, hd⟩ := hr.repository.resolve_left (by simpa using hne)
    obtain ⟨htwo, horder, hrules⟩ := map_ok hd
    refine adds_field rfl (x := r.repository) (by simp [given])
      (map_arrangement hform (by omega) horder fun e he => ?_)
    obtain ⟨d, hd⟩ := hrules e he
    exact ih hd
  case last =>
    obtain rfl := List.mem_singleton.1 hm
    exact adds_field rfl (x := r.applyEndPatternLast) (by simp [given]) (by rw [hform.bool]; rfl)
  -- what is left is that putting in a field is giving it
  all_goals
    intro seen
    simp [given]

/-- **A rule is read back from any arrangement of its written form**, with the room it was read with
or more. -/
theorem decode_toJson (hform : Arrangement form) {d : Doc} {r : WrittenRule}
    (h : decode room d = .ok r) (hroom : room ≤ again) :
    decode again (form r.toJson).toDoc = .ok r := by
  induction room using Nat.strongRecOn generalizing again d r with
  | _ room ih =>
    match room with
    | 0 | 1 =>
      rw [decode] at h
      exact absurd (two_le_of_record h) (by decide)
    | room + 2 =>
      obtain ⟨again, rfl⟩ : ∃ n, again = n + 2 := ⟨again - 2, by omega⟩
      have hr := read_of_decode h
      have hrest : room ≤ again := Nat.le_of_add_le_add_right hroom
      have hadds := adds_members hform hr hrest fun hd => ih room (by omega) hd hrest
      obtain ⟨seen, hseen, hread⟩ := record_arrangement hform (Nat.le_add_left 2 again)
        r.nodup_keys hadds (by simp [fields, field])
      rw [given_eq hseen] at hread
      rw [toJson_eq, decode_eq_record]
      exact hread

end WrittenRule

/-! ### Grammars -/

namespace WrittenGrammar

/-- The members of the written form of a grammar. -/
def members (g : WrittenGrammar) : List (String × Json) :=
  [("scopeName", .string g.scopeName)] ++ textMember "name" g.name ++
    listMember "fileTypes" (g.fileTypes.map .string) ++
    [("patterns", .array (g.patterns.map WrittenRule.toJson))] ++
    mapMember "repository" (g.repository.map fun e => (e.1, e.2.toJson)) ++
    (g.injections.map fun injections => ("injections", injections)).toList

theorem toJson_eq (g : WrittenGrammar) : g.toJson = .object g.members := by
  rw [toJson, members, rulesToJson_eq_map, entriesToJson_eq_map]
  cases g.injections <;> rfl

/-- The fields of a grammar, when the rules in it are left two levels less than a given room. -/
def fields (room : Nat) : List (Json.Decode.Field WrittenGrammar) :=
  [requiredField "scopeName" string fun x g => { g with scopeName := x },
    field "name" (option string) fun x g => { g with name := x },
    field "fileTypes" (list (room - 1) string) fun x g => { g with fileTypes := x },
    field "patterns" (list (room - 1) (WrittenRule.decode (room - 2))) fun x g =>
      { g with patterns := x },
    field "repository" (map (room - 1) (WrittenRule.decode (room - 2))) fun x g =>
      { g with repository := x },
    field "injections" (option (anyValue (room - 1))) fun x g => { g with injections := x }]

/-- The grammar with the fields of the given names; the others are not set. -/
def given (g : WrittenGrammar) (seen : List String) : WrittenGrammar where
  scopeName := if "scopeName" ∈ seen then g.scopeName else ""
  name := if "name" ∈ seen then g.name else none
  fileTypes := if "fileTypes" ∈ seen then g.fileTypes else []
  patterns := if "patterns" ∈ seen then g.patterns else []
  repository := if "repository" ∈ seen then g.repository else []
  injections := if "injections" ∈ seen then g.injections else none

/-- What is known of a grammar that was read: what its parts were read by. -/
structure Read (room : Nat) (g : WrittenGrammar) : Prop where
  patterns : ∀ r ∈ g.patterns, ∃ d, WrittenRule.decode (room - 2) d = .ok r
  order : InOrder g.repository
  repository : ∀ e ∈ g.repository, ∃ d, WrittenRule.decode (room - 2) d = .ok e.2
  injections : ∀ j, g.injections = some j → j ≠ .null ∧ ∃ d, anyValue (room - 1) d = .ok j

theorem read_of_decode {d : Doc} {g : WrittenGrammar} (h : decode room d = .ok g) :
    Read room g := by
  have hstart : Read room { scopeName := "" } :=
    ⟨by simp, List.Pairwise.nil, by simp, by simp⟩
  refine (record_preserves (P := Read room) ?_ hstart h).2
  intro f hf d g g' hg hread
  simp only [List.mem_cons, List.not_mem_nil, or_false] at hf
  obtain rfl | rfl | rfl | rfl | rfl | rfl := hf
  · obtain ⟨x, -, rfl⟩ := requiredField_read_eq_ok.1 hread
    exact { hg with }
  all_goals obtain ⟨x, hx, rfl⟩ := field_read_eq_ok.1 hread
  iterate 2 exact { hg with }
  · exact { hg with patterns := (list_ok hx).2 }
  · exact { hg with order := (map_ok hx).2.1, repository := (map_ok hx).2.2 }
  · refine { hg with injections := fun j hj => ?_ }
    cases hj
    obtain ⟨hne, hj⟩ := option_ok hx
    refine ⟨?_, _, hj⟩
    rintro rfl
    exact hne (anyValue_ok hj)

theorem keys_members (g : WrittenGrammar) : g.members.map Prod.fst =
    ["scopeName"] ++ (if g.name = none then [] else ["name"]) ++
      (if g.fileTypes = [] then [] else ["fileTypes"]) ++ ["patterns"] ++
      (if g.repository = [] then [] else ["repository"]) ++
      (if g.injections = none then [] else ["injections"]) := by
  simp only [members, List.map_append, keys_textMember, keys_listMember, keys_mapMember,
    List.map_eq_nil_iff, List.map_cons, List.map_nil]
  cases g.injections <;> rfl

theorem nodup_keys (g : WrittenGrammar) : (g.members.map Prod.fst).Nodup := by
  have hsublist : (g.members.map Prod.fst).Sublist (["scopeName"] ++ ["name"] ++ ["fileTypes"] ++
      ["patterns"] ++ ["repository"] ++ ["injections"]) := by
    rw [keys_members]
    apply_rules [List.Sublist.append, ite_nil_sublist, List.Sublist.refl]
  exact hsublist.nodup (by decide)

theorem given_eq {g : WrittenGrammar} {seen : List String}
    (h : ∀ key, key ∈ seen ↔ key ∈ g.members.map Prod.fst) : g.given seen = g := by
  cases g
  simp only [given, h, keys_members, List.mem_append]
  simp [eq_comm]

/-- Every member of the written form adds its field. -/
theorem adds_members (hform : Arrangement form) {g : WrittenGrammar} (hg : Read room g)
    (hreal : ∀ j, g.injections = some j → j.HasNoReal) (hroom : room ≤ again)
    (hthree : 3 ≤ again) :
    ∀ m ∈ g.members, Adds (fields again) g.given m.1 (form m.2).toDoc := by
  simp only [members, List.forall_mem_append, and_assoc]
  refine ⟨fun m hm => ?scopeName, adds_textMember hform rfl (by simp [given]),
    fun m hm => ?fileTypes, fun m hm => ?patterns, fun m hm => ?repository,
    fun m hm => ?injections⟩
  case scopeName =>
    obtain rfl := List.mem_singleton.1 hm
    refine ⟨_, rfl, fun seen => requiredField_read_eq_ok.2 ⟨g.scopeName, ?_, by simp [given]⟩⟩
    rw [hform.string]
    rfl
  case fileTypes =>
    obtain ⟨-, rfl⟩ := mem_listMember.1 hm
    exact adds_field rfl (x := g.fileTypes) (by simp [given])
      (list_arrangement hform (by omega) fun s _ => by rw [hform.string]; rfl)
  case patterns =>
    obtain rfl := List.mem_singleton.1 hm
    refine adds_field rfl (x := g.patterns) (by simp [given])
      (list_arrangement hform (by omega) fun r hr => ?_)
    obtain ⟨d, hd⟩ := hg.patterns r hr
    exact WrittenRule.decode_toJson hform hd (by omega)
  case repository =>
    obtain ⟨-, rfl⟩ := mem_mapMember.1 hm
    refine adds_field rfl (x := g.repository) (by simp [given])
      (map_arrangement hform (by omega) hg.order fun e he => ?_)
    obtain ⟨d, hd⟩ := hg.repository e he
    exact WrittenRule.decode_toJson hform hd (by omega)
  case injections =>
    cases hj : g.injections with
    | none => simp [hj] at hm
    | some j =>
      obtain rfl : m = ("injections", j) := by simpa [hj] using hm
      obtain ⟨hne, d, hd⟩ := hg.injections j hj
      have hread := anyValue_arrangement hform (hreal j hj) hd (show room - 1 ≤ again - 1 by omega)
      refine adds_field rfl (x := some j) (by simp [given, hj]) (option_of_ne_null ?_ hread)
      intro hnull
      rw [hnull] at hread
      cases hread
      exact hne rfl

/-- **A grammar is read back from any arrangement of its written form**, if no real number is in
it. -/
theorem decode_toJson (hform : Arrangement form) {d : Doc} {g : WrittenGrammar}
    (h : decode room d = .ok g) (hreal : ∀ j, g.injections = some j → j.HasNoReal)
    (hroom : room ≤ again) (hthree : 3 ≤ again) :
    decode again (form g.toJson).toDoc = .ok g := by
  have hadds := adds_members hform (read_of_decode h) hreal hroom hthree
  have hrequired : ∀ f ∈ fields again, f.required → f.name ∈ g.members.map Prod.fst := by
    simp [fields, field, requiredField, keys_members]
  obtain ⟨seen, hseen, hread⟩ :=
    record_arrangement hform (show 2 ≤ again by omega) g.nodup_keys hadds hrequired
  rw [given_eq hseen] at hread
  rw [toJson_eq]
  exact hread

end WrittenGrammar

/-! ### Texts -/

namespace WrittenGrammar

theorem hasNoReal_textMember {key : String} {x : Option String} :
    ∀ m ∈ textMember key x, m.2.HasNoReal := by
  intro m hm
  obtain ⟨s, -, rfl⟩ := mem_textMember.1 hm
  trivial

theorem hasNoReal_capturesMember {key : String} {captures : WrittenCaptures} :
    ∀ m ∈ capturesMember key captures, m.2.HasNoReal := by
  intro m hm
  obtain ⟨-, rfl⟩ := mem_capturesMember.1 hm
  rw [Json.hasNoReal_object, List.forall_mem_map]
  exact fun c _ => Json.hasNoReal_object.2 hasNoReal_textMember

theorem hasNoReal_listMember {key : String} {items : List Json} (h : ∀ j ∈ items, j.HasNoReal) :
    ∀ m ∈ listMember key items, m.2.HasNoReal := by
  intro m hm
  obtain ⟨-, rfl⟩ := mem_listMember.1 hm
  exact Json.hasNoReal_array.2 h

theorem hasNoReal_mapMember {key : String} {members : List (String × Json)}
    (h : ∀ m ∈ members, m.2.HasNoReal) : ∀ m ∈ mapMember key members, m.2.HasNoReal := by
  intro m hm
  obtain ⟨-, rfl⟩ := mem_mapMember.1 hm
  exact Json.hasNoReal_object.2 h

end WrittenGrammar

open WrittenGrammar in
mutual

theorem WrittenRule.hasNoReal_toJson : (r : WrittenRule) → r.toJson.HasNoReal
  | ⟨_, _, _, _, _, _, _, _, _, _, patterns, repository, _⟩ => by
    rw [WrittenRule.toJson, Json.hasNoReal_object]
    simp only [List.forall_mem_append, and_assoc]
    refine ⟨hasNoReal_textMember, hasNoReal_textMember, hasNoReal_textMember,
      hasNoReal_textMember, hasNoReal_textMember, hasNoReal_textMember, hasNoReal_textMember,
      hasNoReal_capturesMember, hasNoReal_capturesMember, hasNoReal_capturesMember,
      hasNoReal_listMember (hasNoReal_rulesToJson patterns),
      hasNoReal_mapMember (hasNoReal_entriesToJson repository), ?_⟩
    simp [Json.HasNoReal]

theorem hasNoReal_rulesToJson : (rules : List WrittenRule) → ∀ j ∈ rulesToJson rules, j.HasNoReal
  | [] => by simp [rulesToJson]
  | rule :: rules => by
    rw [rulesToJson]
    exact List.forall_mem_cons.2 ⟨rule.hasNoReal_toJson, hasNoReal_rulesToJson rules⟩

theorem hasNoReal_entriesToJson :
    (entries : Repository) → ∀ m ∈ entriesToJson entries, m.2.HasNoReal
  | [] => by simp [entriesToJson]
  | (_, rule) :: entries => by
    rw [entriesToJson]
    exact List.forall_mem_cons.2 ⟨rule.hasNoReal_toJson, hasNoReal_entriesToJson entries⟩

end

namespace WrittenGrammar

theorem hasNoReal_toJson {g : WrittenGrammar} (h : ∀ j, g.injections = some j → j.HasNoReal) :
    g.toJson.HasNoReal := by
  rw [toJson, Json.hasNoReal_object]
  simp only [List.forall_mem_append, and_assoc]
  refine ⟨by simp [Json.HasNoReal], hasNoReal_textMember, hasNoReal_listMember ?_, ?_,
    hasNoReal_mapMember (hasNoReal_entriesToJson g.repository), ?_⟩
  · simp [Json.HasNoReal]
  · simpa using Json.hasNoReal_array.2 (hasNoReal_rulesToJson g.patterns)
  · cases hj : g.injections with
    | none => simp
    | some j => simpa using h j hj

/-- **A grammar that was read is read back from what is written of it**, as a text or as a value,
whether the members of objects stand as they are written or in the order of their keys. -/
theorem ofText_toJson {text : String} {g : WrittenGrammar} (h : ofText text = .ok g)
    (hreal : ∀ j, g.injections = some j → j.HasNoReal) :
    ∀ j ∈ [g.toJson, g.toJson.ordered],
      ofText j.render = .ok g ∧ Json.Decode.value decode j = .ok g := by
  obtain ⟨g', hread, hg⟩ := bind_eq_ok.1 h
  obtain ⟨_, -, hg⟩ := bind_eq_ok.1 hg
  cases hg
  have harranged {form : Json → Json} (hform : Arrangement form) :
      ofText (form g.toJson).render = .ok g ∧
        Json.Decode.value decode (form g.toJson) = .ok g := by
    constructor
    · rw [ofText, text_render (hform.hasNoReal (hasNoReal_toJson hreal))]
      exact decode_toJson hform hread hreal (Nat.le_refl _) (by decide)
    · exact value_of_ok (decode_toJson hform hread hreal textRoom_le_valueRoom
        (Nat.le_trans (by decide) textRoom_le_valueRoom))
  intro j hj
  rw [List.mem_cons, List.mem_singleton] at hj
  obtain rfl | rfl := hj
  · have hid := harranged Json.arrangement_id
    rwa [id_eq] at hid
  · exact harranged Json.arrangement_ordered

/-- A grammar with a rule given as an array, fields that are nothing, and members in no order. -/
def unordered : Json :=
  .object [("repository", .object [
      ("s", .object [("patterns", .array [.object [("while", .null)]])]),
      ("n", .array [.null, .string "number"])]),
    ("injections", .object [("b", .integer (-1)), ("a", .array [])]),
    ("scopeName", .string "text\n")]

theorem ofText_toJson_unordered : ∃ g, ofText unordered.render = .ok g ∧
    g.repository.map (·.1) = ["n", "s"] ∧ ofText g.toJson.render = .ok g ∧
    Json.Decode.value decode g.toJson.ordered = .ok g := by
  have hreal : unordered.HasNoReal := by
    simp [unordered, Json.HasNoReal, Json.MembersHaveNoReal, Json.ItemsHaveNoReal]
  obtain ⟨g, hread, hkeys, hinjections⟩ : ∃ g, ofText unordered.render = .ok g ∧
      g.repository.map (·.1) = ["n", "s"] ∧
      g.injections = some (.object [("a", .array []), ("b", .integer (-1))]) :=
    ⟨_, by rw [ofText, text_render hreal]; rfl, rfl, rfl⟩
  have hback := ofText_toJson hread (by
    rw [hinjections]
    rintro _ ⟨⟩
    simp [Json.HasNoReal, Json.MembersHaveNoReal, Json.ItemsHaveNoReal])
  exact ⟨g, hread, hkeys, (hback _ (by simp)).1, (hback _ (by simp)).2⟩

end WrittenGrammar

end Highlight
