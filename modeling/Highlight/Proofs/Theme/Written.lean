import Highlight.Proofs.Json.Decoding
import Highlight.Theme.File

/-!
# Writing theme files

Whatever a theme file may hold is written as a text and read back from it
(`ThemeFile.Contents.exists_text`), provided that its colours are in the order of their names, as
they are once they have been read (`ThemeFile.inOrder_colors`).  Every field is written, and as
`null` where it is not set.
-/

namespace Highlight.ThemeFile

open Json (Decoder Doc InOrder arrangement_id)
open Json.Decode

variable {room : Nat}

/-! ### What may be set -/

section Options

variable {α : Type} {write : α → Json}

/-- The written form of what may be set. -/
def writeOption (write : α → Json) (x : Option α) : Json := (x.map write).getD .null

theorem option_writeOption {value : Decoder α} (hnull : ∀ y, (write y).toDoc ≠ .null)
    (hread : ∀ y, value (write y).toDoc = .ok y) (x : Option α) :
    option value (writeOption write x).toDoc = .ok x := by
  cases x with
  | none => rfl
  | some y => exact option_of_ne_null (hnull y) (hread y)

theorem hasNoReal_writeOption (h : ∀ y, (write y).HasNoReal) (x : Option α) :
    (writeOption write x).HasNoReal := by
  cases x with
  | none => trivial
  | some y => exact h y

theorem option_string (x : Option String) :
    option string (writeOption .string x).toDoc = .ok x := by
  have hnull (s : String) : (Json.string s).toDoc ≠ .null := by simp [Json.toDoc]
  exact option_writeOption hnull (fun _ => rfl) x

end Options

/-- A record is read back from its members when each adds its field and all together give it. -/
theorem record_object {σ : Type} {fields : List (Json.Decode.Field σ)} {given : List String → σ}
    {members : List (String × Json)} {x : σ} (hroom : 2 ≤ room)
    (hnodup : (members.map Prod.fst).Nodup)
    (hadds : ∀ m ∈ members, Adds fields given m.1 m.2.toDoc)
    (hrequired : ∀ f ∈ fields, f.required = false)
    (hgiven : ∀ seen, (∀ m ∈ members, m.1 ∈ seen) → given seen = x) :
    record room fields (given []) (Json.object members).toDoc = .ok x := by
  obtain ⟨seen, hseen, hread⟩ := record_arrangement arrangement_id hroom hnodup hadds
    fun f hf hf' => absurd (hrequired f hf) (by simp [hf'])
  have hall : ∀ m ∈ members, m.1 ∈ seen := fun m hm => (hseen m.1).2 (List.mem_map_of_mem hm)
  rw [hgiven seen hall] at hread
  exact hread

/-! ### Settings -/

namespace Settings

/-- The members of written settings. -/
def members (s : Settings) : List (String × Json) :=
  [("foreground", writeOption .string s.foreground),
    ("background", writeOption .string s.background),
    ("fontStyle", writeOption .string s.fontStyle)]

def toJson (s : Settings) : Json := .object s.members

/-- The settings with the fields of the given names; the others are not set. -/
def given (s : Settings) (seen : List String) : Settings where
  foreground := if "foreground" ∈ seen then s.foreground else none
  background := if "background" ∈ seen then s.background else none
  fontStyle := if "fontStyle" ∈ seen then s.fontStyle else none

def fields : List (Json.Decode.Field Settings) :=
  [field "foreground" (option string) fun x s => { s with foreground := x },
    field "background" (option string) fun x s => { s with background := x },
    field "fontStyle" (option string) fun x s => { s with fontStyle := x }]

theorem decode_toJson (hroom : 2 ≤ room) (s : Settings) :
    decodeSettings room s.toJson.toDoc = .ok s := by
  have hnodup : (s.members.map Prod.fst).Nodup := by simp [members]
  have hadds : ∀ m ∈ s.members, Adds fields s.given m.1 m.2.toDoc := by
    simp only [members, List.forall_mem_cons]
    exact ⟨adds_field rfl (by simp [given]) (option_string _),
      adds_field rfl (by simp [given]) (option_string _),
      adds_field rfl (by simp [given]) (option_string _), List.forall_mem_nil _⟩
  have hgiven (seen : List String) (hseen : ∀ m ∈ s.members, m.1 ∈ seen) :
      s.given seen = s := by
    simp only [members, List.forall_mem_cons] at hseen
    simp [given, hseen]
  have hread := record_object hroom hnodup hadds (by simp [fields, field]) hgiven
  exact hread

theorem hasNoReal_toJson (s : Settings) : s.toJson.HasNoReal := by
  have hstring (s : String) : (Json.string s).HasNoReal := by simp [Json.HasNoReal]
  have hoption (x : Option String) : (writeOption .string x).HasNoReal :=
    hasNoReal_writeOption hstring x
  rw [toJson, Json.hasNoReal_object]
  simp [members, hoption]

end Settings

/-! ### Entries -/

theorem strings?_map (scopes : List String) : strings? (scopes.map .string) = some scopes := by
  induction scopes with
  | nil => rfl
  | cons scope scopes ih => rw [List.map_cons, strings?, ih]; rfl

/-- The written form of the scopes of an entry. -/
def scopesToJson (scopes : List String) : Json := .array (scopes.map .string)

theorem decodeScope_scopesToJson (hroom : 2 ≤ room) (scopes : List String) :
    decodeScope room (scopesToJson scopes).toDoc = .ok scopes := by
  have hitems : list room (anyValue (room - 1))
      (Json.array ((scopes.map .string).map id)).toDoc = .ok (scopes.map .string) := by
    refine list_array hroom fun j hj => ?_
    obtain ⟨scope, -, rfl⟩ := List.mem_map.1 hj
    rfl
  rw [List.map_id] at hitems
  have hvalue : anyValue room (scopesToJson scopes).toDoc = .ok (scopesToJson scopes) := by
    rw [scopesToJson, Json.toDoc, anyValue_array, map_eq_ok]
    exact ⟨_, hitems, rfl⟩
  rw [decodeScope, bind_eq_ok]
  refine ⟨_, hvalue, ?_⟩
  simp only [scopesToJson, strings?_map]
  rfl

namespace Entry

/-- The members of a written entry. -/
def members (e : Entry) : List (String × Json) :=
  [("scope", writeOption scopesToJson e.scope), ("settings", e.settings.toJson)]

def toJson (e : Entry) : Json := .object e.members

/-- The entry with the fields of the given names; the others are not set. -/
def given (e : Entry) (seen : List String) : Entry where
  scope := if "scope" ∈ seen then e.scope else none
  settings := if "settings" ∈ seen then e.settings else {}

def fields (room : Nat) : List (Json.Decode.Field Entry) :=
  [field "scope" (option (decodeScope (room - 1))) fun x e => { e with scope := x },
    field "settings" (decodeSettings (room - 1)) fun x e => { e with settings := x }]

theorem decode_toJson (hroom : 3 ≤ room) (e : Entry) :
    decodeEntry room e.toJson.toDoc = .ok e := by
  have hnodup : (e.members.map Prod.fst).Nodup := by simp [members]
  have hadds : ∀ m ∈ e.members, Adds (fields room) e.given m.1 m.2.toDoc := by
    simp only [members, List.forall_mem_cons]
    have hnull (scopes : List String) : (scopesToJson scopes).toDoc ≠ .null := by
      simp [scopesToJson, Json.toDoc]
    have hscope := option_writeOption hnull (decodeScope_scopesToJson (by omega : 2 ≤ room - 1))
    exact ⟨adds_field rfl (by simp [given]) (hscope e.scope),
      adds_field rfl (by simp [given]) (e.settings.decode_toJson (by omega)),
      List.forall_mem_nil _⟩
  have hgiven (seen : List String) (hseen : ∀ m ∈ e.members, m.1 ∈ seen) :
      e.given seen = e := by
    simp only [members, List.forall_mem_cons] at hseen
    simp [given, hseen]
  have hread := record_object (by omega : 2 ≤ room) hnodup hadds (by simp [fields, field]) hgiven
  exact hread

theorem hasNoReal_toJson (e : Entry) : e.toJson.HasNoReal := by
  have hscopes (scopes : List String) : (scopesToJson scopes).HasNoReal := by
    simp [scopesToJson, Json.hasNoReal_array, Json.HasNoReal]
  have hscope : (writeOption scopesToJson e.scope).HasNoReal := hasNoReal_writeOption hscopes _
  rw [toJson, Json.hasNoReal_object]
  simp [members, hscope, e.settings.hasNoReal_toJson]

end Entry

/-! ### Theme files -/

namespace Contents

/-- The members of a written theme file. -/
def members (c : Contents) : List (String × Json) :=
  [("colors", .object (c.colors.map fun color => (color.1, .string color.2))),
    ("tokenColors", .array (c.tokenColors.map Entry.toJson))]

def toJson (c : Contents) : Json := .object c.members

/-- The contents with the fields of the given names; the others are not set. -/
def given (c : Contents) (seen : List String) : Contents where
  colors := if "colors" ∈ seen then c.colors else []
  tokenColors := if "tokenColors" ∈ seen then c.tokenColors else []

def fields (room : Nat) : List (Json.Decode.Field Contents) :=
  [field "colors" (map (room - 1) string) fun x c => { c with colors := x },
    field "tokenColors" (list (room - 1) (decodeEntry (room - 2))) fun x c =>
      { c with tokenColors := x }]

theorem decode_toJson (hroom : 5 ≤ room) {c : Contents} (hc : InOrder c.colors) :
    decode room c.toJson.toDoc = .ok c := by
  have hnodup : (c.members.map Prod.fst).Nodup := by simp [members]
  have hadds : ∀ m ∈ c.members, Adds (fields room) c.given m.1 m.2.toDoc := by
    simp only [members, List.forall_mem_cons]
    refine ⟨adds_field rfl (x := c.colors) (by simp [given]) ?colors,
      adds_field rfl (x := c.tokenColors) (by simp [given]) ?entries, List.forall_mem_nil _⟩
    case colors =>
      exact map_arrangement arrangement_id (by omega) hc fun _ _ => rfl
    case entries =>
      exact list_array (by omega) fun e _ => e.decode_toJson (by omega)
  have hgiven (seen : List String) (hseen : ∀ m ∈ c.members, m.1 ∈ seen) :
      c.given seen = c := by
    simp only [members, List.forall_mem_cons] at hseen
    simp [given, hseen]
  have hread := record_object (by omega : 2 ≤ room) hnodup hadds (by simp [fields, field]) hgiven
  exact hread

theorem hasNoReal_toJson (c : Contents) : c.toJson.HasNoReal := by
  have hcolors :
      (Json.object (c.colors.map fun color => (color.1, .string color.2))).HasNoReal := by
    rw [Json.hasNoReal_object, List.forall_mem_map]
    simp [Json.HasNoReal]
  have hentries : (Json.array (c.tokenColors.map Entry.toJson)).HasNoReal := by
    simp [Json.hasNoReal_array, Entry.hasNoReal_toJson]
  rw [toJson, Json.hasNoReal_object]
  simp [members, hcolors, hentries]

/-- **Some text holds a theme file of the given contents.** -/
theorem exists_text {c : Contents} (hc : InOrder c.colors) :
    ∃ text, Json.Decode.text decode text = .ok c := by
  refine ⟨c.toJson.render, ?_⟩
  rw [text_render c.hasNoReal_toJson]
  exact decode_toJson (by decide) hc

end Contents

/-- The colours that have been read are in the order of their names. -/
theorem inOrder_colors {d : Doc} {c : Contents} (h : decode room d = .ok c) :
    InOrder c.colors := by
  have hstart : InOrder ({} : Contents).colors := List.Pairwise.nil
  refine (record_preserves (P := fun c : Contents => InOrder c.colors) ?_ hstart h).2
  intro f hf d c c' hc hread
  simp only [List.mem_cons, List.not_mem_nil, or_false] at hf
  obtain rfl | rfl := hf
  · obtain ⟨x, hx, rfl⟩ := field_read_eq_ok.1 hread
    exact (map_ok hx).2.1
  · obtain ⟨x, hx, rfl⟩ := field_read_eq_ok.1 hread
    exact hc

end Highlight.ThemeFile
