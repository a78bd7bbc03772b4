import Highlight.Theme.Style
import Highlight.Proofs.Text.Words
import Mathlib.Data.List.Basic
import Mathlib.Tactic.IntervalCases

/-!
# Written colours

A colour is written `#` and three, four, six or eight hexadecimal digits, with blanks around
(`Color.IsWritten`).  Whatever is written so is read, and nothing else.  What is read is told by the
written form of the colour: it has the same digits as capitals, each twice where there are no more
than four, and without those for transparency (`Color.parse?_eq_some_iff`).

Reading goes by bytes: once all bytes behind the `#` are those of digits, a part between two byte
offsets is a part between two digits, and a channel fits a byte.  `Color.readBytes` checks this as
it goes, and has no result where it fails; it always has the result of `Color.parse?`
(`Color.readBytes_eq`).
-/

namespace Highlight.Color

/-! ### Digits -/

/-- The hexadecimal digits, of either case. -/
def hexDigits : List Char := "0123456789abcdefABCDEF".toList

theorem ofNat_mem_hexDigits {n : Nat}
    (h : (48 ≤ n ∧ n ≤ 57) ∨ (97 ≤ n ∧ n ≤ 102) ∨ (65 ≤ n ∧ n ≤ 70)) :
    Char.ofNat n ∈ hexDigits := by
  obtain ⟨hlo, hhi⟩ | ⟨hlo, hhi⟩ | ⟨hlo, hhi⟩ := h
  · interval_cases n <;> decide
  · interval_cases n <;> decide
  · interval_cases n <;> decide

/-- A digit has a value, and as a capital it is the digit of that value. -/
theorem exists_digitValue? {c : Char} (h : c ∈ hexDigits) :
    ∃ v, digitValue? c = some v ∧ v < 16 ∧ hexDigit v = c.toUpper := by
  have hall : hexDigits.all (fun c =>
      (digitValue? c).any fun v => v < 16 && hexDigit v == c.toUpper) = true := by decide
  obtain ⟨v, hv, hdigit⟩ := (Option.any_eq_true _ _).1 (List.all_eq_true.1 hall c h)
  simp only [Bool.and_eq_true, decide_eq_true_eq, beq_iff_eq] at hdigit
  exact ⟨v, hv, hdigit.1, hdigit.2⟩

/-- Nothing else has a value. -/
theorem mem_hexDigits_of_digitValue? {c : Char} {v : Nat} (h : digitValue? c = some v) :
    c ∈ hexDigits := by
  unfold digitValue? at h
  rw [← Char.ofNat_toNat c]
  apply ofNat_mem_hexDigits
  split at h
  · rename_i hc
    exact .inl hc
  · split at h
    · rename_i hc
      exact .inr (.inl hc)
    · split at h
      · rename_i hc
        exact .inr (.inr hc)
      · cases h

/-- Hexadecimal digits have values, and as capitals they are the digits of these values. -/
theorem exists_digitValues? {cs : List Char} (h : ∀ c ∈ cs, c ∈ hexDigits) :
    ∃ vs, digitValues? cs = some vs ∧ vs.length = cs.length ∧ (∀ v ∈ vs, v < 16) ∧
      vs.map hexDigit = cs.map Char.toUpper := by
  induction cs with
  | nil => exact ⟨[], rfl, rfl, List.forall_mem_nil _, rfl⟩
  | cons c cs ih =>
    obtain ⟨hc, hcs⟩ := List.forall_mem_cons.1 h
    obtain ⟨v, hv, hlt, hdigit⟩ := exists_digitValue? hc
    obtain ⟨vs, hvs, hlength, hall, hdigits⟩ := ih hcs
    refine ⟨v :: vs, ?_, ?_, List.forall_mem_cons.2 ⟨hlt, hall⟩, ?_⟩
    · rw [digitValues?, hv, hvs]
      rfl
    · rw [List.length_cons, List.length_cons, hlength]
    · rw [List.map_cons, List.map_cons, hdigit, hdigits]

theorem mem_hexDigits_of_digitValues? {cs : List Char} {vs : List Nat}
    (h : digitValues? cs = some vs) : ∀ c ∈ cs, c ∈ hexDigits := by
  induction cs generalizing vs with
  | nil => exact List.forall_mem_nil _
  | cons c cs ih =>
    rw [digitValues?] at h
    obtain ⟨v, hv, h⟩ := Option.bind_eq_some_iff.1 h
    obtain ⟨vs', hvs', -⟩ := Option.bind_eq_some_iff.1 h
    exact List.forall_mem_cons.2 ⟨mem_hexDigits_of_digitValue? hv, ih hvs'⟩

theorem bounds_of_digitValues? {cs : List Char} {vs : List Nat} (h : digitValues? cs = some vs) :
    vs.length = cs.length ∧ ∀ v ∈ vs, v < 16 := by
  obtain ⟨vs', hvs', hlength, hlt, -⟩ := exists_digitValues? (mem_hexDigits_of_digitValues? h)
  obtain rfl := Option.some.inj (h.symm.trans hvs')
  exact ⟨hlength, hlt⟩

/-! ### The written form -/

theorem channelChars_channel {high low : Nat} (hhigh : high < 16) (hlow : low < 16) :
    channelChars (channel high low) = [hexDigit high, hexDigit low] := by
  have hvalue : (channel high low).toNat = high * 16 + low := by
    show (high * 16 + low) % 256 = high * 16 + low
    omega
  have hdiv : (high * 16 + low) / 16 = high := by omega
  have hmod : (high * 16 + low) % 16 = low := by omega
  rw [channelChars, hvalue, hdiv, hmod]

theorem hexDigit_injective {m n : Nat} (hm : m < 16) (hn : n < 16) (h : hexDigit m = hexDigit n) :
    m = n := by
  have hall : ∀ m < 16, ∀ n < 16, hexDigit m = hexDigit n → m = n := by decide
  exact hall m hm n hn h

theorem channelChars_injective {x y : UInt8} (h : channelChars x = channelChars y) : x = y := by
  have hx := x.toNat_lt
  have hy := y.toNat_lt
  obtain ⟨hhigh, hlow⟩ := List.cons.inj h
  have hdiv := hexDigit_injective (by omega) (by omega) hhigh
  have hmod := hexDigit_injective (by omega) (by omega) (List.cons.inj hlow).1
  apply UInt8.toNat_inj.1
  omega

theorem toList_text (c : Color) : c.text.toList =
    '#' :: (channelChars c.red ++ channelChars c.green ++ channelChars c.blue) := by
  rw [text, String.toList_ofList]
  rfl

/-- A colour has one written form. -/
theorem text_injective {c d : Color} (h : c.text.toList = d.text.toList) : c = d := by
  rw [toList_text, toList_text] at h
  obtain ⟨hfront, hblue⟩ := List.append_inj' (List.cons.inj h).2 rfl
  obtain ⟨hred, hgreen⟩ := List.append_inj' hfront rfl
  obtain ⟨red, green, blue⟩ := c
  obtain ⟨red', green', blue'⟩ := d
  obtain rfl : red = red' := channelChars_injective hred
  obtain rfl : green = green' := channelChars_injective hgreen
  obtain rfl : blue = blue' := channelChars_injective hblue
  rfl

/-- The digits of the written form of what is written with the given ones. -/
def fullDigits {α : Type} (digits : List α) : List α :=
  (if digits.length ≤ 4 then digits.flatMap fun d => [d, d] else digits).take 6

theorem map_fullDigits {α β : Type} (f : α → β) (digits : List α) :
    (fullDigits digits).map f = fullDigits (digits.map f) := by
  unfold fullDigits
  rw [List.map_take, List.length_map]
  split
  · rw [List.map_flatMap, List.flatMap_map]
    rfl
  · rfl

/-- As many digits as a colour may have. -/
def HasColorLength {α : Type} (digits : List α) : Prop :=
  digits.length = 3 ∨ digits.length = 4 ∨ digits.length = 6 ∨ digits.length = 8

/-- The text is `#` and the given digits of a colour, with blanks around. -/
structure IsWritten (text : String) (digits : List Char) : Prop where
  around : ∃ front back, text.toList = front ++ '#' :: digits ++ back ∧
    (∀ c ∈ front, Text.isBlank c = true) ∧ ∀ c ∈ back, Text.isBlank c = true
  hex : ∀ c ∈ digits, c ∈ hexDigits
  length : HasColorLength digits

theorem hasColorLength_of_ofDigits? {vs : List Nat} {c : Color} (h : ofDigits? vs = some c) :
    HasColorLength vs := by
  unfold ofDigits? at h
  split at h
  · exact .inl rfl
  · exact .inr (.inl rfl)
  · exact .inr (.inr (.inl rfl))
  · exact .inr (.inr (.inr rfl))
  · cases h

theorem toList_text_channels {r r' g g' b b' : Nat} (h : ∀ v ∈ [r, r', g, g', b, b'], v < 16) :
    (text ⟨channel r r', channel g g', channel b b'⟩).toList =
      '#' :: [r, r', g, g', b, b'].map hexDigit := by
  rw [toList_text, channelChars_channel (h r (by simp)) (h r' (by simp)),
    channelChars_channel (h g (by simp)) (h g' (by simp)),
    channelChars_channel (h b (by simp)) (h b' (by simp))]
  rfl

/-- As many values as a colour may have digits are those of a colour, and its written form shows
them in full. -/
theorem exists_ofDigits? {vs : List Nat} (h : HasColorLength vs) (hlt : ∀ v ∈ vs, v < 16) :
    ∃ c, ofDigits? vs = some c ∧ c.text.toList = '#' :: (fullDigits vs).map hexDigit := by
  have htext {r r' g g' b b' : Nat} (hmem : [r, r', g, g', b, b'] ⊆ vs) :=
    toList_text_channels fun v hv => hlt v (hmem hv)
  obtain hlength | hlength | hlength | hlength := h
  · match vs, hlength with
    | [r, g, b], _ => exact ⟨_, rfl, htext (by simp)⟩
  · match vs, hlength with
    | [r, g, b, a], _ => exact ⟨_, rfl, htext (by simp)⟩
  · match vs, hlength with
    | [r, r', g, g', b, b'], _ => exact ⟨_, rfl, htext (by simp)⟩
  · match vs, hlength with
    | [r, r', g, g', b, b', a, a'], _ => exact ⟨_, rfl, htext (by simp)⟩

/-! ### Reading -/

theorem not_isBlank_of_mem_hexDigits {c : Char} (h : c ∈ hexDigits) : Text.isBlank c = false := by
  have hall : hexDigits.all (fun c => !Text.isBlank c) = true := by decide
  simpa using List.all_eq_true.1 hall c h

theorem parse?_of_trimChars {text : String} {cs : List Char}
    (h : Text.trimChars text.toList = '#' :: cs) :
    parse? text = (digitValues? cs).bind ofDigits? := by
  rw [parse?, h]
  rfl

theorem exists_trimChars_of_parse? {text : String} {c : Color} (h : parse? text = some c) :
    ∃ cs, Text.trimChars text.toList = '#' :: cs := by
  unfold parse? at h
  split at h
  · rename_i cs htrim
    exact ⟨cs, htrim⟩
  · cases h

theorem IsWritten.trimChars_eq {text : String} {digits : List Char} (h : IsWritten text digits) :
    Text.trimChars text.toList = '#' :: digits := by
  obtain ⟨front, back, htext, hfront, hback⟩ := h.around
  have hcore : ∀ c ∈ '#' :: digits, Text.isBlank c = false :=
    List.forall_mem_cons.2 ⟨by decide, fun c hc => not_isBlank_of_mem_hexDigits (h.hex c hc)⟩
  rw [htext, Text.trimChars_around hfront hcore hback]

/-- What is written as a colour is read as the one whose written form shows the digits. -/
theorem IsWritten.exists_parse? {text : String} {digits : List Char} (h : IsWritten text digits) :
    ∃ c, parse? text = some c ∧ c.text.toList = '#' :: (fullDigits digits).map Char.toUpper := by
  obtain ⟨vs, hvs, hlength, hlt, hdigits⟩ := exists_digitValues? h.hex
  have hcolor : HasColorLength vs := by
    unfold HasColorLength
    rw [hlength]
    exact h.length
  obtain ⟨c, hc, htext⟩ := exists_ofDigits? hcolor hlt
  refine ⟨c, ?_, ?_⟩
  · rw [parse?_of_trimChars h.trimChars_eq, hvs]
    exact hc
  · rw [htext, map_fullDigits, map_fullDigits, hdigits]

/-- Only what is written as a colour is read. -/
theorem exists_isWritten {text : String} {c : Color} (h : parse? text = some c) :
    ∃ digits, IsWritten text digits := by
  obtain ⟨cs, htrim⟩ := exists_trimChars_of_parse? h
  rw [parse?_of_trimChars htrim] at h
  obtain ⟨vs, hvs, hcolor⟩ := Option.bind_eq_some_iff.1 h
  have hhex := mem_hexDigits_of_digitValues? hvs
  have hlength := (bounds_of_digitValues? hvs).1
  obtain ⟨front, back, htext, hblank⟩ := Text.exists_append_trimChars_append text.toList
  rw [htrim] at htext
  refine ⟨cs, ⟨front, back, htext, hblank⟩, hhex, ?_⟩
  unfold HasColorLength
  rw [← hlength]
  exact hasColorLength_of_ofDigits? hcolor

/-- A text is read as a colour just where it is written as one, and the written form of that colour
shows its digits in full, as capitals. -/
theorem parse?_eq_some_iff {text : String} {c : Color} :
    parse? text = some c ↔ ∃ digits, IsWritten text digits ∧
      c.text.toList = '#' :: (fullDigits digits).map Char.toUpper := by
  constructor
  · intro h
    obtain ⟨digits, hwritten⟩ := exists_isWritten h
    obtain ⟨c', hc', htext⟩ := hwritten.exists_parse?
    obtain rfl := Option.some.inj (h.symm.trans hc')
    exact ⟨digits, hwritten, htext⟩
  · rintro ⟨digits, hwritten, htext⟩
    obtain ⟨c', hc', htext'⟩ := hwritten.exists_parse?
    rw [hc', text_injective (htext.trans htext'.symm)]

theorem hexDigit_mem_hexDigits {n : Nat} (h : n < 16) :
    hexDigit n ∈ hexDigits ∧ (hexDigit n).toUpper = hexDigit n := by
  have hall : ∀ n < 16, hexDigit n ∈ hexDigits ∧ (hexDigit n).toUpper = hexDigit n := by decide
  exact hall n h

theorem mem_channelChars {x : UInt8} {c : Char} (h : c ∈ channelChars x) :
    c ∈ hexDigits ∧ c.toUpper = c := by
  have hx := x.toNat_lt
  rw [channelChars, List.mem_pair] at h
  obtain rfl | rfl := h
  · exact hexDigit_mem_hexDigits (by omega)
  · exact hexDigit_mem_hexDigits (by omega)

/-- The written form of a colour is read as that colour. -/
theorem parse?_text (c : Color) : parse? c.text = some c := by
  have hdigits : ∀ d ∈ channelChars c.red ++ channelChars c.green ++ channelChars c.blue,
      d ∈ hexDigits ∧ d.toUpper = d := by
    intro d hd
    rw [List.mem_append, List.mem_append] at hd
    obtain (hd | hd) | hd := hd
    · exact mem_channelChars hd
    · exact mem_channelChars hd
    · exact mem_channelChars hd
  rw [parse?_eq_some_iff]
  refine ⟨_, ⟨⟨[], [], ?_, List.forall_mem_nil _, List.forall_mem_nil _⟩,
    fun d hd => (hdigits d hd).1, .inr (.inr (.inl rfl))⟩, ?_⟩
  · rw [toList_text, List.nil_append, List.append_nil]
  · have hfull : fullDigits (channelChars c.red ++ channelChars c.green ++ channelChars c.blue) =
        channelChars c.red ++ channelChars c.green ++ channelChars c.blue := rfl
    rw [hfull, List.map_congr_left fun d hd => (hdigits d hd).2, List.map_id', toList_text]

/-! ### Reading by bytes -/

/-- The characters as they are in UTF-8. -/
def utf8 (cs : List Char) : List UInt8 := cs.flatMap String.utf8EncodeChar

/-- Whether a byte is that of a hexadecimal digit. -/
def isHexByte (b : UInt8) : Bool :=
  (48 ≤ b && b ≤ 57) || (97 ≤ b && b ≤ 102) || (65 ≤ b && b ≤ 70)

/-- The characters behind the given number of bytes, if these end where a character does. -/
def dropBytes? : Nat → List Char → Option (List Char)
  | 0, cs => some cs
  | _ + 1, [] => none
  | n + 1, c :: cs => if c.utf8Size ≤ n + 1 then dropBytes? (n + 1 - c.utf8Size) cs else none

/-- The characters in the given number of bytes, if these end where a character does. -/
def takeBytes? : Nat → List Char → Option (List Char)
  | 0, _ => some []
  | _ + 1, [] => none
  | n + 1, c :: cs =>
    if c.utf8Size ≤ n + 1 then (takeBytes? (n + 1 - c.utf8Size) cs).map (c :: ·) else none

/-- The characters from one byte offset to another, if both are where a character begins or the end
is. -/
def slice? (cs : List Char) (start stop : Nat) : Option (List Char) :=
  if start ≤ stop then (dropBytes? start cs).bind (takeBytes? (stop - start)) else none

/-- The number that digits stand for, if they do and it fits a byte. -/
def byte? (cs : List Char) : Option UInt8 :=
  (digitValues? cs).bind fun vs =>
    let n := vs.foldl (fun n v => n * 16 + v) 0
    if vs ≠ [] ∧ n < 256 then some (UInt8.ofNat n) else none

/-- A product of bytes, if it fits a byte. -/
def times? (x : UInt8) (k : Nat) : Option UInt8 :=
  if x.toNat * k < 256 then some (UInt8.ofNat (x.toNat * k)) else none

/-- The channel that is written with one digit at a byte offset, if it is one.  There is no result
if the offset is outside or the channel does not fit a byte. -/
def shortChannel (cs : List Char) (start : Nat) : Option (Option UInt8) :=
  (slice? cs start (start + 1)).bind fun part =>
    match byte? part with
    | none => some none
    | some x => (times? x 17).map some

/-- The channel that is written with two digits at a byte offset, if they are such.  There is no
result if the offset is outside. -/
def longChannel (cs : List Char) (start : Nat) : Option (Option UInt8) :=
  (slice? cs start (start + 2)).map byte?

/-- The colour of three channels, if they are there. -/
def ofChannels (red green blue : Option (Option UInt8)) : Option (Option Color) := do
  let red ← red
  let green ← green
  let blue ← blue
  return do return ⟨← red, ← green, ← blue⟩

/-- The colour that is written with the given number of bytes. -/
def readChannels (cs : List Char) : (size : Nat) → Option (Option Color)
  | 3 | 4 => ofChannels (shortChannel cs 0) (shortChannel cs 1) (shortChannel cs 2)
  | 6 | 8 => ofChannels (longChannel cs 0) (longChannel cs 2) (longChannel cs 4)
  | _ => some none

/-- Reads a colour by its bytes.  There is no result if a byte offset is outside or a channel does
not fit a byte. -/
def readBytes (text : String) : Option (Option Color) :=
  match Text.trimChars text.toList with
  | '#' :: cs => if (utf8 cs).all isHexByte then readChannels cs (utf8 cs).length else some none
  | _ => some none

theorem isHexByte_iff (b : UInt8) : isHexByte b = true ↔
    (48 ≤ b.toNat ∧ b.toNat ≤ 57) ∨ (97 ≤ b.toNat ∧ b.toNat ≤ 102) ∨
      (65 ≤ b.toNat ∧ b.toNat ≤ 70) := by
  simp [isHexByte, UInt8.le_iff_toNat_le, or_assoc]

/-- A character is one byte, its number, or it begins with a byte from 192 on. -/
theorem exists_utf8EncodeChar (c : Char) : ∃ first rest,
    String.utf8EncodeChar c = UInt8.ofNat first :: rest ∧ first < 256 ∧
      (first = c.toNat ∨ 192 ≤ first) := by
  have hvalue : c.val.toNat = c.toNat := rfl
  unfold String.utf8EncodeChar
  dsimp only
  rw [hvalue]
  split
  · exact ⟨_, _, rfl, by omega, .inl rfl⟩
  · split
    · exact ⟨_, _, rfl, by omega, .inr (by omega)⟩
    · split
      · exact ⟨_, _, rfl, by omega, .inr (by omega)⟩
      · exact ⟨_, _, rfl, by omega, .inr (by omega)⟩

/-- The bytes of a character are those of digits just where it is a digit. -/
theorem all_isHexByte_utf8EncodeChar (c : Char) :
    (String.utf8EncodeChar c).all isHexByte = true ↔ c ∈ hexDigits := by
  constructor
  · intro h
    obtain ⟨first, rest, hbytes, hlt, hfirst⟩ := exists_utf8EncodeChar c
    rw [hbytes, List.all_cons, Bool.and_eq_true, isHexByte_iff] at h
    have hvalue : (UInt8.ofNat first).toNat = first := Nat.mod_eq_of_lt hlt
    rw [hvalue] at h
    rw [← Char.ofNat_toNat c]
    apply ofNat_mem_hexDigits
    omega
  · intro h
    have hall : hexDigits.all (fun c => (String.utf8EncodeChar c).all isHexByte) = true := by decide
    exact List.all_eq_true.1 hall c h

theorem all_isHexByte_utf8 (cs : List Char) :
    (utf8 cs).all isHexByte = true ↔ ∀ c ∈ cs, c ∈ hexDigits := by
  rw [utf8, List.all_flatMap, List.all_eq_true]
  exact forall₂_congr fun c _ => all_isHexByte_utf8EncodeChar c

section Digits

variable {cs : List Char}

theorem utf8Size_of_mem_hexDigits {c : Char} (h : c ∈ hexDigits) : c.utf8Size = 1 := by
  have hall : hexDigits.all (fun c => c.utf8Size == 1) = true := by decide
  exact beq_iff_eq.1 (List.all_eq_true.1 hall c h)

/-- Digits are as many bytes as they are characters. -/
theorem length_utf8 (h : ∀ c ∈ cs, c ∈ hexDigits) : (utf8 cs).length = cs.length := by
  induction cs with
  | nil => rfl
  | cons c cs ih =>
    obtain ⟨hc, hcs⟩ := List.forall_mem_cons.1 h
    have hsplit : utf8 (c :: cs) = String.utf8EncodeChar c ++ utf8 cs := List.flatMap_cons
    rw [hsplit, List.length_append, ih hcs, String.length_utf8EncodeChar,
      utf8Size_of_mem_hexDigits hc, List.length_cons, Nat.add_comm]

theorem dropBytes?_eq (h : ∀ c ∈ cs, c ∈ hexDigits) {n : Nat} (hn : n ≤ cs.length) :
    dropBytes? n cs = some (cs.drop n) := by
  induction cs generalizing n with
  | nil =>
    obtain rfl : n = 0 := Nat.le_zero.1 hn
    rfl
  | cons c cs ih =>
    obtain ⟨hc, hcs⟩ := List.forall_mem_cons.1 h
    cases n with
    | zero => rfl
    | succ n =>
      rw [dropBytes?, utf8Size_of_mem_hexDigits hc, if_pos (by omega), Nat.add_sub_cancel,
        ih hcs (Nat.le_of_succ_le_succ hn)]
      rfl

theorem takeBytes?_eq (h : ∀ c ∈ cs, c ∈ hexDigits) {n : Nat} (hn : n ≤ cs.length) :
    takeBytes? n cs = some (cs.take n) := by
  induction cs generalizing n with
  | nil =>
    obtain rfl : n = 0 := Nat.le_zero.1 hn
    rfl
  | cons c cs ih =>
    obtain ⟨hc, hcs⟩ := List.forall_mem_cons.1 h
    cases n with
    | zero => rfl
    | succ n =>
      rw [takeBytes?, utf8Size_of_mem_hexDigits hc, if_pos (by omega), Nat.add_sub_cancel,
        ih hcs (Nat.le_of_succ_le_succ hn)]
      rfl

/-- Between two of the digits, byte offsets count digits. -/
theorem slice?_eq (h : ∀ c ∈ cs, c ∈ hexDigits) {start stop : Nat} (hle : start ≤ stop)
    (hstop : stop ≤ cs.length) :
    slice? cs start stop = some ((cs.drop start).take (stop - start)) := by
  have hdrop : ∀ c ∈ cs.drop start, c ∈ hexDigits := fun c hc => h c (List.mem_of_mem_drop hc)
  have hlength : stop - start ≤ (cs.drop start).length := by
    rw [List.length_drop]
    omega
  rw [slice?, if_pos hle, dropBytes?_eq h (by omega), Option.bind_some, takeBytes?_eq hdrop hlength]

variable {vs : List Nat} {start v w : Nat}

theorem digitValues?_drop (h : digitValues? cs = some vs) (n : Nat) :
    digitValues? (cs.drop n) = some (vs.drop n) := by
  induction n generalizing cs vs with
  | zero => exact h
  | succ n ih =>
    cases cs with
    | nil =>
      obtain rfl := Option.some.inj h
      rfl
    | cons c cs =>
      rw [digitValues?] at h
      obtain ⟨v, -, h⟩ := Option.bind_eq_some_iff.1 h
      obtain ⟨vs', hvs', h⟩ := Option.bind_eq_some_iff.1 h
      obtain rfl := Option.some.inj h
      exact ih hvs'

theorem digitValues?_take (h : digitValues? cs = some vs) (n : Nat) :
    digitValues? (cs.take n) = some (vs.take n) := by
  induction n generalizing cs vs with
  | zero => rfl
  | succ n ih =>
    cases cs with
    | nil =>
      obtain rfl := Option.some.inj h
      rfl
    | cons c cs =>
      rw [digitValues?] at h
      obtain ⟨v, hv, h⟩ := Option.bind_eq_some_iff.1 h
      obtain ⟨vs', hvs', h⟩ := Option.bind_eq_some_iff.1 h
      obtain rfl := Option.some.inj h
      rw [List.take_succ_cons, digitValues?, hv, ih hvs']
      rfl

/-- The values of the digits in a slice. -/
theorem exists_slice? (h : digitValues? cs = some vs) {count : Nat}
    (hstop : start + count ≤ vs.length) : ∃ part, slice? cs start (start + count) = some part ∧
      digitValues? part = some ((vs.drop start).take count) := by
  have hhex := mem_hexDigits_of_digitValues? h
  have hlength := (bounds_of_digitValues? h).1
  refine ⟨(cs.drop start).take count, ?_, digitValues?_take (digitValues?_drop h start) count⟩
  rw [slice?_eq hhex (by omega) (by omega), Nat.add_sub_cancel_left]

theorem byte?_of_digitValues? (h : digitValues? cs = some vs) (hne : vs ≠ [])
    (hlt : vs.foldl (fun n v => n * 16 + v) 0 < 256) :
    byte? cs = some (UInt8.ofNat (vs.foldl (fun n v => n * 16 + v) 0)) := by
  rw [byte?, h]
  exact if_pos ⟨hne, hlt⟩

/-- A value below sixteen, seventeen times, is that of the digit given twice. -/
theorem times?_seventeen (h : v < 16) : times? (UInt8.ofNat v) 17 = some (channel v v) := by
  have hvalue : (UInt8.ofNat v).toNat = v := Nat.mod_eq_of_lt (by omega)
  have hproduct : v * 17 = v * 16 + v := by omega
  rw [times?, hvalue, if_pos (by omega), hproduct]
  rfl

theorem shortChannel_eq (h : digitValues? cs = some vs) (hv : vs[start]? = some v) :
    shortChannel cs start = some (some (channel v v)) := by
  obtain ⟨hstart, rfl⟩ := List.getElem?_eq_some_iff.1 hv
  have hlt : vs[start] < 16 := (bounds_of_digitValues? h).2 _ (List.getElem_mem hstart)
  obtain ⟨part, hpart, hvalues⟩ := exists_slice? h (show start + 1 ≤ vs.length by omega)
  rw [List.drop_eq_getElem_cons hstart, List.take_succ_cons, List.take_zero] at hvalues
  have hnumber : [vs[start]].foldl (fun n v => n * 16 + v) 0 = vs[start] := by simp
  have hbyte := byte?_of_digitValues? hvalues (List.cons_ne_nil _ _) (by omega)
  rw [hnumber] at hbyte
  rw [shortChannel, hpart, Option.bind_some, hbyte]
  dsimp only
  rw [times?_seventeen hlt, Option.map_some]

theorem longChannel_eq (h : digitValues? cs = some vs) (hv : vs[start]? = some v)
    (hw : vs[start + 1]? = some w) : longChannel cs start = some (some (channel v w)) := by
  obtain ⟨hstart, rfl⟩ := List.getElem?_eq_some_iff.1 hv
  obtain ⟨hstop, rfl⟩ := List.getElem?_eq_some_iff.1 hw
  have hhigh : vs[start] < 16 := (bounds_of_digitValues? h).2 _ (List.getElem_mem hstart)
  have hlow : vs[start + 1] < 16 := (bounds_of_digitValues? h).2 _ (List.getElem_mem hstop)
  obtain ⟨part, hpart, hvalues⟩ := exists_slice? h (show start + 2 ≤ vs.length by omega)
  rw [List.drop_eq_getElem_cons hstart, List.take_succ_cons, List.drop_eq_getElem_cons hstop,
    List.take_succ_cons, List.take_zero] at hvalues
  have hnumber : [vs[start], vs[start + 1]].foldl (fun n v => n * 16 + v) 0 =
      vs[start] * 16 + vs[start + 1] := by simp
  have hbyte := byte?_of_digitValues? hvalues (List.cons_ne_nil _ _) (by omega)
  rw [hnumber] at hbyte
  rw [longChannel, hpart, Option.map_some, hbyte]
  rfl

/-- The channels of as many digits as a colour may have are those of the colour with them. -/
theorem readChannels_eq (h : digitValues? cs = some vs) :
    readChannels cs vs.length = some (ofDigits? vs) := by
  by_cases hlength : HasColorLength vs
  · obtain hlength | hlength | hlength | hlength := hlength
    · match vs, hlength with
      | [r, g, b], _ =>
        show ofChannels _ _ _ = _
        rw [shortChannel_eq h rfl, shortChannel_eq h rfl, shortChannel_eq h rfl]
        rfl
    · match vs, hlength with
      | [r, g, b, a], _ =>
        show ofChannels _ _ _ = _
        rw [shortChannel_eq h rfl, shortChannel_eq h rfl, shortChannel_eq h rfl]
        rfl
    · match vs, hlength with
      | [r, r', g, g', b, b'], _ =>
        show ofChannels _ _ _ = _
        rw [longChannel_eq h rfl rfl, longChannel_eq h rfl rfl, longChannel_eq h rfl rfl]
        rfl
    · match vs, hlength with
      | [r, r', g, g', b, b', a, a'], _ =>
        show ofChannels _ _ _ = _
        rw [longChannel_eq h rfl rfl, longChannel_eq h rfl rfl, longChannel_eq h rfl rfl]
        rfl
  · have hnone : ofDigits? vs = none := by
      rw [Option.eq_none_iff_forall_ne_some]
      intro c hc
      exact hlength (hasColorLength_of_ofDigits? hc)
    rw [hnone]
    unfold readChannels
    split
    · exact absurd (.inl ‹_›) hlength
    · exact absurd (.inr (.inl ‹_›)) hlength
    · exact absurd (.inr (.inr (.inl ‹_›))) hlength
    · exact absurd (.inr (.inr (.inr ‹_›))) hlength
    · rfl

end Digits

/-- Reading by bytes always has a result, and it is that of reading by characters. -/
theorem readBytes_eq (text : String) : readBytes text = some (parse? text) := by
  unfold readBytes
  split
  · rename_i cs htrim
    rw [parse?_of_trimChars htrim]
    by_cases hhex : ∀ c ∈ cs, c ∈ hexDigits
    · obtain ⟨vs, hvs, hlength, -⟩ := exists_digitValues? hhex
      rw [if_pos ((all_isHexByte_utf8 cs).2 hhex), length_utf8 hhex, ← hlength, hvs,
        Option.bind_some]
      exact readChannels_eq hvs
    · have hnone : digitValues? cs = none := by
        rw [Option.eq_none_iff_forall_ne_some]
        intro vs hvs
        exact hhex (mem_hexDigits_of_digitValues? hvs)
      rw [if_neg (mt (all_isHexByte_utf8 cs).1 hhex), hnone]
      rfl
  · rename_i hother
    have hnone : parse? text = none := by
      rw [Option.eq_none_iff_forall_ne_some]
      intro c hc
      obtain ⟨cs, htrim⟩ := exists_trimChars_of_parse? hc
      exact hother cs htrim
    rw [hnone]

/-! ### Ways to write a colour -/

section Forms

variable {text text' : String} {digits digits' alpha : List Char}

theorem IsWritten.parse?_eq (h : IsWritten text digits) (h' : IsWritten text' digits')
    (hfull : fullDigits digits = fullDigits digits') : parse? text = parse? text' := by
  obtain ⟨c, hc, htext⟩ := h.exists_parse?
  obtain ⟨c', hc', htext'⟩ := h'.exists_parse?
  rw [hfull] at htext
  rw [hc, hc', text_injective (htext.trans htext'.symm)]

/-- The digits for transparency are not shown. -/
theorem fullDigits_append (h : digits.length = 3 ∧ alpha.length = 1 ∨
    digits.length = 6 ∧ alpha.length = 2) : fullDigits (digits ++ alpha) = fullDigits digits := by
  obtain ⟨hdigits, halpha⟩ | ⟨hdigits, halpha⟩ := h
  · obtain ⟨r, g, b, rfl⟩ := List.length_eq_three.1 hdigits
    obtain ⟨a, rfl⟩ := List.length_eq_one_iff.1 halpha
    rfl
  · have hlong : ¬ (digits ++ alpha).length ≤ 4 := by
      rw [List.length_append]
      omega
    have hshown : (digits ++ alpha).take 6 = digits := by
      rw [← hdigits, List.take_left]
    unfold fullDigits
    rw [if_neg hlong, if_neg (by omega), hshown, ← hdigits, List.take_length]

/-- Few digits are shown as the same ones given twice are. -/
theorem fullDigits_double (h : digits.length = 3 ∨ digits.length = 4) :
    fullDigits (digits.flatMap fun d => [d, d]) = fullDigits digits := by
  have hlength : (digits.flatMap fun d => [d, d]).length = digits.length * 2 := by
    simp [List.length_flatMap]
  unfold fullDigits
  rw [hlength, if_neg (by omega), if_pos (by omega)]

/-- **A text is read as a colour just where it is written as one.**  What is read has the digits of
the text in its own written form, which is read as the colour itself.  The digits for transparency
count for nothing, a digit for a channel counts as if given twice, and reading by bytes never meets
an offset that is outside or a channel that does not fit a byte. -/
theorem parse?_isWritten :
    (∀ text, (parse? text).isSome = true ↔ ∃ digits, IsWritten text digits) ∧
    (∀ text digits c, IsWritten text digits →
      (parse? text = some c ↔ c.text.toList = '#' :: (fullDigits digits).map Char.toUpper)) ∧
    (∀ text text' digits alpha, IsWritten text digits → IsWritten text' (digits ++ alpha) →
      digits.length = 3 ∧ alpha.length = 1 ∨ digits.length = 6 ∧ alpha.length = 2 →
        parse? text' = parse? text) ∧
    (∀ text text' digits, IsWritten text digits →
      IsWritten text' (digits.flatMap fun d => [d, d]) → parse? text' = parse? text) ∧
    (∀ c : Color, parse? c.text = some c) ∧
    ∀ text, readBytes text = some (parse? text) := by
  refine ⟨fun text => ?_, fun text digits c h => ?_, fun text text' digits alpha h h' hlength => ?_,
    fun text text' digits h h' => ?_, parse?_text, readBytes_eq⟩
  · rw [Option.isSome_iff_exists]
    constructor
    · rintro ⟨c, hc⟩
      exact exists_isWritten hc
    · rintro ⟨digits, h⟩
      obtain ⟨c, hc, -⟩ := h.exists_parse?
      exact ⟨c, hc⟩
  · obtain ⟨c', hc', htext⟩ := h.exists_parse?
    rw [hc', Option.some_inj, ← htext]
    exact ⟨fun hsame => by rw [hsame], fun hsame => text_injective hsame.symm⟩
  · exact h'.parse?_eq h (fullDigits_append hlength)
  · have hshort : digits.length = 3 ∨ digits.length = 4 := by
      have hdouble : (digits.flatMap fun d => [d, d]).length = digits.length * 2 := by
        simp [List.length_flatMap]
      have hlength := h.length
      have hlength' := h'.length
      unfold HasColorLength at hlength hlength'
      omega
    exact h'.parse?_eq h (fullDigits_double hshort)

/-- One colour in three ways. -/
theorem parse?_isWritten_short :
    IsWritten "#1aF" ['1', 'a', 'F'] ∧ IsWritten " #1aF8\n" (['1', 'a', 'F'] ++ ['8']) ∧
      IsWritten "#11aaFF" (['1', 'a', 'F'].flatMap fun d => [d, d]) ∧
      parse? "#1aF" = some ⟨0x11, 0xAA, 0xFF⟩ ∧ parse? " #1aF8\n" = parse? "#1aF" ∧
      parse? "#11aaFF" = parse? "#1aF" := by
  have hhex : ∀ c ∈ ['1', 'a', 'F', '8'], c ∈ hexDigits := by
    have hall : ['1', 'a', 'F', '8'].all hexDigits.contains = true := by decide
    exact fun c hc => List.contains_iff_mem.1 (List.all_eq_true.1 hall c hc)
  have hshort : IsWritten "#1aF" ['1', 'a', 'F'] :=
    ⟨⟨[], [], by decide, List.forall_mem_nil _, List.forall_mem_nil _⟩, fun c hc =>
      hhex c (List.mem_append_left ['8'] hc), .inl rfl⟩
  have halpha : IsWritten " #1aF8\n" (['1', 'a', 'F'] ++ ['8']) :=
    ⟨⟨[' '], ['\n'], by decide, List.forall_mem_singleton.2 rfl, List.forall_mem_singleton.2 rfl⟩,
      hhex, .inr (.inl rfl)⟩
  have hlong : IsWritten "#11aaFF" (['1', 'a', 'F'].flatMap fun d => [d, d]) := by
    refine ⟨⟨[], [], by decide, List.forall_mem_nil _, List.forall_mem_nil _⟩, fun c hc => ?_,
      .inr (.inr (.inl rfl))⟩
    obtain ⟨d, hd, hc⟩ := List.mem_flatMap.1 hc
    obtain rfl : c = d := by simpa using hc
    exact hshort.hex c hd
  obtain ⟨-, hread, htransparent, hdouble, -⟩ := parse?_isWritten
  refine ⟨hshort, halpha, hlong, ?_, ?_, hdouble _ _ _ hshort hlong⟩
  · exact (hread _ _ ⟨0x11, 0xAA, 0xFF⟩ hshort).2 (by decide)
  · exact htransparent _ _ _ _ hshort halpha (.inl ⟨rfl, rfl⟩)

end Forms

end Highlight.Color
