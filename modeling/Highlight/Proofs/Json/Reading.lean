import Highlight.Json.Reader
import Highlight.Proofs.Json.Value
import Highlight.Proofs.Steps

/-!
# Reading what was written

A value without real numbers is read back from its text: `Text.ofString_render` says that the text
of a value holds the document of that value (`Json.toDoc`), and nothing after it.  What is proved of
every such value is that its characters are read as the value in front of whatever may follow a
value (`IsRead`), by induction on the value.

* `readString_quoted`: a string in front of other characters, by way of one escaped character
  (`scanString_escapeChar`);
* `readNumber_integerChars`: an integer in front of a character that cannot belong to it (`Ends`);
* `readItems_chars` and `readMembers_chars`: the parts of an array or object, given that each part
  is read.

A real number is kept as it was written, which does not determine its document; hence
`Json.HasNoReal`.
-/

namespace Highlight.Json

/-! ### Strings -/

theorem hexValue?_hexDigit {n : Nat} (h : n < 16) : hexValue? (hexDigit n) = some n := by
  have hall : ∀ n < 16, hexValue? (hexDigit n) = some n := by decide
  exact hall n h

theorem textOf_char {stop : Option Fault} (c : Char) (pieces : List Piece) :
    textOf stop (.char c :: pieces) = (textOf stop pieces).map (c :: ·) := by rw [textOf]

/-- A unit outside the surrogates is a character of its own. -/
theorem textOf_unit {stop : Option Fault} {n : Nat} (h : n < 0xD800) (pieces : List Piece) :
    textOf stop (.unit n :: pieces) = (textOf stop pieces).map (Char.ofNat n :: ·) := by
  have hhigh : isHighSurrogate n = false := by simp [isHighSurrogate]; omega
  have hlow : isLowSurrogate n = false := by simp [isLowSurrogate]; omega
  match pieces with
  | [] | .char _ :: _ | .unit _ :: _ => simp [textOf, hhigh, hlow]

/-- An escaped character is read as one part, which stands for the character. -/
theorem scanString_escapeChar (c : Char) : ∃ piece,
    (∀ cs, scanString (escapeChar c ++ cs) = (piece :: (scanString cs).1, (scanString cs).2)) ∧
    ∀ stop pieces, textOf stop (piece :: pieces) = (textOf stop pieces).map (c :: ·) := by
  unfold escapeChar
  split
  case h_8 hquote hslash _ _ _ _ _ =>
    by_cases hcontrol : c.toNat < 32
    · have hunit : unitOf? '0' '0' (hexDigit (c.toNat / 16)) (hexDigit (c.toNat % 16)) =
          some c.toNat := by
        have hzero : hexValue? '0' = some 0 := rfl
        simp only [unitOf?, hzero, hexValue?_hexDigit (show c.toNat / 16 < 16 by omega),
          hexValue?_hexDigit (show c.toNat % 16 < 16 by omega), Option.bind_eq_bind,
          Option.bind_some, Option.pure_def, Option.some.injEq]
        omega
      refine ⟨.unit c.toNat, fun cs => ?_, fun stop pieces => ?_⟩
      · simp [hcontrol, scanString, hunit]
      · rw [textOf_unit (by omega), Char.ofNat_toNat]
    · refine ⟨.char c, fun cs => ?_, fun _ => textOf_char c⟩
      rw [if_neg hcontrol, List.singleton_append]
      rw [scanString] <;> simp_all
  all_goals
    exact ⟨.char _, fun cs => by simp [scanString, escaped?], fun _ => textOf_char _⟩

theorem readString_quoted (s : String) (rest : List Char) :
    readString (s.toList.flatMap escapeChar ++ '"' :: rest) = (⟨.ok s, none⟩, some rest) := by
  have hscan (cs : List Char) : ∃ pieces,
      scanString (cs.flatMap escapeChar ++ '"' :: rest) = (pieces, .ok rest) ∧
      textOf none pieces = .ok cs := by
    induction cs with
    | nil => exact ⟨[], by simp [scanString], by rw [textOf]⟩
    | cons c cs ih =>
      obtain ⟨pieces, hpieces, htext⟩ := ih
      obtain ⟨piece, hscan, hpiece⟩ := scanString_escapeChar c
      refine ⟨piece :: pieces, ?_, by rw [hpiece, htext]; rfl⟩
      rw [List.flatMap_cons, List.append_assoc, hscan, hpieces]
  obtain ⟨pieces, hpieces, htext⟩ := hscan s.toList
  simp [readString, hpieces, htext, Except.map, Except.toOption]

/-! ### Numbers -/

/-- The characters begin with nothing that can belong to a number: they stand after a value. -/
def Ends (cs : List Char) : Prop := ∀ c ∈ cs.head?, c = ',' ∨ c = ']' ∨ c = '}'

theorem ends_nil : Ends [] := by simp [Ends]

theorem Ends.not_isDigit {cs : List Char} (h : Ends cs) : ∀ c ∈ cs.head?, c.isDigit = false := by
  intro c hc
  obtain rfl | rfl | rfl := h c hc <;> rfl

theorem readDigits_append {digits rest : List Char} (hne : digits ≠ [])
    (hdigits : ∀ c ∈ digits, c.isDigit) (hrest : Ends rest) :
    readDigits (digits ++ rest) = .ok (digits, rest) := by
  have htake : rest.takeWhile Char.isDigit = [] := by
    cases rest with
    | nil => rfl
    | cons c rest => simp [hrest.not_isDigit c rfl]
  have hdrop : rest.dropWhile Char.isDigit = rest := by
    cases rest with
    | nil => rfl
    | cons c rest => simp [hrest.not_isDigit c rfl]
  obtain ⟨c, cs, rfl⟩ := List.exists_cons_of_ne_nil hne
  rw [List.cons_append, readDigits, if_pos (hdigits c List.mem_cons_self), ← List.cons_append,
    List.takeWhile_append_of_pos hdigits, List.dropWhile_append_of_pos hdigits, htake, hdrop,
    List.append_nil]

/-- A positive number is written without a zero in front. -/
theorem head?_toDigits_ne_zero {n : Nat} (h : 0 < n) : (Nat.toDigits 10 n).head? ≠ some '0' := by
  induction n using Nat.strongRecOn with
  | _ n ih =>
    by_cases hn : n < 10
    · simp only [Nat.toDigits_of_lt_base hn, List.head?_cons, ne_eq, Option.some.injEq,
        Nat.digitChar_eq_zero]
      omega
    · rw [Nat.toDigits_of_base_le (by decide) (by omega),
        List.head?_append, Option.or_of_isSome (by simp)]
      exact ih (n / 10) (by omega) (by omega)

theorem toDigits_eq_cons (n : Nat) : ∃ c cs, Nat.toDigits 10 n = c :: cs ∧ c.isDigit := by
  obtain ⟨c, cs, h⟩ := List.exists_cons_of_ne_nil (Nat.toDigits_ne_nil (n := n) (b := 10))
  have hmem : c ∈ Nat.toDigits 10 n := by rw [h]; exact List.mem_cons_self
  exact ⟨c, cs, h, Nat.isDigit_of_mem_toDigits (by decide) (by decide) hmem⟩

theorem decimalValue_toDigits (n : Nat) : decimalValue (Nat.toDigits 10 n) = n := by
  rw [decimalValue, foldl_eq_ofDigitChars, Nat.ofDigitChars_toDigits (by decide) (by decide)]

theorem readWhole_toDigits (n : Nat) {rest : List Char} (hrest : Ends rest) :
    readWhole (Nat.toDigits 10 n ++ rest) = .ok (Nat.toDigits 10 n, rest) := by
  have hread : readDigits (Nat.toDigits 10 n ++ rest) = .ok (Nat.toDigits 10 n, rest) :=
    readDigits_append Nat.toDigits_ne_nil
      (fun c hc => Nat.isDigit_of_mem_toDigits (by decide) (by decide) hc) hrest
  have hzero : (decide ((Nat.toDigits 10 n).length > 1) &&
      (Nat.toDigits 10 n).head? == some '0') = false := by
    obtain rfl | hn := Nat.eq_zero_or_pos n
    · rfl
    · simp [head?_toDigits_ne_zero hn]
  rw [readWhole, hread]
  simp [bind, Except.bind, pure, Except.pure, hzero]

theorem integerChars_eq_cons (n : Int) :
    ∃ c cs, integerChars n = c :: cs ∧ (c = '-' ∨ c.isDigit) := by
  obtain ⟨c, cs, hcs, hdigit⟩ := toDigits_eq_cons n.natAbs
  rw [integerChars]
  split
  · exact ⟨_, _, rfl, .inl rfl⟩
  · exact ⟨c, cs, hcs, .inr hdigit⟩

theorem readNumber_integerChars (n : Int) {rest : List Char} (hrest : Ends rest) :
    readNumber (integerChars n ++ rest) =
      .ok (⟨n < 0, n.natAbs, 0, true, String.ofList (integerChars n)⟩, rest) := by
  have hfraction : readFraction rest = .ok ([], rest) := by
    unfold readFraction
    split
    · simp [Ends] at hrest
    · rfl
  have hexponent : readExponent rest = .ok (none, rest) := by
    unfold readExponent
    split
    · simp [Ends] at hrest
    · simp [Ends] at hrest
    · rfl
  have hwhole := readWhole_toDigits n.natAbs hrest
  have hwritten : (integerChars n ++ rest).take ((integerChars n ++ rest).length - rest.length) =
      integerChars n := by simp
  by_cases hn : n < 0
  · have hchars : integerChars n ++ rest = '-' :: (Nat.toDigits 10 n.natAbs ++ rest) := by
      simp [integerChars, hn]
    rw [hchars] at hwritten ⊢
    rw [readNumber]
    simp only [hwhole, hfraction, hexponent, hwritten, bind, Except.bind, pure, Except.pure,
      List.append_nil, decimalValue_toDigits, hn]
    rfl
  · have hchars : integerChars n = Nat.toDigits 10 n.natAbs := by simp [integerChars, hn]
    rw [hchars] at hwritten ⊢
    rw [readNumber]
    · simp only [hwhole, hfraction, hexponent, hwritten, bind, Except.bind, pure, Except.pure,
        List.append_nil, decimalValue_toDigits, hn]
      rfl
    · intro digits h
      obtain ⟨c, cs, hcs, hdigit⟩ := toDigits_eq_cons n.natAbs
      rw [hcs, List.cons_append, List.cons.injEq] at h
      rw [h.1] at hdigit
      contradiction

/-! ### Whole values -/

theorem skipSpace_cons {c : Char} (h : isSpace c = false) (cs : List Char) :
    skipSpace (c :: cs) = c :: cs := by
  rw [skipSpace, List.dropWhile_cons, if_neg (by simp [h])]

theorem not_isSpace_of_isDigit {c : Char} (h : c.isDigit) : isSpace c = false := by
  cases hspace : isSpace c with
  | false => rfl
  | true =>
    simp only [isSpace, Bool.or_eq_true, beq_iff_eq] at hspace
    obtain ((rfl | rfl) | rfl) | rfl := hspace <;> contradiction

theorem chars_null : null.chars = ['n', 'u', 'l', 'l'] := rfl

theorem chars_true : (bool true).chars = ['t', 'r', 'u', 'e'] := rfl

theorem chars_false : (bool false).chars = ['f', 'a', 'l', 's', 'e'] := rfl

theorem chars_integer (n : Int) : (integer n).chars = integerChars n := rfl

theorem chars_string (s : String) : (string s).chars = quote s := rfl

theorem chars_array_cons (item : Json) (items : List Json) :
    (array (item :: items)).chars = '[' :: (item.chars ++ charsOfItems items) := rfl

theorem chars_object_cons (key : String) (value : Json) (members : List (String × Json)) :
    (object ((key, value) :: members)).chars =
      '{' :: (quote key ++ ':' :: (value.chars ++ charsOfMembers members)) := by
  show '{' :: quote key ++ ':' :: value.chars ++ charsOfMembers members = _
  simp only [List.cons_append, List.append_assoc]

/-- A value begins with a character that is no space and ends no array. -/
theorem chars_eq_cons {j : Json} (hj : j.HasNoReal) :
    ∃ c cs, j.chars = c :: cs ∧ isSpace c = false ∧ c ≠ ']' := by
  match j with
  | null => exact ⟨_, _, chars_null, by decide, by decide⟩
  | bool true => exact ⟨_, _, chars_true, by decide, by decide⟩
  | bool false => exact ⟨_, _, chars_false, by decide, by decide⟩
  | string _ | array [] | array (_ :: _) | object [] | object (_ :: _) =>
    exact ⟨_, _, rfl, by decide, by decide⟩
  | integer n =>
    obtain ⟨c, cs, hcs, rfl | hdigit⟩ := integerChars_eq_cons n
    · exact ⟨_, _, hcs, by decide, by decide⟩
    · exact ⟨c, cs, hcs, not_isSpace_of_isDigit hdigit, by rintro rfl; contradiction⟩
  | real _ => simp [HasNoReal] at hj

/-- In front of what may follow a value, its characters are read as the value. -/
def IsRead (j : Json) : Prop :=
  ∀ fuel rest, j.chars.length ≤ fuel → Ends rest →
    readValue fuel (j.chars ++ rest) = (j.toDoc, some rest)

theorem IsRead.of_succ {j : Json} (hne : j.chars ≠ [])
    (h : ∀ fuel rest, j.chars.length ≤ fuel + 1 → Ends rest →
      readValue (fuel + 1) (j.chars ++ rest) = (j.toDoc, some rest)) : IsRead j
  | 0, _, hfuel, _ => absurd (List.length_eq_zero_iff.1 (Nat.le_zero.1 hfuel)) hne
  | fuel + 1, rest, hfuel, hrest => h fuel rest hfuel hrest

theorem isRead_null : IsRead null :=
  .of_succ (by rw [chars_null]; exact List.cons_ne_nil _ _) fun _ _ _ _ => rfl

theorem isRead_bool (b : Bool) : IsRead (bool b) := by
  cases b with
  | true => exact .of_succ (by rw [chars_true]; exact List.cons_ne_nil _ _) fun _ _ _ _ => rfl
  | false => exact .of_succ (by rw [chars_false]; exact List.cons_ne_nil _ _) fun _ _ _ _ => rfl

theorem quote_append (s : String) (rest : List Char) :
    quote s ++ rest = '"' :: (s.toList.flatMap escapeChar ++ '"' :: rest) := by
  simp [quote]

theorem isRead_string (s : String) : IsRead (string s) := by
  refine .of_succ (List.cons_ne_nil _ _) fun fuel rest _ _ => ?_
  rw [chars_string, quote_append, readValue, skipSpace_cons (by decide)]
  simp only [readString_quoted, toDoc]

theorem readValue_number {fuel : Nat} {c : Char} {cs rest : List Char} {n : Numeral}
    (hc : c = '-' ∨ c.isDigit) (h : readNumber (c :: cs) = .ok (n, rest)) :
    readValue (fuel + 1) (c :: cs) = (.number n, some rest) := by
  have hspace : isSpace c = false := hc.elim (by rintro rfl; rfl) not_isSpace_of_isDigit
  rw [readValue, skipSpace_cons hspace]
  split
  case h_1 heq => exact nomatch heq
  case h_8 heq =>
    obtain ⟨rfl, rfl⟩ := heq
    simp [hc, h]
  -- No number begins like another value.
  all_goals
    rename_i heq
    obtain ⟨rfl, -⟩ := heq
    simp at hc

theorem isRead_integer (n : Int) : IsRead (integer n) := by
  obtain ⟨c, cs, hcs, hc⟩ := integerChars_eq_cons n
  refine .of_succ (by simp [chars_integer, hcs]) fun fuel rest _ hrest => ?_
  have hnumber := readNumber_integerChars n hrest
  rw [hcs, List.cons_append] at hnumber
  rw [chars_integer, hcs, List.cons_append, readValue_number hc hnumber, toDoc, hcs]

theorem ends_charsOfItems (items : List Json) (rest : List Char) :
    Ends (charsOfItems items ++ rest) := by
  cases items <;> simp [charsOfItems, Ends]

theorem ends_charsOfMembers (members : List (String × Json)) (rest : List Char) :
    Ends (charsOfMembers members ++ rest) := by
  cases members <;> simp [charsOfMembers, Ends]

theorem readItems_last {fuel : Nat} {cs rest : List Char} {item : Doc}
    (h : readValue fuel cs = (item, some (']' :: rest))) :
    readItems (fuel + 1) cs = ([item], none, some rest) := by
  rw [readItems, h]
  rfl

theorem readItems_next {fuel : Nat} {c : Char} {cs rest : List Char} {item : Doc}
    (hspace : isSpace c = false) (hc : c ≠ ']')
    (h : readValue fuel cs = (item, some (',' :: c :: rest))) :
    readItems (fuel + 1) cs =
      (item :: (readItems fuel (c :: rest)).1, (readItems fuel (c :: rest)).2) := by
  rw [readItems, h]
  simp only [skipSpace_cons (show isSpace ',' = false by decide), skipSpace_cons hspace]
  split
  · contradiction
  · simp_all
  · rfl

theorem readItems_chars {item : Json} {items : List Json}
    (hread : ∀ j ∈ item :: items, IsRead j) (hreal : ∀ j ∈ item :: items, j.HasNoReal) {fuel : Nat}
    (hfuel : item.chars.length + (charsOfItems items).length ≤ fuel) (rest : List Char) :
    readItems fuel (item.chars ++ (charsOfItems items ++ rest)) =
      (docsOfItems (item :: items), none, some rest) := by
  induction items generalizing item fuel with
  | nil =>
    rw [charsOfItems, List.length_singleton] at hfuel
    obtain ⟨fuel, rfl⟩ : ∃ f, fuel = f + 1 := Nat.exists_eq_add_one.2 (by omega)
    exact readItems_last
      (hread item List.mem_cons_self fuel _ (by omega) (ends_charsOfItems [] rest))
  | cons next items ih =>
    simp only [charsOfItems, List.length_cons, List.length_append] at hfuel
    obtain ⟨fuel, rfl⟩ : ∃ f, fuel = f + 1 := Nat.exists_eq_add_one.2 (by omega)
    have hitem := hread item List.mem_cons_self fuel _ (by omega)
      (ends_charsOfItems (next :: items) rest)
    have hlater : next.chars.length + (charsOfItems items).length ≤ fuel := by omega
    have hnext := ih (fun j hj => hread j (List.mem_cons_of_mem _ hj))
      (fun j hj => hreal j (List.mem_cons_of_mem _ hj)) hlater
    obtain ⟨c, cs, hcs, hspace, hc⟩ := chars_eq_cons (hreal next (by simp))
    simp only [hcs, charsOfItems, List.cons_append, List.append_assoc] at hitem hnext ⊢
    rw [readItems_next hspace hc hitem, hnext]
    rfl

theorem isRead_array {items : List Json} (hread : ∀ j ∈ items, IsRead j)
    (hreal : ∀ j ∈ items, j.HasNoReal) : IsRead (array items) := by
  cases items with
  | nil => exact .of_succ (List.cons_ne_nil _ _) fun _ _ _ _ => rfl
  | cons item items =>
    refine .of_succ (List.cons_ne_nil _ _) fun fuel rest hfuel _ => ?_
    simp only [chars_array_cons, List.length_cons, List.length_append] at hfuel
    have hlater : item.chars.length + (charsOfItems items).length ≤ fuel := by omega
    have hitems := readItems_chars hread hreal hlater rest
    obtain ⟨c, cs, hcs, hspace, hc⟩ := chars_eq_cons (hreal item List.mem_cons_self)
    simp only [hcs, List.cons_append] at hitems
    simp only [chars_array_cons, hcs, List.cons_append, List.append_assoc]
    rw [readValue, skipSpace_cons (by decide)]
    simp only [skipSpace_cons hspace]
    split
    · contradiction
    · simp_all
    · simp [hitems, toDoc]

theorem readMembers_last {fuel : Nat} {key : Quoted} {value : Doc} {cs rest after : List Char}
    (hkey : readString cs = (key, some (':' :: rest)))
    (hvalue : readValue fuel rest = (value, some ('}' :: after))) :
    readMembers (fuel + 1) cs = ([(key, value)], none, some after) := by
  rw [readMembers, hkey]
  simp only [skipSpace_cons (show isSpace ':' = false by decide), hvalue]
  rfl

theorem readMembers_next {fuel : Nat} {key : Quoted} {value : Doc} {cs rest after : List Char}
    (hkey : readString cs = (key, some (':' :: rest)))
    (hvalue : readValue fuel rest = (value, some (',' :: '"' :: after))) :
    readMembers (fuel + 1) cs =
      ((key, value) :: (readMembers fuel after).1, (readMembers fuel after).2) := by
  rw [readMembers, hkey]
  simp only [skipSpace_cons (show isSpace ':' = false by decide), hvalue]
  rfl

theorem readMembers_chars {key : String} {value : Json} {members : List (String × Json)}
    (hread : ∀ m ∈ (key, value) :: members, IsRead m.2) {fuel : Nat}
    (hfuel : value.chars.length + (charsOfMembers members).length ≤ fuel) (rest : List Char) :
    readMembers fuel (key.toList.flatMap escapeChar ++
      '"' :: ':' :: (value.chars ++ (charsOfMembers members ++ rest))) =
      (docsOfMembers ((key, value) :: members), none, some rest) := by
  induction members generalizing key value fuel with
  | nil =>
    rw [charsOfMembers, List.length_singleton] at hfuel
    obtain ⟨fuel, rfl⟩ : ∃ f, fuel = f + 1 := Nat.exists_eq_add_one.2 (by omega)
    have hvalue : IsRead value := hread _ List.mem_cons_self
    exact readMembers_last (readString_quoted key _)
      (hvalue fuel _ (by omega) (ends_charsOfMembers [] rest))
  | cons next members ih =>
    obtain ⟨nextKey, next⟩ := next
    simp only [charsOfMembers, List.length_cons, List.length_append] at hfuel
    obtain ⟨fuel, rfl⟩ : ∃ f, fuel = f + 1 := Nat.exists_eq_add_one.2 (by omega)
    have hvalue : IsRead value := hread _ List.mem_cons_self
    have hfollowed := hvalue fuel _ (by omega)
      (ends_charsOfMembers ((nextKey, next) :: members) rest)
    have hlater : next.chars.length + (charsOfMembers members).length ≤ fuel := by omega
    have hnext := ih (fun m hm => hread m (List.mem_cons_of_mem _ hm)) hlater
    simp only [charsOfMembers, List.cons_append, List.append_assoc, quote_append] at hfollowed ⊢
    rw [readMembers_next (readString_quoted key _) hfollowed, hnext]
    rfl

theorem isRead_object {members : List (String × Json)} (hread : ∀ m ∈ members, IsRead m.2) :
    IsRead (object members) := by
  cases members with
  | nil => exact .of_succ (List.cons_ne_nil _ _) fun _ _ _ _ => rfl
  | cons m members =>
    obtain ⟨key, value⟩ := m
    refine .of_succ (List.cons_ne_nil _ _) fun fuel rest hfuel _ => ?_
    simp only [chars_object_cons, List.length_cons, List.length_append] at hfuel
    have hlater : value.chars.length + (charsOfMembers members).length ≤ fuel := by omega
    have hmembers := readMembers_chars hread hlater rest
    simp only [chars_object_cons, List.cons_append, List.append_assoc, quote_append]
    rw [readValue, skipSpace_cons (by decide)]
    simp only [skipSpace_cons (show isSpace '"' = false by decide), hmembers, toDoc]

theorem isRead_of_hasNoReal {j : Json} (hj : j.HasNoReal) : IsRead j := by
  induction j using Json.induction with
  | null => exact isRead_null
  | bool b => exact isRead_bool b
  | integer n => exact isRead_integer n
  | real written => simp [HasNoReal] at hj
  | string s => exact isRead_string s
  | array items ih =>
    have hitems := hasNoReal_array.1 hj
    exact isRead_array (fun j h => ih j h (hitems j h)) hitems
  | object members ih =>
    exact isRead_object fun m h => ih m h (hasNoReal_object.1 hj m h)

/-- **A text that was written holds the value that was written**, and nothing else. -/
theorem Text.ofString_render {j : Json} (hj : j.HasNoReal) :
    Text.ofString j.render = ⟨j.toDoc, none⟩ := by
  have hread := isRead_of_hasNoReal hj _ [] (Nat.le_succ _) ends_nil
  rw [List.append_nil] at hread
  simp [Text.ofString, render, hread, skipSpace]

end Highlight.Json
