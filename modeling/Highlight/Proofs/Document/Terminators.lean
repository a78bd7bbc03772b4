import Highlight.Proofs.Document.Edit

/-!
# The break at the end of a line

A line may end with a break (`endBreak`): a carriage return with a line feed, or else one character
that breaks lines.  What stands before it is the line `withoutBreak`.

A line of a text has no other break than that at its end, so its text is the line without its break
(`dropBreak_of_mem_brokenLines`).  A line that comes by itself may have breaks inside.  There a
vertical tab, form feed, next line, line separator or paragraph separator goes as well if it stands
just before a final line feed or carriage return (`hidesBreak`), and nothing else
(`dropBreak_eq`).
-/

namespace Highlight.Document

/-- The break with which a line ends; nothing when it ends with none. -/
def endBreak (line : List Char) : List Char :=
  match line.getLast? with
  | none => []
  | some c =>
    if Joined line.dropLast [c] then ['\r', '\n'] else if isBreak c then [c] else []

/-- The line without the break at its end. -/
def withoutBreak (line : List Char) : List Char := line.take (line.length - (endBreak line).length)

/-- Whether a character breaks a line and is neither a line feed nor a carriage return. -/
def isOtherBreak (c : Char) : Bool := isBreak c && c != '\n' && c != '\r'

/-- Whether just before a final line feed, a final carriage return or both there stands one of the
other breaks. -/
def hidesBreak (line : List Char) : Bool :=
  [['\n'], ['\r'], ['\r', '\n']].contains (endBreak line) &&
    (withoutBreak line).getLast?.any isOtherBreak

/-! ### How a line ends -/

/-- A line ends with no break, with a carriage return and a line feed, or with a single break. -/
@[elab_as_elim]
theorem endCases {motive : List Char → Prop}
    (unbroken : ∀ line, (∀ c ∈ line.getLast?, isBreak c = false) → motive line)
    (crlf : ∀ front, motive (front ++ ['\r', '\n']))
    (single : ∀ front c, isBreak c = true → ¬ Joined front [c] → motive (front ++ [c]))
    (line : List Char) : motive line := by
  obtain rfl | ⟨front, c, rfl⟩ := List.eq_nil_or_concat' line
  · exact unbroken [] (by simp)
  · by_cases hc : isBreak c = true
    · by_cases hjoined : Joined front [c]
      · obtain ⟨hcr, hlf⟩ := hjoined
        obtain rfl : c = '\n' := by simpa using hlf
        obtain ⟨front, rfl⟩ := List.getLast?_eq_some_iff.1 hcr
        rw [List.append_assoc]
        exact crlf front
      · exact single front c hc hjoined
    · exact unbroken (front ++ [c]) (by simpa using hc)

variable {front line : List Char} {c : Char}

theorem endBreak_crlf (front : List Char) : endBreak (front ++ ['\r', '\n']) = ['\r', '\n'] := by
  have hsplit : front ++ ['\r', '\n'] = (front ++ ['\r']) ++ ['\n'] := by simp
  rw [hsplit]
  simp [endBreak, Joined]

theorem endBreak_single (hc : isBreak c = true) (h : ¬ Joined front [c]) :
    endBreak (front ++ [c]) = [c] := by
  simp [endBreak, h, hc]

theorem endBreak_unbroken (h : ∀ c ∈ line.getLast?, isBreak c = false) : endBreak line = [] := by
  unfold endBreak
  cases hlast : line.getLast? with
  | none => rfl
  | some c =>
    have hc : isBreak c = false := h c hlast
    have hjoined : ¬ Joined line.dropLast [c] := by
      rintro ⟨-, hlf⟩
      obtain rfl : c = '\n' := by simpa using hlf
      exact absurd hc (by decide)
    simp [hjoined, hc]

theorem withoutBreak_crlf (front : List Char) : withoutBreak (front ++ ['\r', '\n']) = front := by
  rw [withoutBreak, endBreak_crlf]
  simp

theorem withoutBreak_single (hc : isBreak c = true) (h : ¬ Joined front [c]) :
    withoutBreak (front ++ [c]) = front := by
  rw [withoutBreak, endBreak_single hc h]
  simp

theorem withoutBreak_unbroken (h : ∀ c ∈ line.getLast?, isBreak c = false) :
    withoutBreak line = line := by
  rw [withoutBreak, endBreak_unbroken h]
  simp

theorem withoutBreak_append_endBreak (line : List Char) :
    withoutBreak line ++ endBreak line = line := by
  induction line using endCases with
  | unbroken line h => rw [withoutBreak_unbroken h, endBreak_unbroken h, List.append_nil]
  | crlf front => rw [withoutBreak_crlf, endBreak_crlf]
  | single front c hc h => rw [withoutBreak_single hc h, endBreak_single hc h]

/-! ### What is dropped -/

theorem dropLastIf_concat (p : Char → Bool) (front : List Char) (c : Char) :
    dropLastIf p (front ++ [c]) = if p c then front else front ++ [c] := by
  simp [dropLastIf]

theorem dropLastIf_of_last {p : Char → Bool} (h : ∀ c ∈ line.getLast?, p c = false) :
    dropLastIf p line = line := by
  obtain rfl | ⟨front, c, rfl⟩ := List.eq_nil_or_concat' line
  · rfl
  · have hc : p c = false := by simpa using h
    rw [dropLastIf_concat, hc]
    rfl

theorem dropLastIf_eq (p : Char → Bool) (line : List Char) :
    dropLastIf p line = if line.getLast?.any p then line.dropLast else line := by
  obtain rfl | ⟨front, c, rfl⟩ := List.eq_nil_or_concat' line
  · rfl
  · simp [dropLastIf_concat]

theorem dropBreak_def (line : List Char) : dropBreak line =
    dropLastIf isOtherBreak (dropLastIf (· == '\r') (dropLastIf (· == '\n') line)) := rfl

theorem isBreak_of_isOtherBreak (h : isOtherBreak c = true) : isBreak c = true := by
  simp only [isOtherBreak, Bool.and_eq_true] at h
  exact h.1.1

/-- With a line feed, a carriage return or both goes one of the other breaks before them. -/
theorem dropBreak_of_hiding
    (h : endBreak line = ['\n'] ∨ endBreak line = ['\r'] ∨ endBreak line = ['\r', '\n'])
    (hdrop : dropBreak line = dropLastIf isOtherBreak (withoutBreak line)) : dropBreak line =
      if hidesBreak line then (withoutBreak line).dropLast else withoutBreak line := by
  have hhides : hidesBreak line = (withoutBreak line).getLast?.any isOtherBreak := by
    rw [hidesBreak]
    obtain h | h | h := h <;> rw [h] <;> rfl
  rw [hdrop, dropLastIf_eq, hhides]

/-- What is dropped of a line is its break, and one break more if that is hidden behind it. -/
theorem dropBreak_eq (line : List Char) : dropBreak line =
    if hidesBreak line then (withoutBreak line).dropLast else withoutBreak line := by
  induction line using endCases with
  | unbroken line h =>
    have hkeep {p : Char → Bool} (hp : ∀ c, p c = true → isBreak c = true) :
        dropLastIf p line = line := by
      refine dropLastIf_of_last fun c hc => ?_
      have hunbroken := h c hc
      by_contra hpc
      exact absurd (hp c (by simpa using hpc)) (by simp [hunbroken])
    have hlf : dropLastIf (· == '\n') line = line :=
      hkeep fun c hc => by rw [beq_iff_eq.1 hc]; rfl
    have hcr : dropLastIf (· == '\r') line = line :=
      hkeep fun c hc => by rw [beq_iff_eq.1 hc]; rfl
    have hhides : hidesBreak line = false := by
      rw [hidesBreak, endBreak_unbroken h]
      rfl
    rw [dropBreak_def, hlf, hcr, hkeep fun c => isBreak_of_isOtherBreak, hhides,
      withoutBreak_unbroken h]
    rfl
  | crlf front =>
    refine dropBreak_of_hiding (.inr (.inr (endBreak_crlf front))) ?_
    have hsplit : front ++ ['\r', '\n'] = (front ++ ['\r']) ++ ['\n'] := by simp
    rw [withoutBreak_crlf, dropBreak_def, hsplit, dropLastIf_concat]
    exact congrArg _ (dropLastIf_concat _ _ _)
  | single front c hc h =>
    have hend := endBreak_single hc h
    have hfront := withoutBreak_single hc h
    by_cases hlf : c = '\n'
    · subst hlf
      -- the line would end with both characters if there were a carriage return before
      have hcr : dropLastIf (· == '\r') front = front := by
        refine dropLastIf_of_last fun c hc => ?_
        by_contra hc'
        obtain rfl : c = '\r' := by simpa using hc'
        exact h ⟨hc, rfl⟩
      refine dropBreak_of_hiding (.inl hend) ?_
      rw [hfront, dropBreak_def, dropLastIf_concat]
      exact congrArg _ hcr
    · have hkeep : dropLastIf (· == '\n') (front ++ [c]) = front ++ [c] := by
        rw [dropLastIf_concat, beq_false_of_ne hlf]
        rfl
      by_cases hcr : c = '\r'
      · subst hcr
        refine dropBreak_of_hiding (.inr (.inl hend)) ?_
        rw [hfront, dropBreak_def, hkeep, dropLastIf_concat]
        rfl
      · have hother : isOtherBreak c = true := by simp [isOtherBreak, hc, hlf, hcr]
        have hhides : hidesBreak (front ++ [c]) = false := by
          rw [hidesBreak, hend]
          simp [hlf, hcr]
        rw [hhides, hfront, dropBreak_def, hkeep, dropLastIf_concat, beq_false_of_ne hcr]
        show dropLastIf isOtherBreak (front ++ [c]) = front
        rw [dropLastIf_concat, if_pos hother]

/-- Where a break is hidden there is one to go. -/
theorem dropLast_ne_of_hidesBreak (h : hidesBreak line = true) :
    (withoutBreak line).dropLast ≠ withoutBreak line := by
  have hne : withoutBreak line ≠ [] := by
    intro hnil
    rw [hidesBreak, hnil, Bool.and_eq_true] at h
    exact absurd h.2 (by simp)
  have hpos := List.length_pos_of_ne_nil hne
  intro hsame
  have hlength := congrArg List.length hsame
  rw [List.length_dropLast] at hlength
  omega

/-! ### The lines of a text -/

theorem withoutBreak_cons (hc : isBreak c = false) (line : List Char) :
    withoutBreak (c :: line) = c :: withoutBreak line := by
  induction line using endCases with
  | unbroken line h =>
    have hlast : ∀ d ∈ (c :: line).getLast?, isBreak d = false := by
      cases line with
      | nil => simpa using hc
      | cons d line => rwa [List.getLast?_cons_cons]
    rw [withoutBreak_unbroken h, withoutBreak_unbroken hlast]
  | crlf front => rw [← List.cons_append, withoutBreak_crlf, withoutBreak_crlf]
  | single front d hd h =>
    have hjoined : ¬ Joined (c :: front) [d] := by
      by_cases hnil : front = []
      · rw [hnil, joined_singleton]
        rintro ⟨rfl, -⟩
        exact absurd hc (by decide)
      · rwa [joined_cons_of_ne_nil c hnil]
    rw [← List.cons_append, withoutBreak_single hd hjoined, withoutBreak_single hd h]

/-- A line of a text has no break before that at its end. -/
theorem not_isBreak_of_mem_brokenLines {text : List Char} (h : line ∈ brokenLines text) :
    ∀ c ∈ withoutBreak line, isBreak c = false := by
  induction text using breakInduction generalizing line with
  | nil =>
    obtain rfl := List.mem_singleton.1 h
    exact List.forall_mem_nil _
  | crlf cs ih =>
    rw [brokenLines_crlf] at h
    obtain rfl | h := List.mem_cons.1 h
    · exact List.forall_mem_nil _
    · exact ih h
  | char c cs hc ih =>
    by_cases hbreak : isBreak c = true
    · rw [brokenLines_cons_of_isBreak hc hbreak] at h
      obtain rfl | h := List.mem_cons.1 h
      · rw [← List.nil_append [c], withoutBreak_single hbreak (not_joined_nil [c])]
        exact List.forall_mem_nil _
      · exact ih h
    · have hplain : isBreak c = false := by simpa using hbreak
      obtain ⟨first, lines, hlines⟩ := List.exists_cons_of_ne_nil (brokenLines_ne_nil cs)
      rw [brokenLines_cons_of_not_isBreak cs hplain, hlines] at h
      rw [hlines] at ih
      obtain rfl | h := List.mem_cons.1 h
      · rw [withoutBreak_cons hplain]
        exact List.forall_mem_cons.2 ⟨hplain, ih List.mem_cons_self⟩
      · exact ih (List.mem_cons_of_mem _ h)

theorem dropBreak_of_mem_brokenLines {text : List Char} (h : line ∈ brokenLines text) :
    dropBreak line = withoutBreak line := by
  have hhides : hidesBreak line = false := by
    rw [hidesBreak, Bool.and_eq_false_iff, Option.any_eq_false]
    refine .inr fun c hc => ?_
    have hunbroken := not_isBreak_of_mem_brokenLines h c (List.mem_of_getLast? hc)
    rw [isOtherBreak, hunbroken]
    rfl
  rw [dropBreak_eq, hhides]
  rfl

end Highlight.Document

namespace Highlight.Lines

open Document

theorem text_ofList {stored : List String} {i : Nat} {line : String} (h : stored[i]? = some line) :
    (ofList stored).text i = String.ofList (dropBreak line.toList) := by
  rw [text, Array.getD_eq_getD_getElem?, ofList, List.getElem?_toArray, List.getElem?_map, h]
  rfl

/-- **The text of a line is the line without the break at its end**, except that of a line that
comes by itself a break hidden behind that goes too.  In a text no break is hidden, so just the one
goes and none is left. -/
theorem text_withoutBreak (stored : List String) (text : List Char) (i : Nat) :
    (∀ line : List Char, withoutBreak line ++ endBreak line = line) ∧
    (∀ line, stored[i]? = some line →
      (((ofList stored).text i).toList = withoutBreak line.toList ↔
        hidesBreak line.toList = false) ∧
      (hidesBreak line.toList = true →
        ((ofList stored).text i).toList = (withoutBreak line.toList).dropLast)) ∧
    ∀ line, (brokenLines text)[i]? = some line →
      ((ofText text).text i).toList = withoutBreak line ∧
        ∀ c ∈ withoutBreak line, isBreak c = false := by
  refine ⟨withoutBreak_append_endBreak, ?_, ?_⟩
  · intro line h
    rw [text_ofList h, String.toList_ofList, dropBreak_eq]
    cases hhides : hidesBreak line.toList with
    | false => simp
    | true => simpa using dropLast_ne_of_hidesBreak hhides
  · intro line h
    have hmem := List.mem_of_getElem? h
    have htext : (ofText text).text i = String.ofList (dropBreak line) := by
      rw [text_ofText, lineTexts, List.getElem?_map, h]
      rfl
    rw [htext, String.toList_ofList, dropBreak_of_mem_brokenLines hmem]
    exact ⟨rfl, not_isBreak_of_mem_brokenLines hmem⟩

/-- The same characters as one line that comes by itself, and as the two lines of a text. -/
theorem text_withoutBreak_verticalTab :
    ["a\x0B\r\n"][0]? = some "a\x0B\r\n" ∧ hidesBreak "a\x0B\r\n".toList = true ∧
      ((ofList ["a\x0B\r\n"]).text 0).toList = ['a'] ∧
      (brokenLines "a\x0B\r\n".toList)[0]? = some ['a', '\x0B'] ∧
      ((ofText "a\x0B\r\n".toList).text 0).toList = ['a'] := by
  obtain ⟨-, hstored, htext⟩ := text_withoutBreak ["a\x0B\r\n"] "a\x0B\r\n".toList 0
  have hhides : hidesBreak "a\x0B\r\n".toList = true := by decide
  have hfirst : (brokenLines "a\x0B\r\n".toList)[0]? = some ['a', '\x0B'] := by decide
  refine ⟨rfl, hhides, ?_, hfirst, ?_⟩
  · rw [(hstored "a\x0B\r\n" rfl).2 hhides]
    decide
  · rw [(htext _ hfirst).1]
    decide

/-- A form feed before the line feed at the end of a line goes with it. -/
theorem not_text_withoutBreak_formFeed :
    ¬ ∀ (stored : List String) (i : Nat) (line : String), stored[i]? = some line →
      ((ofList stored).text i).toList = withoutBreak line.toList := by
  intro h
  have hkept := h ["a\x0C\n"] 0 "a\x0C\n" rfl
  have hleft : withoutBreak "a\x0C\n".toList = ['a', '\x0C'] := by decide
  have htext : ((ofList ["a\x0C\n"]).text 0).toList = ['a'] := by decide
  rw [hleft, htext] at hkept
  exact absurd hkept (by decide)

end Highlight.Lines
