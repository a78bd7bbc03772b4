import Highlight.Grammar.Backreference

/-!
# Substituting groups

After the groups have been put into a pattern it refers to no group any more, whatever their texts
are (`isIn_resolve`): an escaped text begins and ends outside an escape, so nothing of it comes
together with a backslash of the pattern.  A pattern without references stays as it is
(`resolve_of_not_isIn`), and one that is cut anywhere but inside an escape is resolved part by part
(`resolve_append`).

A pattern is read from its front: a backslash together with the character after it, and any other
character alone (`escapeInduction`).
-/

namespace Highlight.Backreference

/-! ### One escape at a time -/

/-- What holds of a pattern if it holds of what follows its first escape, or its first character
outside an escape, holds of every pattern.  Only at the end does a backslash stand alone. -/
@[elab_as_elim]
theorem escapeInduction {motive : List Char → Prop} (nil : motive []) (alone : motive ['\\'])
    (escaped : ∀ c cs, motive cs → motive ('\\' :: c :: cs))
    (plain : ∀ c cs, c ≠ '\\' → motive cs → motive (c :: cs)) : ∀ cs, motive cs
  | [] => nil
  | [c] => by
    by_cases h : c = '\\'
    · rw [h]
      exact alone
    · exact plain c [] h nil
  | c :: d :: cs => by
    by_cases h : c = '\\'
    · rw [h]
      exact escaped d cs (escapeInduction nil alone escaped plain cs)
    · exact plain c (d :: cs) h (escapeInduction nil alone escaped plain (d :: cs))

variable {groups : List (Option String)} {c : Char} {cs : List Char}

theorem isIn_escaped : isIn ('\\' :: c :: cs) = ((groupOf? c).isSome || isIn cs) := rfl

theorem isIn_plain (h : c ≠ '\\') : isIn (c :: cs) = isIn cs :=
  isIn.eq_3 c cs fun _ _ hc _ => h hc

theorem resolve_escaped : resolve groups ('\\' :: c :: cs) =
    match groupOf? c with
    | some n => escape ((groups[n]?.join.getD "").toList) ++ resolve groups cs
    | none => '\\' :: c :: resolve groups cs := rfl

theorem resolve_plain (h : c ≠ '\\') : resolve groups (c :: cs) = c :: resolve groups cs :=
  resolve.eq_3 groups c cs fun _ _ hc _ => h hc

/-! ### No reference is left -/

theorem groupOf?_of_mem_specials : ∀ c ∈ specials, groupOf? c = none := by
  simp [specials, groupOf?]

/-- An escaped text holds no reference and forms none with what follows it. -/
theorem isIn_escape_append (text rest : List Char) : isIn (escape text ++ rest) = isIn rest := by
  induction text with
  | nil => rfl
  | cons c text ih =>
    have hsplit : escape (c :: text) ++ rest =
        (if specials.contains c then ['\\', c] else [c]) ++ (escape text ++ rest) := by
      rw [escape, List.flatMap_cons, List.append_assoc]
      rfl
    rw [hsplit]
    by_cases hc : specials.contains c = true
    · rw [if_pos hc]
      show isIn ('\\' :: c :: (escape text ++ rest)) = isIn rest
      rw [isIn_escaped, groupOf?_of_mem_specials c (List.contains_iff_mem.1 hc), ih]
      rfl
    · have hplain : c ≠ '\\' := by
        rintro rfl
        exact hc rfl
      rw [if_neg hc]
      show isIn (c :: (escape text ++ rest)) = isIn rest
      rw [isIn_plain hplain, ih]

theorem isIn_resolve (groups : List (Option String)) (pattern : List Char) :
    isIn (resolve groups pattern) = false := by
  induction pattern using escapeInduction with
  | nil => rfl
  | alone => rfl
  | escaped c cs ih =>
    rw [resolve_escaped]
    cases hgroup : groupOf? c with
    -- the text of the group is over before the rest of the pattern, no escape is open there
    | some n =>
      show isIn (escape _ ++ resolve groups cs) = false
      rw [isIn_escape_append, ih]
    | none =>
      show isIn ('\\' :: c :: resolve groups cs) = false
      rw [isIn_escaped, hgroup, ih]
      rfl
  | plain c cs hc ih => rw [resolve_plain hc, isIn_plain hc, ih]

theorem resolve_of_not_isIn {pattern : List Char} (h : isIn pattern = false) :
    resolve groups pattern = pattern := by
  induction pattern using escapeInduction with
  | nil => rfl
  | alone => rfl
  | escaped c cs ih =>
    rw [isIn_escaped, Bool.or_eq_false_iff] at h
    have hgroup : groupOf? c = none := by simpa using h.1
    rw [resolve_escaped, hgroup]
    show '\\' :: c :: resolve groups cs = '\\' :: c :: cs
    rw [ih h.2]
  | plain c cs hc ih =>
    rw [isIn_plain hc] at h
    rw [resolve_plain hc, ih h]

/-! ### Part by part -/

/-- Whether the last character is a backslash that opens an escape, as a backslash does unless it is
escaped itself. -/
def opensEscape (front : List Char) : Bool :=
  front.foldl (fun opened c => c == '\\' && !opened) false

theorem opensEscape_escaped : opensEscape ('\\' :: c :: cs) = opensEscape cs := by
  simp [opensEscape]

theorem opensEscape_plain (h : c ≠ '\\') : opensEscape (c :: cs) = opensEscape cs := by
  rw [opensEscape, opensEscape, List.foldl_cons, beq_false_of_ne h]
  rfl

/-- A cut that goes through no escape leaves every escape in one of the parts. -/
theorem resolve_append {front back : List Char} (h : opensEscape front = false ∨ back = []) :
    resolve groups (front ++ back) = resolve groups front ++ resolve groups back := by
  induction front using escapeInduction with
  | nil => rfl
  | alone =>
    have hback : back = [] := h.resolve_left (by decide)
    rw [hback]
    rfl
  | escaped c cs ih =>
    rw [opensEscape_escaped] at h
    rw [List.cons_append, List.cons_append, resolve_escaped, resolve_escaped, ih h]
    cases groupOf? c with
    | some n => exact (List.append_assoc _ _ _).symm
    | none => rfl
  | plain c cs hc ih =>
    rw [opensEscape_plain hc] at h
    rw [List.cons_append, resolve_plain hc, resolve_plain hc, ih h, List.cons_append]

/-- **Substitution is complete and makes no new references**, whatever the groups hold: what comes
out refers to no group and stays as it is with any groups; a pattern without references stays as it
is; and the parts of a pattern that is cut outside its escapes are resolved by themselves. -/
theorem resolveText_complete (pattern : String) (groups : List (Option String)) :
    isInText (resolveText pattern groups) = false ∧
    (∀ others, resolveText (resolveText pattern groups) others = resolveText pattern groups) ∧
    (isInText pattern = false → resolveText pattern groups = pattern) ∧
    ∀ front back : String, pattern = front ++ back →
      (opensEscape front.toList = false ∨ back = "") →
        resolveText pattern groups = resolveText front groups ++ resolveText back groups := by
  have hunchanged (text : String) (others : List (Option String)) (h : isInText text = false) :
      resolveText text others = text := by
    rw [resolveText, resolve_of_not_isIn h, String.ofList_toList]
  have hnone : isInText (resolveText pattern groups) = false := by
    rw [isInText, resolveText, String.toList_ofList, isIn_resolve]
  refine ⟨hnone, fun others => hunchanged _ others hnone, hunchanged pattern groups, ?_⟩
  rintro front back rfl hcut
  have hcut' : opensEscape front.toList = false ∨ back.toList = [] :=
    hcut.imp_right fun hback => by rw [hback]; rfl
  rw [resolveText, resolveText, resolveText, String.toList_append, resolve_append hcut',
    String.ofList_append]

/-- The reference stands behind an escaped backslash and before a digit, and its group holds a
backslash and a digit. -/
theorem resolveText_complete_digits :
    let groups := [none, some "\\1"]
    isInText (resolveText "\\\\\\11" groups) = false ∧ isInText "\\\\" = false ∧
      resolveText "\\\\" groups = "\\\\" ∧ "\\\\\\11" = "\\\\" ++ "\\11" ∧
      opensEscape "\\\\".toList = false ∧
      resolveText "\\\\\\11" groups =
        resolveText "\\\\" groups ++ resolveText "\\11" groups := by
  intro groups
  have hfront : isInText "\\\\" = false := by decide
  have hcut : opensEscape "\\\\".toList = false := by decide
  obtain ⟨hnone, -, -, hparts⟩ := resolveText_complete "\\\\\\11" groups
  obtain ⟨-, -, hsame, -⟩ := resolveText_complete "\\\\" groups
  exact ⟨hnone, hfront, hsame hfront, rfl, hcut, hparts _ _ rfl (.inl hcut)⟩

end Highlight.Backreference
