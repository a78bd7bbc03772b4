import Highlight.Grammar.Table
import Highlight.Proofs.Steps
import Highlight.Proofs.Tokenizer.Coverage

/-!
# The scopes of groups

Every byte of a match has the scopes of the groups that hold it, outermost first, as long as no
group begins before one with a smaller number.  Groups are taken by number, and what is covered
stays as it is: a group that lies before an earlier one, which a repeated alternation can lead to,
comes too late, and its bytes do not have its scope (`Tokens.scopesAt?_addCaptures`).

`Tokens.Nesting.scopesAt` says what a byte has when no more groups are opened.  Closing groups does
not change that (`Tokens.Nesting.ClosedBefore`), and opening one changes it just for the bytes of
the group that are not covered yet (`Tokens.Nesting.Ready.scopesAt_addGroup`).  A byte is covered
from the first group on that begins behind it, so what it has in the end are the scopes of the
groups before that (`Match.inTime`).
-/

namespace Highlight

/-! ### Groups and their scopes -/

/-- A span lies inside another. -/
def Span.LiesIn (inner outer : Span) : Prop :=
  outer.start ≤ inner.start ∧ inner.stop ≤ outer.stop

instance (inner outer : Span) : Decidable (inner.LiesIn outer) :=
  inferInstanceAs (Decidable (_ ∧ _))

/-- No byte lies in both of two spans, and one of them lies before the other. -/
def Span.Apart (s t : Span) : Prop := s.stop ≤ t.start ∨ t.stop ≤ s.start

instance (s t : Span) : Decidable (s.Apart t) := inferInstanceAs (Decidable (_ ∨ _))

namespace Match

variable {found : Match}

/-- The span of a group, if it took part and holds any text. -/
def filled? (found : Match) (n : Nat) : Option Span :=
  (found.group? n).filter fun span => !span.isEmpty

/-- Whether a byte lies in a group. -/
def holds (found : Match) (n x : Nat) : Bool :=
  (found.filled? n).any fun span => span.start ≤ x && x < span.stop

/-- Whether a group begins behind a byte. -/
def beginsBehind (found : Match) (n x : Nat) : Bool :=
  (found.filled? n).any fun span => x < span.start

/-- The scopes of the groups in which a byte lies, in the order of the captures. -/
def scopesAt (found : Match) (captures : Captures) (x : Nat) : ScopePath :=
  (captures.filter fun capture => found.holds capture.1 x).map Prod.snd

/-- The captures before the first one whose group begins behind a byte. -/
def inTime (found : Match) (captures : Captures) (x : Nat) : Captures :=
  captures.takeWhile fun capture => !found.beginsBehind capture.1 x

/-- What is known of the groups of a match that hold any text: they lie inside the match, and as
groups are numbered by their beginnings in the pattern, a group lies inside one with a smaller
number, or apart from it. -/
structure Nested (found : Match) (whole : Span) : Prop where
  inside : ∀ n, ∀ span ∈ found.filled? n, span.LiesIn whole
  nested : ∀ n, ∀ m < n, ∀ outer ∈ found.filled? m, ∀ inner ∈ found.filled? n,
    inner.LiesIn outer ∨ inner.Apart outer

/-- No group that holds any text begins before one with a smaller number. -/
def InOrder (found : Match) (captures : Captures) : Prop :=
  captures.Pairwise fun capture later =>
    ∀ span ∈ found.filled? capture.1, ∀ span' ∈ found.filled? later.1, span.start ≤ span'.start

instance (found : Match) (captures : Captures) : Decidable (found.InOrder captures) :=
  inferInstanceAs (Decidable (List.Pairwise _ _))

theorem lt_size_of_filled? {n : Nat} {span : Span} (h : found.filled? n = some span) :
    n < found.groups.size := by
  refine Nat.lt_of_not_le fun hle => ?_
  rw [filled?, group?, Array.getElem?_eq_none hle] at h
  exact absurd h (by simp)

/-- There are only so many groups to look at. -/
instance (found : Match) (whole : Span) : Decidable (found.Nested whole) :=
  decidable_of_iff
    ((∀ n < found.groups.size, ∀ span ∈ found.filled? n, span.LiesIn whole) ∧
      ∀ n < found.groups.size, ∀ m < n, ∀ outer ∈ found.filled? m, ∀ inner ∈ found.filled? n,
        inner.LiesIn outer ∨ inner.Apart outer)
    ⟨fun h => ⟨fun n span hspan => h.1 n (lt_size_of_filled? hspan) span hspan,
      fun n m hm outer houter inner hinner =>
        h.2 n (lt_size_of_filled? hinner) m hm outer houter inner hinner⟩,
    fun h => ⟨fun n _ => h.inside n, fun n _ => h.nested n⟩⟩

theorem start_lt_stop_of_filled? {n : Nat} {span : Span} (h : found.filled? n = some span) :
    span.start < span.stop := by
  have hfilled := (Option.filter_eq_some_iff.1 h).2
  simpa [Span.isEmpty] using hfilled

theorem holds_eq_true {n x : Nat} :
    found.holds n x = true ↔
      ∃ span, found.filled? n = some span ∧ span.start ≤ x ∧ x < span.stop := by
  simp [holds, Option.any_eq_true]

theorem beginsBehind_eq_true {n x : Nat} :
    found.beginsBehind n x = true ↔ ∃ span, found.filled? n = some span ∧ x < span.start := by
  simp [beginsBehind, Option.any_eq_true]

/-- A group that begins behind a byte does not hold it. -/
theorem holds_of_beginsBehind {n x : Nat} (h : found.beginsBehind n x = true) :
    found.holds n x = false := by
  obtain ⟨span, hfilled, hlt⟩ := beginsBehind_eq_true.1 h
  simp [holds, hfilled, Nat.not_le.2 hlt]

theorem scopesAt_cons (capture : Nat × Scope) (captures : Captures) (x : Nat) :
    found.scopesAt (capture :: captures) x =
      if found.holds capture.1 x then capture.2 :: found.scopesAt captures x
      else found.scopesAt captures x := by
  unfold scopesAt
  split
  · rw [List.filter_cons_of_pos ‹_›, List.map_cons]
  · rw [List.filter_cons_of_neg ‹_›]

theorem scopesAt_eq_nil_iff {captures : Captures} {x : Nat} :
    found.scopesAt captures x = [] ↔ ∀ capture ∈ captures, found.holds capture.1 x = false := by
  simp [scopesAt, List.filter_eq_nil_iff]

/-- No group comes too late for a byte that it holds, just when the captures that are in time are
enough. -/
theorem scopesAt_inTime_eq_iff (captures : Captures) (x : Nat) :
    found.scopesAt (found.inTime captures x) x = found.scopesAt captures x ↔
      captures.Pairwise fun capture later =>
        found.beginsBehind capture.1 x = true → found.holds later.1 x = false := by
  induction captures with
  | nil => simp [inTime]
  | cons capture captures ih =>
    rw [inTime, List.takeWhile_cons, List.pairwise_cons, scopesAt_cons]
    cases hbehind : found.beginsBehind capture.1 x with
    | true =>
      -- no group from here on is in time
      simp only [Bool.not_true, Bool.false_eq_true, if_false, holds_of_beginsBehind hbehind,
        forall_const]
      rw [eq_comm, show found.scopesAt [] x = [] from rfl, scopesAt_eq_nil_iff]
      refine ⟨fun h => ⟨h, ?_⟩, And.left⟩
      exact List.pairwise_of_forall_mem_list fun _ _ later hlater _ => h later hlater
    | false =>
      simp only [Bool.not_false, if_true, Bool.false_eq_true, false_implies, implies_true,
        true_and, ← ih, scopesAt_cons]
      split
      · exact List.cons_inj_right _
      · exact Iff.rfl

/-- The captures that are in time are enough for every byte of a match, just when no group begins
before one with a smaller number. -/
theorem Nested.inOrder_iff {whole : Span} (h : found.Nested whole) (captures : Captures) :
    found.InOrder captures ↔ ∀ x, whole.start ≤ x → x < whole.stop →
      found.scopesAt (found.inTime captures x) x = found.scopesAt captures x := by
  simp only [scopesAt_inTime_eq_iff]
  constructor
  · intro hinOrder x _ _
    refine hinOrder.imp fun {capture later} hle hbehind => ?_
    obtain ⟨span, hspan, hlt⟩ := beginsBehind_eq_true.1 hbehind
    refine Bool.eq_false_iff.2 fun hholds => ?_
    obtain ⟨span', hspan', hstart, -⟩ := holds_eq_true.1 hholds
    have hstarts := hle span hspan span' hspan'
    omega
  · intro hall
    refine List.pairwise_iff_forall_sublist.2 fun {capture later} hsublist => ?_
    intro span hspan span' hspan'
    refine Nat.le_of_not_lt fun hlt => ?_
    -- the later group comes too late for its first byte
    have hnonempty := start_lt_stop_of_filled? hspan'
    obtain ⟨hstart, hstop⟩ := h.inside later.1 span' hspan'
    have hpairs := hall span'.start hstart (by omega)
    have hbehind := beginsBehind_eq_true.2 ⟨span, hspan, hlt⟩
    have hholds := holds_eq_true.2 ⟨span', hspan', Nat.le_refl _, hnonempty⟩
    have hnot := List.pairwise_iff_forall_sublist.1 hpairs hsublist hbehind
    exact absurd (hholds.symm.trans hnot) (by simp)

end Match

/-- A table of captures is ordered by the number of the group, and has no group twice. -/
def Captures.Ordered (captures : Captures) : Prop :=
  captures.Pairwise fun capture later => capture.1 < later.1

instance (captures : Captures) : Decidable captures.Ordered :=
  inferInstanceAs (Decidable (List.Pairwise _ _))

namespace Captures

variable {captures : Captures}

theorem mem_put {group : Nat} {scope : Scope} {capture : Nat × Scope}
    (h : capture ∈ captures.put group scope) : capture = (group, scope) ∨ capture ∈ captures := by
  induction captures with
  | nil => exact .inl (List.mem_singleton.1 h)
  | cons head rest ih =>
    rw [put] at h
    split at h
    · exact List.mem_cons.1 h
    · split at h
      · exact (List.mem_cons.1 h).imp_right (List.mem_cons_of_mem _)
      · rcases List.mem_cons.1 h with rfl | h
        · exact .inr List.mem_cons_self
        · exact (ih h).imp_right (List.mem_cons_of_mem _)

theorem Ordered.put (h : captures.Ordered) (group : Nat) (scope : Scope) :
    (captures.put group scope).Ordered := by
  induction captures with
  | nil => exact List.pairwise_singleton _ _
  | cons head rest ih =>
    obtain ⟨hhead, hrest⟩ := List.pairwise_cons.1 h
    rw [Captures.put]
    split
    · rename_i hlt
      refine List.pairwise_cons.2 ⟨fun capture hcapture => ?_, h⟩
      rcases List.mem_cons.1 hcapture with rfl | hcapture
      · exact hlt
      · exact Nat.lt_trans hlt (hhead capture hcapture)
    · split
      · rename_i heq
        obtain rfl : group = head.1 := by simpa using heq
        exact List.pairwise_cons.2 ⟨hhead, hrest⟩
      · rename_i hle hne
        refine List.pairwise_cons.2 ⟨fun capture hcapture => ?_, ih hrest⟩
        rcases mem_put hcapture with rfl | hcapture
        · have hne : group ≠ head.1 := by simpa using hne
          show head.1 < group
          omega
        · exact hhead capture hcapture

/-- The tables that rules are compiled to are ordered. -/
theorem ordered_ofWritten {sources : WrittenCaptures} (h : ofWritten sources = .ok captures) :
    captures.Ordered := by
  have hfold : ∀ (sources : WrittenCaptures) (start : Captures), start.Ordered →
      sources.foldlM addWritten start = .ok captures → captures.Ordered := by
    intro sources
    induction sources with
    | nil =>
      intro start hstart h
      rw [← Except.ok.inj h]
      exact hstart
    | cons source sources ih =>
      intro start hstart h
      rw [List.foldlM_cons] at h
      obtain ⟨next, hadd, h⟩ := bind_eq_ok.1 h
      refine ih next ?_ h
      rw [addWritten] at hadd
      split at hadd
      · split at hadd
        · rw [← Except.ok.inj hadd]
          exact hstart.put _ _
        · exact absurd hadd (by simp)
      · rw [← Except.ok.inj hadd]
        exact hstart
  exact hfold sources [] .nil h

end Captures

namespace Tokens

/-! ### The scope path of a byte -/

/-- The scope path of a byte, if it is covered. -/
def scopesAt? (tokens : Tokens) (x : Nat) : Option ScopePath :=
  (tokens.find? fun token => token.start ≤ x && x < token.stop).map Token.scopes

variable {tokens : Tokens} {x : Nat}

theorem scopesAt?_cons (token : Token) (before : Tokens) (x : Nat) :
    scopesAt? (token :: before) x =
      if token.start ≤ x ∧ x < token.stop then some token.scopes else before.scopesAt? x := by
  unfold scopesAt?
  split
  · rename_i hx
    rw [List.find?_cons_of_pos (by simpa using hx)]
    rfl
  · rename_i hx
    rw [List.find?_cons_of_neg (by simpa only [Bool.and_eq_true, decide_eq_true_eq] using hx)]

theorem Tiled.scopesAt?_of_covered_le (h : tokens.Tiled) (hx : tokens.covered ≤ x) :
    tokens.scopesAt? x = none := by
  induction h with
  | nil => rfl
  | @cons token before hstart hlt _ _ ih =>
    have hstop : token.stop ≤ x := hx
    rw [scopesAt?_cons, if_neg (by omega)]
    exact ih (by omega)

/-- What is covered keeps its scope path, and what is new gets the one that is given. -/
theorem Tiled.scopesAt?_extend (h : tokens.Tiled) (stop : Nat) (scopes : ScopePath) (x : Nat) :
    (tokens.extend stop scopes).scopesAt? x =
      if x < tokens.covered then tokens.scopesAt? x
      else if x < stop then some scopes else none := by
  unfold Tokens.extend
  split
  · -- nothing is new
    split
    · rfl
    · rw [h.scopesAt?_of_covered_le (Nat.le_of_not_lt ‹_›), if_neg (by omega)]
  · rename_i hstop
    cases h with
    | nil => simp [scopesAt?, covered]
    | @cons last before hstart hlt _ htiled =>
      have hnew : last.stop < stop := Nat.lt_of_not_le hstop
      have hbehind (hx : last.stop ≤ x) : before.scopesAt? x = none :=
        htiled.scopesAt?_of_covered_le (by omega)
      show scopesAt? (if last.scopes == scopes then _ else _) x = if x < last.stop then _ else _
      split
      · -- the last token goes on
        rename_i heq
        obtain rfl : last.scopes = scopes := by simpa using heq
        rw [scopesAt?_cons, scopesAt?_cons]
        grind
      · rw [scopesAt?_cons, scopesAt?_cons]
        grind

namespace Nesting

variable {base : ScopePath} {n : Nesting}

/-- The scope path of a byte that is not covered, given the groups that are open: that of the
innermost one that ends behind it. -/
def innermost (base : ScopePath) (x : Nat) : List (Nat × ScopePath) → ScopePath
  | [] => base
  | (stop, scopes) :: outer => if x < stop then scopes else innermost base x outer

/-- The scope path that a byte has, or will have when the groups that are open are closed and no
more are opened. -/
def scopesAt (base : ScopePath) (n : Nesting) (x : Nat) : Option ScopePath :=
  if x < n.tokens.covered then n.tokens.scopesAt? x else some (innermost base x n.opened)

/-- Closing the innermost group changes no scope path. -/
theorem scopesAt_close (h : tokens.Tiled) (stop : Nat) (scopes : ScopePath)
    (outer : List (Nat × ScopePath)) (x : Nat) :
    scopesAt base ⟨tokens.extend stop scopes, outer⟩ x =
      scopesAt base ⟨tokens, (stop, scopes) :: outer⟩ x := by
  simp only [scopesAt, covered_extend, h.scopesAt?_extend, innermost]
  grind

/-- A byte has what it will have once all groups are closed and the rest is covered. -/
theorem scopesAt?_extend_closeAll (h : tokens.Tiled) (opened : List (Nat × ScopePath)) {stop : Nat}
    (hx : x < stop) :
    ((closeAll tokens opened).extend stop base).scopesAt? x = scopesAt base ⟨tokens, opened⟩ x := by
  induction opened generalizing tokens with
  | nil =>
    rw [closeAll, h.scopesAt?_extend, if_pos hx]
    rfl
  | cons group outer ih =>
    rw [closeAll, ih (h.extend group.1 group.2)]
    exact scopesAt_close h group.1 group.2 outer x

/-- What closing the groups that end at or before a place leads to. -/
structure ClosedBefore (base : ScopePath) (start : Nat) (n n' : Nesting) : Prop where
  tiled : n'.tokens.Tiled
  le_covered : n.tokens.covered ≤ n'.tokens.covered
  covered_le : n'.tokens.covered ≤ max n.tokens.covered start
  suffix : n'.opened <:+ n.opened
  start_lt : ∀ group ∈ n'.opened.head?, start < group.1
  scopesAt_eq : ∀ x, n'.scopesAt base x = n.scopesAt base x

theorem closedBefore_closeBefore (base : ScopePath) (start : Nat) (h : tokens.Tiled)
    (opened : List (Nat × ScopePath)) :
    ClosedBefore base start ⟨tokens, opened⟩ (closeBefore start tokens opened) := by
  induction opened generalizing tokens with
  | nil =>
    exact ⟨h, Nat.le_refl _, Nat.le_max_left _ _, List.suffix_rfl, by simp [closeBefore],
      fun _ => rfl⟩
  | cons group outer ih =>
    rw [closeBefore]
    split
    · rename_i hstop
      obtain ⟨htiled, hle, hcovered, hsuffix, hlt, hscopes⟩ := ih (h.extend group.1 group.2)
      simp only [covered_extend] at hle hcovered
      refine ⟨htiled, ?_, ?_, hsuffix.trans (List.suffix_cons _ _), hlt, fun x => ?_⟩
      · exact (Nat.le_max_left _ _).trans hle
      · show _ ≤ max tokens.covered start
        omega
      · exact (hscopes x).trans (scopesAt_close h group.1 group.2 outer x)
    · rename_i hstop
      exact ⟨h, Nat.le_refl _, Nat.le_max_left _ _, List.suffix_rfl, by simpa using hstop,
        fun _ => rfl⟩

/-- Opening a group adds its scope to those of the bytes in it that are not covered, where the group
does not go on behind one that is open, and changes no other scope path. -/
theorem scopesAt_openGroup (h : n.tokens.Tiled) {span : Span} (hspan : span.start < span.stop)
    (hfits : ∀ group ∈ n.opened, group.1 ≤ span.start ∨ span.stop ≤ group.1 ∨
      span.stop ≤ n.tokens.covered) (scope : Scope) (x : Nat) :
    (n.openGroup base span scope).scopesAt base x =
      if n.tokens.covered ≤ x ∧ span.start ≤ x ∧ x < span.stop then
        (n.scopesAt base x).map (· ++ [scope])
      else n.scopesAt base x := by
  obtain ⟨htiled, hle, hcovered, hsuffix, hlt, hscopes⟩ :=
    closedBefore_closeBefore base span.start h n.opened
  rw [← hscopes x, openGroup]
  generalize closeBefore span.start n.tokens n.opened = n' at *
  have hinner : ∀ group ∈ n'.opened, group.1 ≤ span.start ∨ span.stop ≤ group.1 ∨
      span.stop ≤ n.tokens.covered := fun group hgroup => hfits group (hsuffix.subset hgroup)
  simp only at hle hcovered
  simp only [scopesAt, covered_extend, htiled.scopesAt?_extend, innermost, ScopePath.push]
  cases hopened : n'.opened with
  | nil =>
    simp only [innermost]
    grind
  | cons group outer =>
    -- the group that goes round the new one ends behind its beginning, and so behind its end
    rw [hopened] at hlt hinner
    have hgroup := hlt group rfl
    have hfit := hinner group List.mem_cons_self
    simp only [innermost]
    grind

/-! ### One group after another -/

theorem addGroup_eq (base : ScopePath) (found : Match) (n : Nesting) (capture : Nat × Scope) :
    n.addGroup base found capture =
      match found.filled? capture.1 with
      | none => n
      | some span => n.openGroup base span capture.2 := by
  unfold addGroup Match.filled?
  cases found.group? capture.1 with
  | none => rfl
  | some span => cases hempty : span.isEmpty <;> simp [hempty, Option.filter]

/-- What is kept while groups are added: no group that is still to come goes on behind one that is
open, unless it lies in what is covered. -/
structure Ready (found : Match) (captures : Captures) (n : Nesting) : Prop where
  tiled : n.tokens.Tiled
  fits : ∀ group ∈ n.opened, ∀ capture ∈ captures, ∀ span,
    found.filled? capture.1 = some span →
      group.1 ≤ span.start ∨ span.stop ≤ group.1 ∨ span.stop ≤ n.tokens.covered

variable {found : Match} {whole : Span} {capture : Nat × Scope} {captures : Captures}

theorem tiled_openGroup (h : n.tokens.Tiled) (base : ScopePath) (span : Span) (scope : Scope) :
    (n.openGroup base span scope).tokens.Tiled :=
  (closedBefore_closeBefore base span.start h n.opened).tiled.extend span.start _

theorem covered_openGroup (h : n.tokens.Tiled) (base : ScopePath) (span : Span) (scope : Scope) :
    (n.openGroup base span scope).tokens.covered = max n.tokens.covered span.start := by
  obtain ⟨-, hle, hcovered, -, -, -⟩ := closedBefore_closeBefore base span.start h n.opened
  rw [openGroup, covered_extend]
  simp only at hle hcovered
  omega

theorem mem_opened_openGroup (h : n.tokens.Tiled) {span : Span} {scope : Scope}
    {group : Nat × ScopePath} (hgroup : group ∈ (n.openGroup base span scope).opened) :
    group.1 = span.stop ∨ group ∈ n.opened := by
  rcases List.mem_cons.1 hgroup with rfl | hgroup
  · exact .inl rfl
  · exact .inr ((closedBefore_closeBefore base span.start h n.opened).suffix.subset hgroup)

theorem covered_addGroup_le_iff (h : n.tokens.Tiled) (base : ScopePath) (found : Match)
    (capture : Nat × Scope) :
    (n.addGroup base found capture).tokens.covered ≤ x ↔
      n.tokens.covered ≤ x ∧ found.beginsBehind capture.1 x = false := by
  rw [addGroup_eq, Match.beginsBehind]
  cases hfilled : found.filled? capture.1 with
  | none => simp
  | some span =>
    simp only [covered_openGroup h, Option.any_some, decide_eq_false_iff_not]
    omega

/-- Adding a group keeps what is known of those that are still to come. -/
theorem Ready.addGroup (h : Ready found (capture :: captures) n) (hnested : found.Nested whole)
    (hordered : Captures.Ordered (capture :: captures)) (base : ScopePath) :
    Ready found captures (n.addGroup base found capture) := by
  rw [addGroup_eq]
  cases hfilled : found.filled? capture.1 with
  | none =>
    exact ⟨h.tiled, fun group hgroup later hlater =>
      h.fits group hgroup later (List.mem_cons_of_mem _ hlater)⟩
  | some span =>
    refine ⟨tiled_openGroup h.tiled base span capture.2,
      fun group hgroup later hlater inner hinner => ?_⟩
    simp only [covered_openGroup h.tiled]
    rcases mem_opened_openGroup h.tiled hgroup with hstop | hgroup
    · -- the group that has been opened
      have hlt := (List.pairwise_cons.1 hordered).1 later hlater
      have hnested := hnested.nested later.1 capture.1 hlt span hfilled inner hinner
      simp only [Span.LiesIn, Span.Apart] at hnested
      omega
    · have hfits := h.fits group hgroup later (List.mem_cons_of_mem _ hlater) inner hinner
      omega

/-- **A group adds its scope to those of its bytes that are not covered.** -/
theorem Ready.scopesAt_addGroup (h : Ready found (capture :: captures) n) (base : ScopePath)
    (x : Nat) :
    (n.addGroup base found capture).scopesAt base x =
      if n.tokens.covered ≤ x ∧ found.holds capture.1 x then
        (n.scopesAt base x).map (· ++ [capture.2])
      else n.scopesAt base x := by
  rw [addGroup_eq, Match.holds]
  cases hfilled : found.filled? capture.1 with
  | none => simp
  | some span =>
    have hfits (group : Nat × ScopePath) (hgroup : group ∈ n.opened) :=
      h.fits group hgroup capture List.mem_cons_self span hfilled
    rw [scopesAt_openGroup h.tiled (Match.start_lt_stop_of_filled? hfilled) hfits]
    simp

theorem Ready.tiled_foldl (h : Ready found captures n) (hnested : found.Nested whole)
    (hordered : captures.Ordered) (base : ScopePath) :
    (captures.foldl (Nesting.addGroup base found) n).tokens.Tiled := by
  induction captures generalizing n with
  | nil => exact h.tiled
  | cons capture captures ih =>
    exact ih (h.addGroup hnested hordered base) (List.pairwise_cons.1 hordered).2

/-- A byte that is covered keeps what it has. -/
theorem Ready.scopesAt_foldl_of_lt (h : Ready found captures n) (hnested : found.Nested whole)
    (hordered : captures.Ordered) (base : ScopePath) (hx : x < n.tokens.covered) :
    (captures.foldl (Nesting.addGroup base found) n).scopesAt base x = n.scopesAt base x := by
  induction captures generalizing n with
  | nil => rfl
  | cons capture captures ih =>
    have hstays : x < (n.addGroup base found capture).tokens.covered := Nat.lt_of_not_le fun hle =>
      absurd ((covered_addGroup_le_iff h.tiled base found capture).1 hle).1 (Nat.not_le.2 hx)
    rw [List.foldl_cons, ih (h.addGroup hnested hordered base) (List.pairwise_cons.1 hordered).2
      hstays, h.scopesAt_addGroup, if_neg fun hboth => absurd hboth.1 (Nat.not_le.2 hx)]

/-- **A byte that is not covered gets the scopes of the groups that hold it, up to the first group
that begins behind it.** -/
theorem Ready.scopesAt_foldl (h : Ready found captures n) (hnested : found.Nested whole)
    (hordered : captures.Ordered) (base : ScopePath) (hx : n.tokens.covered ≤ x) :
    (captures.foldl (Nesting.addGroup base found) n).scopesAt base x =
      (n.scopesAt base x).map (· ++ found.scopesAt (found.inTime captures x) x) := by
  induction captures generalizing n with
  | nil => simp [Match.inTime, Match.scopesAt]
  | cons capture captures ih =>
    have hready := h.addGroup hnested hordered base
    have hrest := (List.pairwise_cons.1 hordered).2
    have hcovered := covered_addGroup_le_iff (x := x) h.tiled base found capture
    rw [List.foldl_cons, Match.inTime, List.takeWhile_cons]
    cases hbehind : found.beginsBehind capture.1 x with
    | true =>
      -- the byte is covered before the group, which does not hold it
      have hlt : x < (n.addGroup base found capture).tokens.covered := Nat.lt_of_not_le fun hle =>
        absurd (hcovered.1 hle).2 (by simp [hbehind])
      rw [hready.scopesAt_foldl_of_lt hnested hrest base hlt, h.scopesAt_addGroup,
        if_neg (by simp [Match.holds_of_beginsBehind hbehind])]
      simp [Match.scopesAt]
    | false =>
      rw [ih hready hrest (hcovered.2 ⟨hx, hbehind⟩), h.scopesAt_addGroup]
      simp only [hx, true_and, Bool.not_false, if_true, Match.scopesAt_cons, Match.inTime]
      split
      · simp [Option.map_map, Function.comp_def]
      · rfl

end Nesting

variable {found : Match} {whole : Span} {captures : Captures}

/-- **Every byte of a match has the scopes of the groups that hold it, up to the first group that
begins behind it.**  So these are the scopes of all groups that hold it, for every byte of the
match, just when no group that holds any text begins before one with a smaller number. -/
theorem scopesAt?_addCaptures (hnested : found.Nested whole) (hordered : captures.Ordered)
    (htiled : tokens.Tiled) (hcovered : tokens.covered ≤ whole.start) (base : ScopePath) :
    (∀ x, whole.start ≤ x → x < whole.stop →
        ((tokens.addCaptures base captures found).extend whole.stop base).scopesAt? x =
          some (base ++ found.scopesAt (found.inTime captures x) x)) ∧
      ((∀ x, whole.start ≤ x → x < whole.stop →
          ((tokens.addCaptures base captures found).extend whole.stop base).scopesAt? x =
            some (base ++ found.scopesAt captures x)) ↔ found.InOrder captures) := by
  have hready : Nesting.Ready found captures ⟨tokens, []⟩ :=
    ⟨htiled, fun group hgroup => absurd hgroup List.not_mem_nil⟩
  have hbytes (x : Nat) (hstart : whole.start ≤ x) (hstop : x < whole.stop) :
      ((tokens.addCaptures base captures found).extend whole.stop base).scopesAt? x =
        some (base ++ found.scopesAt (found.inTime captures x) x) := by
    have hx : tokens.covered ≤ x := hcovered.trans hstart
    have hnone : Nesting.scopesAt base ⟨tokens, []⟩ x = some base := if_neg (Nat.not_lt.2 hx)
    have hfold := hready.tiled_foldl hnested hordered base
    rw [addCaptures, Nesting.scopesAt?_extend_closeAll hfold _ hstop,
      hready.scopesAt_foldl hnested hordered base hx, hnone]
    rfl
  refine ⟨hbytes, ?_⟩
  rw [hnested.inOrder_iff]
  constructor
  · intro hall x hstart hstop
    have heq := (hbytes x hstart hstop).symm.trans (hall x hstart hstop)
    exact List.append_cancel_left (Option.some.inj heq)
  · intro hall x hstart hstop
    rw [hbytes x hstart hstop, hall x hstart hstop]

/-- Two numbers and the whole, one inside the other: every byte has the scopes of all groups that
hold it. -/
theorem scopesAt?_addCaptures_numbers :
    Match.Nested ⟨#[some ⟨0, 5⟩, some ⟨0, 5⟩, some ⟨0, 2⟩, some ⟨3, 5⟩]⟩ ⟨0, 5⟩ ∧
      ∀ x < 5,
        ((addCaptures [] ["m"] [(1, "r"), (2, "a"), (3, "b")]
            ⟨#[some ⟨0, 5⟩, some ⟨0, 5⟩, some ⟨0, 2⟩, some ⟨3, 5⟩]⟩).extend 5 ["m"]).scopesAt? x =
          some (["m"] ++ Match.scopesAt ⟨#[some ⟨0, 5⟩, some ⟨0, 5⟩, some ⟨0, 2⟩, some ⟨3, 5⟩]⟩
            [(1, "r"), (2, "a"), (3, "b")] x) := by
  have hnested : Match.Nested ⟨#[some ⟨0, 5⟩, some ⟨0, 5⟩, some ⟨0, 2⟩, some ⟨3, 5⟩]⟩ ⟨0, 5⟩ := by
    decide
  have hordered : Captures.Ordered [(1, "r"), (2, "a"), (3, "b")] :=
    Captures.ordered_ofWritten
      (show Captures.ofWritten [("1", some "r"), ("2", some "a"), ("3", some "b")] = _ by
        decide +kernel)
  refine ⟨hnested, fun x hx => ?_⟩
  exact (scopesAt?_addCaptures hnested hordered .nil (Nat.zero_le _) ["m"]).2.2 (by decide) x
    (Nat.zero_le x) hx

end Tokens

/-- A pattern with a choice of two groups that is taken again and again. -/
@[irreducible] def Grammar.letters : Grammar :=
  ((Grammar.compile
    { scopeName := "text"
      patterns := [{
        matchPattern := some "(?:(a)|(b))+"
        name := some "letters"
        captures := [("1", some "first"), ("2", some "second")] }] } []).toOption).getD default

/-- The match of this pattern in `ba`: the second group lies before the first. -/
def Match.letters : Match := ⟨#[some ⟨0, 2⟩, some ⟨1, 2⟩, some ⟨0, 1⟩]⟩

/-- Every group of this match lies in an earlier one or apart from it, but the byte of the second
group does not have its scope: it comes after the first group, which begins behind it. -/
theorem Tokenizer.scope_missing_letters :
    ((Scan.next Grammar.letters (Line.ofString "ba") 0 []).run.run {}).1 =
        .ok (some (.rule 1, Match.letters)) ∧
      Match.letters.Nested ⟨0, 2⟩ ∧ Captures.Ordered [(1, "first"), (2, "second")] ∧
      Tokenizer.tokenizeOnce Grammar.letters "ba" [] =
        .ok ⟨[⟨0, 1, ["text", "letters"]⟩, ⟨1, 2, ["text", "letters", "first"]⟩], []⟩ ∧
      Match.letters.scopesAt [(1, "first"), (2, "second")] 0 = ["second"] ∧
      ¬ ∀ x, 0 ≤ x → x < 2 →
        ((Tokens.addCaptures [] ["text", "letters"] [(1, "first"), (2, "second")]
            Match.letters).extend 2 ["text", "letters"]).scopesAt? x =
          some (["text", "letters"] ++
            Match.letters.scopesAt [(1, "first"), (2, "second")] x) :=
  ⟨by decide +kernel, by decide, by decide, by decide +kernel, by decide,
    fun h => absurd (h 0 (by decide) (by decide)) (by decide)⟩

end Highlight
