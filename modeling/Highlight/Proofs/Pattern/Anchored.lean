import Highlight.Proofs.Pattern.Ahead

/-!
# Matches begin where they are looked for

The program of a pattern begins by remembering where it is in slot `0`, and the last thing that it
does before it accepts is to remember where it is in slot `1`.  In between no instruction leads out
of the pattern or touches these two slots (`Pattern.Code.Framed`), as long as the groups of the
pattern are numbered from one on.  So a run that accepts answers the position where it began
(`Pattern.Program.slots_of_run`).
-/

namespace Highlight.Pattern

/-- All groups have numbers of their own; zero is the number of the whole match. -/
def Expr.Numbered : Expr → Prop
  | .empty | .set _ | .look _ => True
  | .sequence a b | .either a b => a.Numbered ∧ b.Numbered
  | .repetition _ _ _ body => body.Numbered
  | .group number body => 0 < number ∧ body.Numbered

/-! ### Code -/

/-- An instruction between the first and the last of a pattern: it leads to another of them, or to
the last one, and it leaves the slots of the whole match alone. -/
def Instruction.Inner (size : Nat) : Instruction → Prop
  | .take _ next | .look _ next => 0 < next ∧ next < size
  | .remember slot next => 2 ≤ slot ∧ 0 < next ∧ next < size
  | .fork preferred other => (0 < preferred ∧ preferred < size) ∧ 0 < other ∧ other < size
  | .accept => False
  | .fail => True

theorem Instruction.Inner.mono {size size' : Nat} {x : Instruction} (h : x.Inner size)
    (hle : size ≤ size') : x.Inner size' := by
  cases x with
  | take => exact ⟨h.1, Nat.lt_of_lt_of_le h.2 hle⟩
  | look => exact ⟨h.1, Nat.lt_of_lt_of_le h.2 hle⟩
  | remember => exact ⟨h.1, h.2.1, Nat.lt_of_lt_of_le h.2.2 hle⟩
  | fork =>
    exact ⟨⟨h.1.1, Nat.lt_of_lt_of_le h.1.2 hle⟩, h.2.1, Nat.lt_of_lt_of_le h.2.2 hle⟩
  | accept => exact h.elim
  | fail => trivial

namespace Code

/-- Code for a part of a pattern, behind the end of the whole match: the instruction that accepts,
and the one that remembers where the match ends. -/
structure Framed (code : Code) : Prop where
  accept_eq : code[0]? = some .accept
  close_eq : code[1]? = some (.remember 1 0)
  inner : ∀ i, 2 ≤ i → ∀ x, code[i]? = some x → x.Inner code.size

/-- More code has been written, with an instruction in it to begin with. -/
structure Grows (code : Code) (start : Nat) (code' : Code) : Prop where
  size_le : code.size ≤ code'.size
  start_pos : 0 < start
  start_lt : start < code'.size
  framed : code'.Framed

variable {code code' : Code} {start : Nat}

theorem Framed.two_le_size (h : code.Framed) : 2 ≤ code.size :=
  (Array.getElem?_eq_some_iff.1 h.close_eq).1

theorem Framed.grows (h : code.Framed) {onwards : Nat} (hpos : 0 < onwards)
    (hlt : onwards < code.size) : Grows code onwards code :=
  ⟨Nat.le_refl _, hpos, hlt, h⟩

theorem Grows.trans {code'' : Code} {start' : Nat} (h : Grows code start code')
    (h' : Grows code' start' code'') : Grows code start' code'' :=
  ⟨h.size_le.trans h'.size_le, h'.start_pos, h'.start_lt, h'.framed⟩

/-- An instruction that leads to code that is there can be appended. -/
theorem Framed.emit (h : code.Framed) {x : Instruction} (hx : x.Inner code.size) :
    Grows code (code.emit x).1 (code.emit x).2 := by
  have hsize : (code.push x).size = code.size + 1 := Array.size_push x
  have htwo := h.two_le_size
  show Grows code code.size (code.push x)
  constructor
  case size_le => omega
  case start_pos => omega
  case start_lt => omega
  case framed =>
    have hold (i : Nat) (hi : i < code.size) : (code.push x)[i]? = code[i]? := by
      rw [Array.getElem?_push, if_neg (Nat.ne_of_lt hi)]
    constructor
    case accept_eq =>
      rw [hold 0 (by omega)]
      exact h.accept_eq
    case close_eq =>
      rw [hold 1 (by omega)]
      exact h.close_eq
    case inner =>
      intro i hi y hy
      rw [Array.getElem?_push] at hy
      split at hy
      · obtain rfl := Option.some.inj hy
        exact hx.mono (by omega)
      · exact (h.inner i hi y hy).mono (by omega)

/-- An instruction behind the end of the whole match can be replaced. -/
theorem Framed.set (h : code.Framed) {i : Nat} (hi : 2 ≤ i) {x : Instruction}
    (hx : x.Inner code.size) : Framed (code.setIfInBounds i x) := by
  have hsize : (code.setIfInBounds i x).size = code.size := Array.size_setIfInBounds
  have hold (j : Nat) (hj : i ≠ j) : (code.setIfInBounds i x)[j]? = code[j]? := by
    rw [Array.getElem?_setIfInBounds, if_neg hj]
  constructor
  case accept_eq =>
    rw [hold 0 (by omega)]
    exact h.accept_eq
  case close_eq =>
    rw [hold 1 (by omega)]
    exact h.close_eq
  case inner =>
    intro j hj y hy
    rw [hsize]
    by_cases hij : i = j
    · rw [Array.getElem?_setIfInBounds, if_pos hij] at hy
      split at hy
      · obtain rfl := Option.some.inj hy
        exact hx
      · exact absurd hy (by simp)
    · rw [hold j hij] at hy
      exact h.inner j hj y hy

theorem inner_loop {size again onwards : Nat} (greedy : Bool) (hagain : 0 < again ∧ again < size)
    (honwards : 0 < onwards ∧ onwards < size) : (loop greedy again onwards).Inner size := by
  cases greedy with
  | true => exact ⟨hagain, honwards⟩
  | false => exact ⟨honwards, hagain⟩

/-- A part of a pattern can be written behind any code. -/
def Writes (part : Nat → Code → Nat × Code) : Prop :=
  ∀ (onwards : Nat) (code : Code), code.Framed → 0 < onwards → onwards < code.size →
    Grows code (part onwards code).1 (part onwards code).2

section Parts

variable {part : Nat → Code → Nat × Code} {onwards : Nat}

theorem grows_copies (hpart : Writes part) (n : Nat) (h : code.Framed) (hpos : 0 < onwards)
    (hlt : onwards < code.size) :
    Grows code (copies part n onwards code).1 (copies part n onwards code).2 := by
  induction n generalizing onwards code with
  | zero => exact h.grows hpos hlt
  | succ n ih =>
    have hone := hpart onwards code h hpos hlt
    exact hone.trans (ih hone.framed hone.start_pos hone.start_lt)

theorem grows_optionalCopies (hpart : Writes part) (greedy : Bool) {exit : Nat} (n : Nat)
    (h : code.Framed) (hexit : 0 < exit ∧ exit < code.size) (hpos : 0 < onwards)
    (hlt : onwards < code.size) :
    Grows code (optionalCopies part greedy exit n onwards code).1
      (optionalCopies part greedy exit n onwards code).2 := by
  induction n generalizing onwards code with
  | zero => exact h.grows hpos hlt
  | succ n ih =>
    have hone := hpart onwards code h hpos hlt
    have hexit' := Nat.lt_of_lt_of_le hexit.2 hone.size_le
    have hfork := hone.framed.emit
      (inner_loop greedy ⟨hone.start_pos, hone.start_lt⟩ ⟨hexit.1, hexit'⟩)
    have hmore := ih hfork.framed ⟨hexit.1, Nat.lt_of_lt_of_le hexit' hfork.size_le⟩
      hfork.start_pos hfork.start_lt
    exact (hone.trans hfork).trans hmore

/-- A loop may be entered at the part and at the fork after it. -/
theorem grows_around (hpart : Writes part) (greedy : Bool) (h : code.Framed) (hpos : 0 < onwards)
    (hlt : onwards < code.size) :
    Grows code (around part greedy onwards code).1 (around part greedy onwards code).2.2 ∧
      Grows code (around part greedy onwards code).2.1 (around part greedy onwards code).2.2 := by
  have hfork := h.emit (x := .fail) trivial
  have hbody := hpart _ _ hfork.framed hfork.start_pos hfork.start_lt
  have hle := hfork.size_le.trans hbody.size_le
  have hloop := inner_loop greedy ⟨hbody.start_pos, hbody.start_lt⟩
    ⟨hpos, Nat.lt_of_lt_of_le hlt hle⟩
  have hframed := hbody.framed.set h.two_le_size hloop
  have hsize : (around part greedy onwards code).2.2.size =
      (part code.size (code.push .fail)).2.size := Array.size_setIfInBounds
  constructor
  · exact ⟨hle.trans_eq hsize.symm, hbody.start_pos, Nat.lt_of_lt_of_eq hbody.start_lt hsize.symm,
      hframed⟩
  · refine ⟨hle.trans_eq hsize.symm, hfork.start_pos, ?_, hframed⟩
    exact Nat.lt_of_lt_of_eq (Nat.lt_of_lt_of_le hfork.start_lt hbody.size_le) hsize.symm

end Parts

/-- **The code of an expression leads nowhere else and leaves the slots of the whole match
alone.** -/
theorem writes_ofExpr {e : Expr} (he : e.Numbered) : Writes fun onwards code =>
    ofExpr e onwards code := by
  induction e with
  | empty => exact fun onwards code h hpos hlt => h.grows hpos hlt
  | set s => exact fun onwards code h hpos hlt => h.emit ⟨hpos, hlt⟩
  | look l => exact fun onwards code h hpos hlt => h.emit ⟨hpos, hlt⟩
  | sequence a b iha ihb =>
    intro onwards code h hpos hlt
    have hsecond := ihb he.2 onwards code h hpos hlt
    exact hsecond.trans (iha he.1 _ _ hsecond.framed hsecond.start_pos hsecond.start_lt)
  | either a b iha ihb =>
    intro onwards code h hpos hlt
    have hfirst := iha he.1 onwards code h hpos hlt
    have hsecond := ihb he.2 onwards _ hfirst.framed hpos (Nat.lt_of_lt_of_le hlt hfirst.size_le)
    refine (hfirst.trans hsecond).trans (hsecond.framed.emit ?_)
    exact ⟨⟨hfirst.start_pos, Nat.lt_of_lt_of_le hfirst.start_lt hsecond.size_le⟩,
      hsecond.start_pos, hsecond.start_lt⟩
  | group number body ih =>
    intro onwards code h hpos hlt
    have hnumber : 0 < number := he.1
    have hclose := h.emit (x := .remember (2 * number + 1) onwards) ⟨by omega, hpos, hlt⟩
    have hbody := ih he.2 _ _ hclose.framed hclose.start_pos hclose.start_lt
    refine (hclose.trans hbody).trans (hbody.framed.emit ?_)
    exact ⟨by omega, hbody.start_pos, hbody.start_lt⟩
  | repetition min max greedy body ih =>
    intro onwards code h hpos hlt
    have hpart : Writes fun onwards code => ofExpr body onwards code := ih he
    cases max with
    | some max =>
      -- the copies that may be passed over come behind those that may not
      have hoptional := grows_optionalCopies hpart greedy (max - min) h ⟨hpos, hlt⟩ hpos hlt
      exact hoptional.trans
        (grows_copies hpart min hoptional.framed hoptional.start_pos hoptional.start_lt)
    | none =>
      obtain ⟨hbody, hfork⟩ := grows_around hpart greedy h hpos hlt
      cases min with
      | zero =>
        by_cases hempty : body.canBeEmpty = true
        · have hentry := hbody.framed.emit (inner_loop greedy ⟨hbody.start_pos, hbody.start_lt⟩
            ⟨hpos, Nat.lt_of_lt_of_le hlt hbody.size_le⟩)
          simp only [ofExpr, if_pos hempty]
          exact hbody.trans hentry
        · simp only [ofExpr, if_neg hempty]
          exact hfork
      | succ min =>
        exact hbody.trans
          (grows_copies hpart min hbody.framed hbody.start_pos hbody.start_lt)

end Code

/-! ### Runs -/

/-- A thread is at the first instruction, in the place where the run began, or it is behind it, and
has noted that place; and it has noted another one before it accepts. -/
structure Thread.Anchored (entry origin : Nat) (t : Thread) : Prop where
  two_le_slots : 2 ≤ t.slots.size
  here_or_noted : (t.instruction = entry ∧ t.position = origin) ∨
    (t.instruction < entry ∧ t.slots[0]? = some (some origin) ∧
      (t.instruction = 0 → ∃ stop, t.slots[1]? = some (some stop)))

namespace Thread.Anchored

variable {entry origin : Nat} {t : Thread}

/-- A thread that goes on to an inner instruction keeps what it has noted. -/
theorem goOn (h : t.Anchored entry origin) (hlt : t.instruction < entry) {next position : Nat}
    (hpos : 0 < next) (hnext : next < entry) :
    (Thread.mk next position t.slots).Anchored entry origin := by
  obtain ⟨hsize, hhere | ⟨-, hstart, -⟩⟩ := h
  · exact absurd hhere.1 (Nat.ne_of_lt hlt)
  · exact ⟨hsize, .inr ⟨hnext, hstart, fun hzero => absurd hzero (Nat.ne_of_gt hpos)⟩⟩

/-- Slots of groups are not those of the whole match. -/
theorem remember (h : t.Anchored entry origin) (hlt : t.instruction < entry)
    {slot next position : Nat} (hslot : 2 ≤ slot) (hpos : 0 < next) (hnext : next < entry) :
    (Thread.mk next position (t.slots.setIfInBounds slot (some position))).Anchored
      entry origin := by
  obtain ⟨hsize, hhere | ⟨-, hstart, -⟩⟩ := h
  · exact absurd hhere.1 (Nat.ne_of_lt hlt)
  · refine ⟨by rwa [Array.size_setIfInBounds], .inr ⟨hnext, ?_, fun hzero => ?_⟩⟩
    · rw [Array.getElem?_setIfInBounds, if_neg (by omega)]
      exact hstart
    · exact absurd hzero (Nat.ne_of_gt hpos)

/-- At the first instruction it is noted where the run began. -/
theorem enter (h : t.Anchored entry origin) (hhere : t.instruction = entry ∧ t.position = origin)
    {next : Nat} (hpos : 0 < next) (hnext : next < entry) :
    (Thread.mk next t.position (t.slots.setIfInBounds 0 (some t.position))).Anchored
      entry origin := by
  have hsize := h.two_le_slots
  refine ⟨by rwa [Array.size_setIfInBounds], .inr ⟨hnext, ?_, fun hzero => ?_⟩⟩
  · rw [Array.getElem?_setIfInBounds, if_pos rfl, if_pos (by omega), hhere.2]
  · exact absurd hzero (Nat.ne_of_gt hpos)

/-- Before the end it is noted where the match ends. -/
theorem close (h : t.Anchored entry origin) (hlt : t.instruction < entry) :
    (Thread.mk 0 t.position (t.slots.setIfInBounds 1 (some t.position))).Anchored
      entry origin := by
  obtain ⟨hsize, hhere | ⟨-, hstart, -⟩⟩ := h
  · exact absurd hhere.1 (Nat.ne_of_lt hlt)
  · have hpos : 0 < entry := Nat.zero_lt_of_lt hlt
    refine ⟨by rwa [Array.size_setIfInBounds], .inr ⟨hpos, ?_, fun _ => ⟨t.position, ?_⟩⟩⟩
    · rw [Array.getElem?_setIfInBounds, if_neg (by omega)]
      exact hstart
    · rw [Array.getElem?_setIfInBounds, if_pos rfl, if_pos (by omega)]

end Thread.Anchored

namespace Program

variable {code inner : Code} {body : Nat}

/-- **A run that accepts has noted where it began and where it ended.** -/
theorem slots_of_runThreads (hcode : code = inner.push (.remember 0 body)) (hinner : inner.Framed)
    (hbody : 0 < body ∧ body < inner.size) {text : Array Char} {origin fuel : Nat}
    {threads : List Thread} {marks : Marks} {slots : Array (Option Nat)}
    (hthreads : ∀ t ∈ threads, t.Anchored inner.size origin)
    (h : runThreads code text origin fuel threads marks = some slots) :
    slots[0]? = some (some origin) ∧ ∃ stop, slots[1]? = some (some stop) := by
  induction fuel generalizing threads marks with
  | zero => exact absurd h (by simp [runThreads])
  | succ fuel ih =>
    cases threads with
    | nil => exact absurd h (by simp [runThreads])
    | cons t others =>
      obtain ⟨ht, hothers⟩ := List.forall_mem_cons.1 hthreads
      have hcons {t' : Thread} (ht' : t'.Anchored inner.size origin) :
          ∀ u ∈ t' :: others, u.Anchored inner.size origin :=
        List.forall_mem_cons.2 ⟨ht', hothers⟩
      rcases ht.here_or_noted with ⟨hentry, hposition⟩ | ⟨hlt, hstart, hstop⟩
      · -- the first instruction notes where the run began
        have hfirst : code[t.instruction]? = some (.remember 0 body) := by
          rw [hentry, hcode, Array.getElem?_push, if_pos rfl]
        rw [runThreads, hfirst] at h
        exact ih (hcons (ht.enter ⟨hentry, hposition⟩ hbody.1 hbody.2)) h
      · have hlookup : code[t.instruction]? = inner[t.instruction]? := by
          rw [hcode, Array.getElem?_push, if_neg (Nat.ne_of_lt hlt)]
        have hinstruction : inner[t.instruction]? = some inner[t.instruction] :=
          Array.getElem?_eq_getElem hlt
        rw [runThreads, hlookup] at h
        -- the instruction that accepts, the one before it, or one of the pattern
        rcases Nat.lt_or_ge t.instruction 2 with hless | hge
        · rcases Nat.lt_or_ge t.instruction 1 with hzero | hone
          · obtain hzero : t.instruction = 0 := by omega
            rw [hzero, hinner.accept_eq] at h
            obtain rfl := Option.some.inj h
            exact ⟨hstart, hstop hzero⟩
          · obtain hone : t.instruction = 1 := by omega
            rw [hone, hinner.close_eq] at h
            exact ih (hcons (ht.close hlt)) h
        · have hx := hinner.inner t.instruction hge _ hinstruction
          rw [hinstruction] at h
          cases hcase : inner[t.instruction] with
          | accept =>
            rw [hcase] at hx
            exact hx.elim
          | fail =>
            rw [hcase] at h
            exact ih hothers h
          | take members next =>
            rw [hcase] at h hx
            simp only at h
            split at h
            · exact ih hothers h
            · split at h
              · exact ih (hcons (ht.goOn hlt hx.1 hx.2)) h
              · exact ih hothers h
          | look l next =>
            rw [hcase] at h hx
            simp only at h
            split at h
            · exact ih (hcons (ht.goOn hlt hx.1 hx.2)) h
            · exact ih hothers h
          | remember slot next =>
            rw [hcase] at h hx
            exact ih (hcons (ht.remember hlt hx.1 hx.2.1 hx.2.2)) h
          | fork preferred other =>
            rw [hcase] at h hx
            simp only at h
            split at h
            · exact ih hothers h
            · refine ih (List.forall_mem_cons.2 ⟨?_, hcons ?_⟩) h
              · exact ht.goOn hlt hx.1.1 hx.1.2
              · exact ht.goOn hlt hx.2.1 hx.2.2

/-- The program of an expression answers where a match begins and where it ends, and the former is
where the run began. -/
theorem slots_of_run {e : Expr} (he : e.Numbered) (groups : Nat) {text : Array Char} {start : Nat}
    {slots : Array (Option Nat)} (h : (ofExpr e groups).run text start = some slots) :
    ∃ stop, start ≤ stop ∧ slots[0]? = some (some start) ∧ slots[1]? = some (some stop) := by
  have hframe : Code.Framed #[.accept, .remember 1 0] := by
    refine ⟨rfl, rfl, fun i hi x hx => ?_⟩
    rw [Array.getElem?_eq_none (by simpa using hi)] at hx
    exact absurd hx (by simp)
  have hgrows := Code.writes_ofExpr he 1 #[.accept, .remember 1 0] hframe Nat.one_pos (by decide)
  have hslots : (ofExpr e groups).slots = 2 * (groups + 1) := rfl
  -- the run begins at the first instruction, with nothing noted
  have hthread : Thread.Anchored (ofExpr e groups).start start
      ⟨(ofExpr e groups).start, start, Array.replicate (ofExpr e groups).slots none⟩ := by
    refine ⟨?_, .inl ⟨rfl, rfl⟩⟩
    rw [Array.size_replicate, hslots]
    omega
  obtain ⟨hstart, stop, hstop⟩ := slots_of_runThreads rfl hgrows.framed
    ⟨hgrows.start_pos, hgrows.start_lt⟩ (List.forall_mem_singleton.2 hthread) h
  refine ⟨stop, ?_, hstart, hstop⟩
  refine le_of_run h (k := 1) ?_
  rw [Array.getD_eq_getD_getElem?, hstop]
  rfl

end Program

end Highlight.Pattern
