import Highlight.Proofs.Pattern.Anchored
import Highlight.Proofs.Steps

/-!
# Groups are numbered from one on

A reader of patterns numbers groups by counting them, so no group has the number zero
(`Pattern.Node.numbered_of_ofText`), and the meaning of a pattern has the groups of the pattern
(`Pattern.Expr.numbered_ofNode`).  So the matcher of every text begins its matches where it looks
for them (`Matcher.Anchored`, `Matcher.anchored_of_ofText`).
-/

namespace Highlight.Pattern

/-! ### Written patterns -/

mutual

/-- All groups that capture have numbers of their own. -/
def Node.Numbered : Node → Prop
  | .repetition _ _ _ node => node.Numbered
  | .group number _ node => (∀ n, number = some n → 0 < n) ∧ node.Numbered
  | .alternatives nodes => Node.AllNumbered nodes
  | .sequence nodes => Node.AllNumbered nodes
  | _ => True

/-- All groups in a list have numbers of their own. -/
def Node.AllNumbered : List Node → Prop
  | [] => True
  | node :: nodes => node.Numbered ∧ Node.AllNumbered nodes

end

theorem Node.allNumbered_iff {nodes : List Node} :
    Node.AllNumbered nodes ↔ ∀ node ∈ nodes, node.Numbered := by
  induction nodes with
  | nil => simp [Node.AllNumbered]
  | cons node nodes ih => rw [Node.AllNumbered, ih, List.forall_mem_cons]

theorem Node.numbered_ofSequence {nodes : List Node} (h : ∀ node ∈ nodes, node.Numbered) :
    (Node.ofSequence nodes).Numbered := by
  match nodes with
  | [] => trivial
  | [node] => exact h node List.mem_cons_self
  | _ :: _ :: _ => exact Node.allNumbered_iff.2 h

theorem Node.numbered_ofAlternatives {nodes : List Node} (h : ∀ node ∈ nodes, node.Numbered) :
    (Node.ofAlternatives nodes).Numbered := by
  match nodes with
  | [] => trivial
  | [node] => exact h node List.mem_cons_self
  | _ :: _ :: _ => exact Node.allNumbered_iff.2 h

/-! ### The meaning of a pattern -/

namespace Expr

theorem numbered_repeated {body : Expr} (h : body.Numbered) (min : Nat) (max : Option Nat)
    (greedy : Bool) : (repeated min max greedy body).Numbered := by
  have hbounds (bounds : Nat × Option Nat) : (if bounds.2 == some 0 then empty
      else if bounds.1 == 1 && bounds.2 == some 1 then body
      else repetition bounds.1 bounds.2 greedy body).Numbered := by
    split
    · trivial
    · split <;> exact h
  exact hbounds _

/-- A set alone has no groups. -/
theorem numbered_of_map_set {x : Except PatternError CharSet} {f : Flags} {r : Expr × Flags}
    (h : (x >>= fun s => pure (set s, f)) = .ok r) : r.1.Numbered := by
  obtain ⟨s, -, hr⟩ := bind_eq_ok.1 h
  obtain rfl := Except.ok.inj hr
  trivial

mutual

/-- The meaning of a pattern has the groups of the pattern. -/
theorem numbered_ofNode (f : Flags) (node : Node) (hnode : node.Numbered) (r : Expr × Flags)
    (h : ofNode f node = .ok r) : r.1.Numbered := by
  match node with
  | .empty | .flags _ | .assertion _ =>
    rw [ofNode] at h
    obtain rfl := Except.ok.inj h
    trivial
  | .literal l =>
    rw [ofNode] at h
    obtain ⟨c, -, hr⟩ := bind_eq_ok.1 h
    obtain rfl := Except.ok.inj hr
    trivial
  | .dot | .property _ _ | .letter _ _ =>
    rw [ofNode] at h
    exact numbered_of_map_set h
  | .bracketed negated item =>
    rw [ofNode] at h
    obtain ⟨s, -, h⟩ := bind_eq_ok.1 h
    exact numbered_of_map_set h
  | .repetition min max greedy body =>
    rw [ofNode] at h
    obtain ⟨⟨e, f'⟩, hbody, hr⟩ := bind_eq_ok.1 h
    obtain rfl := Except.ok.inj hr
    exact numbered_repeated (numbered_ofNode f body hnode _ hbody) min max _
  | .group number changes body =>
    rw [ofNode] at h
    obtain ⟨⟨e, f'⟩, hbody, hr⟩ := bind_eq_ok.1 h
    have he := numbered_ofNode (f.apply changes) body hnode.2 _ hbody
    cases number with
    | none =>
      obtain rfl := Except.ok.inj hr
      exact he
    | some n =>
      obtain rfl := Except.ok.inj hr
      exact ⟨hnode.1 n rfl, he⟩
  | .alternatives nodes =>
    rw [ofNode] at h
    exact numbered_ofAlternatives f nodes hnode r h
  | .sequence nodes =>
    rw [ofNode] at h
    exact numbered_ofSequence f nodes hnode r h

theorem numbered_ofSequence (f : Flags) (nodes : List Node) (hnodes : Node.AllNumbered nodes)
    (r : Expr × Flags) (h : ofSequence f nodes = .ok r) : r.1.Numbered := by
  match nodes with
  | [] =>
    rw [ofSequence] at h
    obtain rfl := Except.ok.inj h
    trivial
  | [node] =>
    rw [ofSequence] at h
    exact numbered_ofNode f node hnodes.1 r h
  | node :: next :: nodes =>
    rw [ofSequence] at h
    · obtain ⟨⟨first, f'⟩, hfirst, h⟩ := bind_eq_ok.1 h
      obtain ⟨⟨second, f''⟩, hsecond, hr⟩ := bind_eq_ok.1 h
      obtain rfl := Except.ok.inj hr
      exact ⟨numbered_ofNode f node hnodes.1 _ hfirst,
        numbered_ofSequence f' (next :: nodes) hnodes.2 _ hsecond⟩
    · simp

theorem numbered_ofAlternatives (f : Flags) (nodes : List Node) (hnodes : Node.AllNumbered nodes)
    (r : Expr × Flags) (h : ofAlternatives f nodes = .ok r) : r.1.Numbered := by
  match nodes with
  | [] =>
    rw [ofAlternatives] at h
    obtain rfl := Except.ok.inj h
    trivial
  | [node] =>
    rw [ofAlternatives] at h
    exact numbered_ofNode f node hnodes.1 r h
  | node :: next :: nodes =>
    rw [ofAlternatives] at h
    · obtain ⟨⟨first, f'⟩, hfirst, h⟩ := bind_eq_ok.1 h
      obtain ⟨⟨second, f''⟩, hsecond, hr⟩ := bind_eq_ok.1 h
      obtain rfl := Except.ok.inj hr
      exact ⟨numbered_ofNode f node hnodes.1 _ hfirst,
        numbered_ofAlternatives f' (next :: nodes) hnodes.2 _ hsecond⟩
    · simp

end

end Expr

/-! ### Reading -/

namespace Reader

variable {α β : Type} {P : α → Prop} {Q : β → Prop}

/-- Everything that is read satisfies a predicate, whatever the input is. -/
def Ensures (m : Reader α) (P : α → Prop) : Prop :=
  ∀ input a input', m.run input = .ok (a, input') → P a

theorem ensures_pure {a : α} (h : P a) : Ensures (pure a) P := by
  intro input b input' hrun
  obtain ⟨rfl, -⟩ := Prod.mk.inj (Except.ok.inj hrun)
  exact h

theorem ensures_throw (e : PatternError) : Ensures (throw e : Reader α) P :=
  fun _ _ _ hrun => nomatch hrun

theorem ensures_trivial (m : Reader α) : Ensures m fun _ => True := fun _ _ _ _ => trivial

theorem ensures_bind {m : Reader α} {f : α → Reader β} (hm : Ensures m P)
    (hf : ∀ a, P a → Ensures (f a) Q) : Ensures (m >>= f) Q := by
  intro input b input' hrun
  rw [StateT.run_bind] at hrun
  obtain ⟨⟨a, middle⟩, hfirst, hsecond⟩ := bind_eq_ok.1 hrun
  exact hf a (hm _ _ _ hfirst) _ _ _ hsecond

/-- A step for which it does not matter what is read. -/
theorem ensures_of_bind {m : Reader α} {f : α → Reader β} (hf : ∀ a, Ensures (f a) Q) :
    Ensures (m >>= f) Q :=
  ensures_bind (ensures_trivial m) fun a _ => hf a

/-- Groups are counted from one on. -/
theorem ensures_nextGroup : Ensures nextGroup fun n => 0 < n := by
  intro input n input' hrun
  obtain ⟨rfl, -⟩ := Prod.mk.inj (Except.ok.inj hrun)
  exact Nat.succ_pos _

/-- What a parenthesis opens has no number, or one of its own. -/
def Opening.Numbered : Opening → Prop
  | .flags _ => True
  | .group number _ => ∀ n, number = some n → 0 < n

theorem ensures_groupOpening : Ensures groupOpening Opening.Numbered := by
  have hcounted (n : Nat) (hn : 0 < n) (changes : FlagChanges) :
      (Opening.group (some n) changes).Numbered := by
    intro k hk
    exact Option.some.inj hk ▸ hn
  -- a name may be read behind the number
  have hnamed : Ensures (do
      let number ← nextGroup
      let _ ← groupName
      return .group (some number) []) Opening.Numbered :=
    ensures_bind ensures_nextGroup fun n hn => ensures_of_bind fun _ =>
      ensures_pure (hcounted n hn [])
  unfold groupOpening
  refine ensures_of_bind fun _ => ensures_of_bind fun _ => ensures_of_bind fun rest => ?_
  split
  · exact ensures_throw _
  · exact ensures_throw _
  · exact ensures_throw _
  · exact ensures_throw _
  · exact ensures_of_bind fun _ => hnamed
  · exact ensures_of_bind fun _ => hnamed
  · -- flags, and maybe a group that does not capture
    refine ensures_of_bind fun _ => ensures_of_bind fun changes => ensures_of_bind fun ending =>
      ensures_of_bind fun _ => ?_
    have hnone : (Opening.group none changes).Numbered := fun n hn => nomatch hn
    split
    · split
      · exact ensures_of_bind fun _ => ensures_pure trivial
      · exact ensures_pure trivial
    · exact ensures_pure hnone
  · exact ensures_bind ensures_nextGroup fun n hn => ensures_pure (hcounted n hn [])

/-- What is repeated is one of the nodes read so far. -/
theorem ensures_repeated {nodes : List Node} (h : ∀ node ∈ nodes, node.Numbered) :
    Ensures (repeated nodes) fun r => r.1.Numbered ∧ ∀ node ∈ r.2, node.Numbered := by
  unfold repeated
  split
  · exact ensures_throw _
  · exact ensures_throw _
  · exact ensures_throw _
  · exact ensures_pure (List.forall_mem_cons.1 h)

theorem numbered_toNode (p : Primitive) : p.toNode.Numbered := by
  cases p <;> trivial

theorem ensures_bracketedClass : Ensures bracketedClass Node.Numbered := by
  unfold bracketedClass
  refine ensures_of_bind fun opened => ensures_of_bind fun rest => ensures_of_bind fun item => ?_
  exact ensures_pure trivial

theorem numbered_closeBranches {branches nodes : List Node} (hb : ∀ node ∈ branches, node.Numbered)
    (hn : ∀ node ∈ nodes, node.Numbered) : (closeBranches branches nodes).Numbered := by
  refine Node.numbered_ofAlternatives fun node hnode => ?_
  rcases List.mem_append.1 hnode with hnode | hnode
  · exact hb node hnode
  · obtain rfl := List.mem_singleton.1 hnode
    exact Node.numbered_ofSequence fun node hnode => hn node (List.mem_reverse.1 hnode)

/-- **All groups that are read have numbers of their own.** -/
theorem ensures_alternatives (n : Nat) {branches nodes : List Node}
    (hb : ∀ node ∈ branches, node.Numbered) (hn : ∀ node ∈ nodes, node.Numbered) :
    Ensures (alternatives n branches nodes) Node.Numbered := by
  induction n generalizing branches nodes with
  | zero => exact ensures_throw _
  | succ n ih =>
    have hpush {node : Node} (h : node.Numbered) :
        Ensures (alternatives n branches (node :: nodes)) Node.Numbered :=
      ih hb (List.forall_mem_cons.2 ⟨h, hn⟩)
    rw [alternatives]
    refine ensures_of_bind fun _ => ensures_of_bind fun next => ?_
    split
    · exact ensures_pure (numbered_closeBranches hb hn)
    · exact ensures_pure (numbered_closeBranches hb hn)
    · -- the next branch
      refine ensures_of_bind fun _ => ih (fun node hnode => ?_) (fun _ h => absurd h (by simp))
      rcases List.mem_append.1 hnode with hnode | hnode
      · exact hb node hnode
      · obtain rfl := List.mem_singleton.1 hnode
        exact Node.numbered_ofSequence fun node hnode => hn node (List.mem_reverse.1 hnode)
    · refine ensures_bind ensures_groupOpening fun opening hopening => ?_
      cases opening with
      | flags changes => exact ensures_of_bind fun _ => hpush trivial
      | group number changes =>
        refine ensures_of_bind fun _ => ensures_of_bind fun _ => ?_
        have hnone : ∀ node ∈ ([] : List Node), node.Numbered :=
          fun _ hmem => absurd hmem List.not_mem_nil
        refine ensures_bind (ih hnone hnone) fun inner hinner => ensures_of_bind fun _ => ?_
        split
        · exact ensures_of_bind fun _ => ensures_of_bind fun _ => hpush ⟨hopening, hinner⟩
        · exact ensures_bind (ensures_throw _) fun _ h => (h : False).elim
    · exact ensures_bind ensures_bracketedClass fun node hnode => hpush hnode
    · refine ensures_bind (ensures_repeated hn) fun r hr => ensures_of_bind fun bounds => ?_
      exact ih hb (List.forall_mem_cons.2 hr)
    · split
      · -- a repetition
        refine ensures_bind (ensures_repeated hn) fun r hr => ensures_of_bind fun _ =>
          ensures_of_bind fun greedy => ?_
        exact ih hb (List.forall_mem_cons.2 hr)
      · split
        · exact ensures_of_bind fun p => hpush (numbered_toNode p)
        · refine ensures_of_bind fun _ => hpush ?_
          split <;> trivial

theorem ensures_pattern : Ensures pattern Node.Numbered := by
  have hnone : ∀ node ∈ ([] : List Node), node.Numbered :=
    fun _ hmem => absurd hmem List.not_mem_nil
  unfold pattern
  refine ensures_of_bind fun rest => ?_
  refine ensures_bind (ensures_alternatives _ hnone hnone) fun node hnode =>
    ensures_of_bind fun next => ?_
  have hthrow (f : PUnit → Reader Node) :
      Ensures (throw PatternError.groupUnopened >>= f) Node.Numbered :=
    ensures_bind (ensures_throw _) fun _ h => (h : False).elim
  split
  · split
    · exact hthrow _
    · exact ensures_pure hnode
  · split
    · exact hthrow _
    · exact ensures_throw _

end Reader

/-- The groups of a pattern have numbers of their own. -/
theorem Node.numbered_of_ofText {text : String} {node : Node} {groups : Nat}
    (h : Node.ofText text = .ok (node, groups)) : node.Numbered := by
  obtain ⟨⟨node', input⟩, hrun, hr⟩ := bind_eq_ok.1 h
  obtain ⟨rfl, -⟩ := Prod.mk.inj (Except.ok.inj hr)
  exact Reader.ensures_pattern _ _ _ hrun

end Highlight.Pattern

namespace Highlight.Matcher

/-- Matches begin at the character at which they are looked for. -/
def Anchored (m : Matcher) : Prop :=
  ∀ (line : Line) (i : Nat) (found : Match), m.matchAt? line i = some found →
    ∃ stop, i ≤ stop ∧ found.whole? = some ⟨line.offset i, line.offset stop⟩

/-- **The matches of every pattern begin where they are looked for.** -/
theorem anchored_of_ofText {source : String} {m : Matcher} (h : ofText source = .ok m) :
    m.Anchored := by
  intro line i found hfound
  obtain ⟨⟨node, groups⟩, hnode, h⟩ := bind_eq_ok.1 h
  obtain ⟨⟨e, flags⟩, he, h⟩ := bind_eq_ok.1 h
  have hnumbered : e.Numbered :=
    Pattern.Expr.numbered_ofNode {} node (Pattern.Node.numbered_of_ofText hnode) _ he
  have hprogram : m.program = .ofExpr e groups := by
    simp only at h
    split at h
    · obtain rfl := Except.ok.inj h
      rfl
    · exact nomatch h
  rw [matchAt?] at hfound
  split at hfound
  · obtain ⟨slots, hrun, rfl⟩ := Option.map_eq_some_iff.1 hfound
    rw [hprogram] at hrun
    obtain ⟨stop, hle, hstart, hstop⟩ := Pattern.Program.slots_of_run hnumbered groups hrun
    refine ⟨stop, hle, ?_⟩
    have hsize : 1 < slots.size := (Array.getElem?_eq_some_iff.1 hstop).1
    have hspan : (spans line slots)[0]? = some (some ⟨line.offset i, line.offset stop⟩) := by
      rw [spans, Array.getElem?_ofFn, dif_pos (by omega)]
      simp [Array.getD_eq_getD_getElem?, hstart, hstop, hle]
    exact Option.join_eq_some_iff.2 hspan
  · exact absurd hfound (by simp)

end Highlight.Matcher
