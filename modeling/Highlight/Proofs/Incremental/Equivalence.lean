import Highlight.Proofs.Incremental.Consistency
import Highlight.Proofs.Incremental.Passes

/-!
# Tokenizing incrementally and from the first line on come to the same

`IncrementalTokenizer.Reachable` is what an incremental tokenizer can come to while its document is
edited: by any accurate events, any number of lines tokenized at a time, any lines asked for, and by
forgetting results or changing the grammar, in any order.  Whatever has happened, its cache fits the
document, or has no results at all (`IncrementalTokenizer.Tracks`).  So it answers for every line
what `tokenizeAll` answers for the current grammar and the current document
(`IncrementalTokenizer.Reachable.answers_tokenizeAll`).
-/

namespace Highlight.IncrementalTokenizer

variable {g : Grammar} {config : Config} {lines : Lines} {d : IncrementalTokenizer}

/-- The cache fits the document, and so the next line can be tokenized. -/
structure Ready (g : Grammar) (config : Config) (lines : Lines) (d : IncrementalTokenizer) :
    Prop where
  serves : d.tokenizer.Serves g config
  config_eq : d.config = config
  consistent : d.cache.Consistent g config lines

/-- The cache fits the document, or it has no results, and then it may have any number of lines. -/
structure Tracks (g : Grammar) (config : Config) (lines : Lines) (d : IncrementalTokenizer) :
    Prop where
  serves : d.tokenizer.Serves g config
  config_eq : d.config = config
  wellFormed : d.cache.WellFormed
  consistent_or_blank :
    d.cache.Consistent g config lines ∨ ∀ i, d.cache.result? i = none

theorem Ready.tracks (h : Ready g config lines d) : Tracks g config lines d :=
  ⟨h.serves, h.config_eq, h.consistent.wellFormed, .inl h.consistent⟩

/-! ### Steps -/

theorem cache_step (h : d.tokenizer.Serves g config) (lines : Lines) (i : Nat) :
    (d.step lines i).cache =
      d.cache.put i (Tokenizer.outcome g config (lines.text i) (d.cache.incoming i)) := by
  rw [Tokenizer.outcome, ← h.tokenize_eq]
  simp only [step]
  rcases d.tokenizer.tokenize (lines.text i) (d.cache.incoming i) with ⟨result, tokenizer⟩
  cases result <;> rfl

theorem tokenizer_step (d : IncrementalTokenizer) (lines : Lines) (i : Nat) :
    (d.step lines i).tokenizer =
      (d.tokenizer.tokenize (lines.text i) (d.cache.incoming i)).2 := rfl

/-- A step keeps the cache fitting the document. -/
theorem Ready.step (h : Ready g config lines d) {i : Nat} (hi : d.cache.pending = some i) :
    Ready g config lines (d.step lines i) where
  serves := by
    rw [tokenizer_step]
    exact h.serves.tokenize _ _
  config_eq := h.config_eq
  consistent := by
    rw [cache_step h.serves]
    exact h.consistent.put hi

theorem Ready.steps (h : Ready g config lines d) (budget : Nat) :
    Ready g config lines (steps lines budget d).2 :=
  steps_induction (fun _ _ hd hi => hd.step hi) budget h

theorem Ready.stepsTo (h : Ready g config lines d) (i n : Nat) :
    Ready g config lines (stepsTo lines i n d) :=
  stepsTo_induction (fun _ _ hd hj => hd.step hj) i n h

/-- Bringing the number of lines up to date leaves a cache that fits the document. -/
theorem Tracks.resize (h : Tracks g config lines d) :
    Ready g config lines { d with cache := d.cache.resize lines.count } := by
  refine ⟨h.serves, h.config_eq, ?_⟩
  have hsize : (d.cache.resize lines.count).size = lines.count := by
    rw [LineCache.size_resize]
    exact Nat.max_eq_left (Nat.le_max_right _ 1)
  rcases h.consistent_or_blank with hconsistent | hblank
  · show (d.cache.resize lines.count).Consistent g config lines
    rw [LineCache.resize_eq_self]
    · exact hconsistent
    · rw [hconsistent.size_eq]
      exact (Nat.max_eq_left (Nat.le_max_right _ 1)).symm
  · refine (h.wellFormed.resize lines.count).consistent_of_blank hsize fun i => ?_
    by_contra hsome
    obtain ⟨line, hline⟩ := Option.ne_none_iff_exists'.1 hsome
    exact absurd ((hblank i).symm.trans (LineCache.result?_of_resize hline)) (by simp)

/-! ### Operations -/

theorem tracks_new (g : Grammar) (config : Config) (lines : Lines) (lineCount : Nat) :
    Tracks g config lines (new g config lineCount) where
  serves := Tokenizer.serves_new g config
  config_eq := rfl
  wellFormed := LineCache.wellFormed_new lineCount
  consistent_or_blank := .inr (LineCache.result?_new lineCount)

theorem Tracks.follow {old new : Lines} (h : Tracks g config old d) {e : LineChange}
    (he : e.Describes old new) : Tracks g config new (d.follow e new.count) where
  serves := h.serves
  config_eq := h.config_eq
  wellFormed := h.wellFormed.replaceLines e new.count
  consistent_or_blank := by
    rcases h.consistent_or_blank with hconsistent | hblank
    · exact .inl (hconsistent.replaceLines he)
    · refine .inr fun i => Option.eq_none_iff_forall_ne_some.2 fun line hline => ?_
      obtain ⟨j, hj⟩ := LineCache.exists_result?_of_replaceLines hline
      exact absurd ((hblank j).symm.trans hj) (by simp)

theorem Tracks.advance (h : Tracks g config lines d) (budget : Nat) :
    Ready g config lines (d.advance lines budget).2 := h.resize.steps budget

/-- With all results forgotten, any document may come next. -/
theorem Tracks.forget {old new : Lines} (h : Tracks g config old d) (lineCount : Nat) :
    Tracks g config new (d.forget lineCount) where
  serves := h.serves.forget
  config_eq := h.config_eq
  wellFormed := LineCache.wellFormed_new lineCount
  consistent_or_blank := .inr (LineCache.result?_new lineCount)

theorem Tracks.changeGrammar (h : Tracks g config lines d) (g' : Grammar) (lineCount : Nat) :
    Tracks g' config lines (d.changeGrammar g' lineCount) where
  serves := by
    rw [← h.config_eq]
    exact (Tokenizer.serves_new g' d.config).forget
  config_eq := h.config_eq
  wellFormed := LineCache.wellFormed_new lineCount
  consistent_or_blank := .inr (LineCache.result?_new lineCount)

theorem Tracks.tokens (h : Tracks g config lines d) (i : Nat) :
    Tracks g config lines (d.tokens lines i).2 := by
  simp only [IncrementalTokenizer.tokens]
  split
  · exact h.resize.tracks
  · exact (h.resize.stepsTo i (i + 1)).tracks

/-! ### Answers -/

/-- The tokens of a line are those of the document, whatever has been tokenized before. -/
theorem Tracks.tokens_eq (h : Tracks g config lines d) (i : Nat) :
    (d.tokens lines i).1 = (tokenizeAll g config lines)[i]?.map LineTokens.tokens := by
  have hready := h.resize
  simp only [IncrementalTokenizer.tokens]
  split
  · rename_i hle
    have hend : (tokenizeAll g config lines).length ≤ i := by
      rw [length_tokenizeAll, ← hready.consistent.size_eq]
      exact hle
    rw [List.getElem?_eq_none hend]
    rfl
  · rename_i hlt
    have hcount : i < lines.count :=
      Nat.lt_of_lt_of_eq (Nat.lt_of_not_le hlt) hready.consistent.size_eq
    have hdone := hready.stepsTo i (i + 1)
    have hsize := Nat.lt_of_lt_of_eq hcount hdone.consistent.size_eq.symm
    -- by then the line has been passed, so its result is that of the document
    have hresult := hdone.consistent.result?_eq hsize
      (lt_of_pending_stepsTo fun p _ => by omega)
    rw [getElem?_tokenizeAll g config lines hcount]
    simp only
    rw [hresult]
    rfl

/-- The rules open after a line that are known are those of the document. -/
theorem Tracks.openAfter?_eq (h : Tracks g config lines d) {i : Nat} {state : OpenRules}
    (hstate : d.openAfter? i = some state) :
    (tokenizeAll g config lines)[i]?.map LineTokens.state = some state := by
  unfold openAfter? at hstate
  split at hstate
  · exact absurd hstate (by simp)
  · rename_i hpassed
    obtain ⟨line, hline, rfl⟩ := Option.map_eq_some_iff.1 hstate
    rcases h.consistent_or_blank with hconsistent | hblank
    · have hsize := LineCache.lt_size_of_result? hline
      have hresult := hconsistent.result?_eq hsize fun p hp =>
        Nat.lt_of_not_le fun hle => hpassed (by simp [hp, hle])
      rw [getElem?_tokenizeAll g config lines (Nat.lt_of_lt_of_eq hsize hconsistent.size_eq)]
      rw [Option.some.inj (hline.symm.trans hresult)]
      rfl
    · exact absurd ((hblank i).symm.trans hline) (by simp)

/-! ### Runs -/

/-- What an incremental tokenizer can come to, with the grammar it has then and the document as it
is then.  Events describe what has been done to the document; tokenizing may begin, and results may
be forgotten, with any number of lines. -/
inductive Reachable (config : Config) : Grammar → Lines → IncrementalTokenizer → Prop where
  | new (g : Grammar) (lines : Lines) (lineCount : Nat) :
    Reachable config g lines (new g config lineCount)
  | follow {g : Grammar} {old new : Lines} {d : IncrementalTokenizer} {e : LineChange} :
    Reachable config g old d → e.Describes old new →
    Reachable config g new (d.follow e new.count)
  | advance {g : Grammar} {lines : Lines} {d : IncrementalTokenizer} (budget : Nat) :
    Reachable config g lines d → Reachable config g lines (d.advance lines budget).2
  | advanceSome {g : Grammar} {lines : Lines} {d : IncrementalTokenizer} :
    Reachable config g lines d → Reachable config g lines (d.advanceSome lines).2
  | finish {g : Grammar} {lines : Lines} {d : IncrementalTokenizer} :
    Reachable config g lines d → Reachable config g lines (d.finish lines).2
  | tokens {g : Grammar} {lines : Lines} {d : IncrementalTokenizer} (i : Nat) :
    Reachable config g lines d → Reachable config g lines (d.tokens lines i).2
  | forget {g : Grammar} {lines : Lines} {d : IncrementalTokenizer} (lineCount : Nat) :
    Reachable config g lines d → Reachable config g lines (d.forget lineCount)
  | changeGrammar {g : Grammar} {lines : Lines} {d : IncrementalTokenizer} (g' : Grammar)
    (lineCount : Nat) :
    Reachable config g lines d → Reachable config g' lines (d.changeGrammar g' lineCount)

theorem Reachable.tracks (h : Reachable config g lines d) : Tracks g config lines d := by
  induction h with
  | new g lines lineCount => exact tracks_new g config lines lineCount
  | follow _ he ih => exact ih.follow he
  | advance budget _ ih => exact (ih.advance budget).tracks
  | advanceSome _ ih => exact (ih.advance _).tracks
  | finish _ ih => exact (ih.advance _).tracks
  | tokens i _ ih => exact ih.tokens i
  | forget lineCount _ ih => exact ih.forget lineCount
  | changeGrammar g' lineCount _ ih => exact ih.changeGrammar g' lineCount

/-- **Tokenizing incrementally comes to what tokenizing from the first line on comes to.**  Whatever
has been done before, the tokens of every line are those of the current document, and so are the
rules open after a line where they are known. -/
theorem Reachable.answers_tokenizeAll (h : Reachable config g lines d) :
    (tokenizeAll g config lines).length = lines.count ∧
      (∀ i, (d.tokens lines i).1 = (tokenizeAll g config lines)[i]?.map LineTokens.tokens) ∧
      ∀ i state, d.openAfter? i = some state →
        (tokenizeAll g config lines)[i]?.map LineTokens.state = some state :=
  ⟨length_tokenizeAll g config lines, h.tracks.tokens_eq,
    fun _ _ hstate => h.tracks.openAfter?_eq hstate⟩

/-- An element is opened in a line that has been tokenized, after a pass that stopped behind it. -/
theorem answers_tokenizeAll_elements :
    (((((new Grammar.elements {} 3).advance #["x", "y", "z"] 2).2).follow (.line 0) 3).tokens
      #["<a>x", "y", "z"] 2).1 = some [⟨0, 1, ["text", "element", "content"]⟩] := by
  have hevent : (LineChange.line 0).Describes #["x", "y", "z"] #["<a>x", "y", "z"] := by
    constructor
    case start_le => decide
    case end_le => decide
    case count_eq => decide
    case before => exact fun i hi => absurd hi (Nat.not_lt_zero i)
    case after =>
      intro k
      simp [Lines.text, LineChange.line, Nat.add_comm 1 k]
  have hnew : Reachable {} Grammar.elements #["x", "y", "z"] (new Grammar.elements {} 3) :=
    .new _ _ 3
  have hrun := (hnew.advance 2).follow hevent
  refine (hrun.answers_tokenizeAll.2.1 2).trans ?_
  decide +kernel

end Highlight.IncrementalTokenizer
