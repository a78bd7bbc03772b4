import Highlight.Incremental.Tokenizer
import Highlight.Proofs.Tokenizer.OpenRules

/-!
# Tokenizing a document from its first line on

`tokenizeAll` uses one tokenizer for all lines.  As a tokenizer answers what a new one answers, each
line has an outcome of its own (`Tokenizer.outcome`), which rests on nothing but its text and the
rules open before it (`stateBefore`), and these are the outcomes that `tokenizeAll` lists
(`tokenizeAll_eq`).
-/

namespace Highlight

/-- What is known of a line as an element of the answer for a whole document. -/
def CachedLine.lineTokens (line : CachedLine) : LineTokens := ⟨line.tokens, line.endState⟩

namespace Tokenizer

variable {g : Grammar} {config : Config}

/-- What is put in for an answer; a line that could not be tokenized is one token without scopes,
and no rule is open after it. -/
def cachedLine (text : String) : Except MatchError LineTokens → CachedLine
  | .ok line => ⟨line.tokens, line.state, false⟩
  | .error _ => ⟨(LineTokens.plain text).tokens, (LineTokens.plain text).state, true⟩

/-- The lines behind a line are tokenized with the rules open after it. -/
theorem tokenizeLines_cons (t : Tokenizer) (state : OpenRules) (text : String)
    (texts : List String) :
    t.tokenizeLines state (text :: texts) =
      (cachedLine text (t.tokenize text state).1).lineTokens ::
        (t.tokenize text state).2.tokenizeLines
          (cachedLine text (t.tokenize text state).1).endState texts := by
  rw [tokenizeLines]
  rcases t.tokenize text state with ⟨result, t'⟩
  cases result <;> rfl

/-- What tokenizing a line comes to, given the rules open before it. -/
def outcome (g : Grammar) (config : Config) (text : String) (state : OpenRules) : CachedLine :=
  cachedLine text ((new g config).tokenize text state).1

/-- The rules open after a line have the scope paths that they lead to, also when it could not be
tokenized. -/
theorem scoped_outcome (config : Config) (text : String) {state : OpenRules}
    (h : state.Scoped g) : (outcome g config text state).endState.Scoped g := by
  unfold outcome
  cases hanswer : ((new g config).tokenize text state).1 with
  | ok line => exact scoped_tokenize (new g config) text h hanswer
  | error e => exact .nil

end Tokenizer

/-- The rules open before a line of a document that is tokenized from its first line on. -/
def stateBefore (g : Grammar) (config : Config) (lines : Lines) : Nat → OpenRules
  | 0 => []
  | i + 1 =>
    (Tokenizer.outcome g config (lines.text i) (stateBefore g config lines i)).endState

/-- What tokenizing a document from its first line on comes to for one of its lines. -/
def outcomeAt (g : Grammar) (config : Config) (lines : Lines) (i : Nat) : CachedLine :=
  Tokenizer.outcome g config (lines.text i) (stateBefore g config lines i)

variable {g : Grammar} {config : Config}

theorem scoped_stateBefore (g : Grammar) (config : Config) (lines : Lines) (i : Nat) :
    (stateBefore g config lines i).Scoped g := by
  induction i with
  | zero => exact .nil
  | succ i ih => exact Tokenizer.scoped_outcome config (lines.text i) ih

/-- A tokenizer that goes on at some line of a document answers the outcomes of the lines from there
on. -/
theorem Tokenizer.Serves.tokenizeLines_eq {t : Tokenizer} (h : t.Serves g config) (lines : Lines)
    (start n : Nat) :
    t.tokenizeLines (stateBefore g config lines start)
        ((List.range' start n).map fun i => lines.text i) =
      (List.range' start n).map fun i => (outcomeAt g config lines i).lineTokens := by
  induction n generalizing t start with
  | zero => rfl
  | succ n ih =>
    rw [List.range'_succ, List.map_cons, List.map_cons, Tokenizer.tokenizeLines_cons,
      h.tokenize_eq]
    exact congrArg _ (ih (h.tokenize _ _) (start + 1))

/-- **The answer for a document lists the outcome of every line.** -/
theorem tokenizeAll_eq (g : Grammar) (config : Config) (lines : Lines) :
    tokenizeAll g config lines =
      (List.range lines.count).map fun i => (outcomeAt g config lines i).lineTokens := by
  rw [tokenizeAll, List.range_eq_range']
  exact (Tokenizer.serves_new g config).tokenizeLines_eq lines 0 lines.count

theorem length_tokenizeAll (g : Grammar) (config : Config) (lines : Lines) :
    (tokenizeAll g config lines).length = lines.count := by
  rw [tokenizeAll_eq, List.length_map, List.length_range]

theorem getElem?_tokenizeAll (g : Grammar) (config : Config) (lines : Lines) {i : Nat}
    (hi : i < lines.count) :
    (tokenizeAll g config lines)[i]? = some (outcomeAt g config lines i).lineTokens := by
  rw [tokenizeAll_eq, List.getElem?_map, List.getElem?_range hi, Option.map_some]

end Highlight
