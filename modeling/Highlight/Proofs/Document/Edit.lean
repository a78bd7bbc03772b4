import Highlight.Document.Change
import Highlight.Proofs.Document.Breaks

/-!
# What an edit does to the lines of a text

`LineChange.Describes` says what the event of an edit claims: which lines have been replaced by how
many, and that no other line has another text.  The event that `TextEdit.apply` answers describes
the edit (`TextEdit.accurate_apply`), wherever the edit starts and ends: also between the two
characters of a break, and where it makes one break of two or two of one.

The exception is a deletion that leaves a carriage return with a line feed after it, and nothing in
their place (`TextEdit.JoinsBreak`): the line in which it starts ends before that line starts.
-/

namespace Highlight

/-! ### Lines of a text -/

namespace Lines

theorem count_ofText (text : List Char) :
    (ofText text).count = (Document.brokenLines text).length := by
  have h := List.length_pos_of_ne_nil (Document.brokenLines_ne_nil text)
  simp only [count, ofText, List.size_toArray, List.length_map]
  omega

theorem text_ofText (text : List Char) (i : Nat) :
    (ofText text).text i = String.ofList ((Document.lineTexts text)[i]?.getD []) := by
  rw [Lines.text, Array.getD_eq_getD_getElem?, ofText, List.getElem?_toArray, Document.lineTexts,
    List.getElem?_map, List.getElem?_map]
  cases (Document.brokenLines text)[i]? <;> rfl

end Lines

/-! ### Events -/

/-- An event describes a change of a document: the lines that it names are replaced by as many as
it says, and every other line has the text it had. -/
structure LineChange.Describes (e : LineChange) (old new : Lines) : Prop where
  start_le : e.startLine ≤ e.endLine
  end_le : e.endLine ≤ old.count
  count_eq : new.count = old.count - (e.endLine - e.startLine) + e.newLineCount
  before : ∀ i < e.startLine, new.text i = old.text i
  after : ∀ k, new.text (e.startLine + e.newLineCount + k) = old.text (e.endLine + k)

namespace TextEdit

/-- Where the replaced part starts in a text. -/
def startIn (e : TextEdit) (text : List Char) : Nat := min e.start text.length

/-- Where the replaced part ends in a text. -/
def stopIn (e : TextEdit) (text : List Char) : Nat :=
  max (e.startIn text) (min e.stop text.length)

/-- A deletion puts nothing in the place of what it takes, and a carriage return before that meets
a line feed after it. -/
def JoinsBreak (e : TextEdit) (text : List Char) : Prop :=
  e.inserted = [] ∧ e.startIn text < e.stopIn text ∧
    Document.Joined (text.take (e.startIn text)) (text.drop (e.stopIn text))

instance (e : TextEdit) (text : List Char) : Decidable (e.JoinsBreak text) :=
  inferInstanceAs (Decidable (_ ∧ _))

theorem startIn_le_length (e : TextEdit) (text : List Char) : e.startIn text ≤ text.length :=
  Nat.min_le_right _ _

theorem startIn_le_stopIn (e : TextEdit) (text : List Char) : e.startIn text ≤ e.stopIn text :=
  Nat.le_max_left _ _

theorem length_take_startIn (e : TextEdit) (text : List Char) :
    (text.take (e.startIn text)).length = e.startIn text := by
  rw [List.length_take, Nat.min_eq_left (e.startIn_le_length text)]

/-- The text after an edit: the front, what is inserted, and the back. -/
def result (e : TextEdit) (text : List Char) : List Char :=
  text.take (e.startIn text) ++ e.inserted ++ text.drop (e.stopIn text)

theorem apply_eq (e : TextEdit) (text : List Char) :
    e.apply text = (e.result text, {
      startLine := Document.breaksBefore text (e.startIn text)
      endLine := Document.breaksBefore text (e.stopIn text) + 1
      newLineCount := Document.breaksBefore (e.result text) (e.startIn text + e.inserted.length) -
        Document.breaksBefore text (e.startIn text) + 1 }) := rfl

/-- Behind what is inserted stands what stood behind the replaced part. -/
theorem drop_result (e : TextEdit) (text : List Char) :
    (e.result text).drop (e.startIn text + e.inserted.length) = text.drop (e.stopIn text) := by
  rw [result, List.drop_left' (by rw [List.length_append, length_take_startIn])]

/-- The breaks before the replaced part have also been passed behind what takes its place. -/
theorem breaksBefore_startIn_le (e : TextEdit) (text : List Char) (h : ¬ e.JoinsBreak text) :
    Document.breaksBefore text (e.startIn text) ≤
      Document.breaksBefore (e.result text) (e.startIn text + e.inserted.length) := by
  set front := text.take (e.startIn text) with hfront
  set back := text.drop (e.stopIn text) with hback
  have hlen : front.length = e.startIn text := e.length_take_startIn text
  by_cases hins : e.inserted = []
  · by_cases hlt : e.startIn text < e.stopIn text
    · -- front and back are put together, and no break lies across the place
      have hj : ¬ Document.Joined front back := fun hj => h ⟨hins, hlt, hj⟩
      calc Document.breaksBefore text (e.startIn text)
          = Document.breaksBefore (front ++ text.drop (e.startIn text)) front.length := by
            rw [hfront, List.take_append_drop, hlen]
        _ ≤ Document.breaksBefore front front.length := Document.breaksBefore_append_le _ _
        _ = Document.breaksBefore (front ++ back) front.length :=
            (Document.breaksBefore_append_of_not_joined hj).symm
        _ = Document.breaksBefore (e.result text) (e.startIn text + e.inserted.length) := by
            rw [result, hins, List.append_nil, List.length_nil, Nat.add_zero, hlen]
    · -- nothing is removed either
      have heq : e.stopIn text = e.startIn text :=
        Nat.le_antisymm (Nat.le_of_not_lt hlt) (e.startIn_le_stopIn text)
      have hsame : e.result text = text := by
        rw [result, hins, heq, List.append_nil, List.take_append_drop]
      exact Nat.le_of_eq (by rw [hsame, hins, List.length_nil, Nat.add_zero])
  · -- the breaks of the front have ended with the first character that is inserted
    have hne : e.inserted ++ back ≠ [] := by simp [hins]
    have hpos : 0 < e.inserted.length := List.length_pos_of_ne_nil hins
    calc Document.breaksBefore text (e.startIn text)
        = Document.breaksBefore (front ++ text.drop (e.startIn text)) front.length := by
          rw [hfront, List.take_append_drop, hlen]
      _ ≤ Document.breaksBefore front front.length := Document.breaksBefore_append_le _ _
      _ ≤ Document.breaksBefore (front ++ (e.inserted ++ back)) (front.length + 1) :=
          Document.breaksBefore_le_append front hne
      _ ≤ Document.breaksBefore (front ++ (e.inserted ++ back))
            (e.startIn text + e.inserted.length) :=
          Document.breaksBefore_mono _ (by omega)
      _ = Document.breaksBefore (e.result text) (e.startIn text + e.inserted.length) := by
          rw [result, List.append_assoc]

/-- The lines before the one in which the replaced part starts have the texts they had. -/
theorem text_before (e : TextEdit) (text : List Char) {i : Nat}
    (hi : i < Document.breaksBefore text (e.startIn text)) :
    (Lines.ofText (e.result text)).text i = (Lines.ofText text).text i := by
  set front := text.take (e.startIn text) with hfront
  have htext : text = front ++ text.drop (e.startIn text) := (List.take_append_drop _ _).symm
  have hi' : i < Document.breaksBefore front front.length := by
    have hle := Document.breaksBefore_append_le front (text.drop (e.startIn text))
    rw [← htext, e.length_take_startIn text] at hle
    rw [e.length_take_startIn text]
    exact Nat.lt_of_lt_of_le hi hle
  have hfrontOnly (back : List Char) :
      (Document.lineTexts (front ++ back))[i]? = (Document.lineTexts front)[i]? := by
    rw [← List.getElem?_take_of_lt hi', Document.take_lineTexts_append,
      List.getElem?_take_of_lt hi']
  rw [Lines.text_ofText, Lines.text_ofText, result, List.append_assoc, hfrontOnly]
  conv_rhs => rw [htext, hfrontOnly]

/-- The lines behind the one in which the replaced part ends have the texts they had. -/
theorem text_after (e : TextEdit) (text : List Char) (k : Nat) :
    (Lines.ofText (e.result text)).text
        (Document.breaksBefore (e.result text) (e.startIn text + e.inserted.length) + 1 + k) =
      (Lines.ofText text).text (Document.breaksBefore text (e.stopIn text) + 1 + k) := by
  rw [Lines.text_ofText, Lines.text_ofText, ← List.getElem?_drop, ← List.getElem?_drop,
    Document.drop_lineTexts, Document.drop_lineTexts, drop_result]

/-- The lines of a text before and after an edit both end in those behind it. -/
theorem count_result (e : TextEdit) (text : List Char) :
    (Lines.ofText (e.result text)).count + Document.breaksBefore text (e.stopIn text) =
      (Lines.ofText text).count +
        Document.breaksBefore (e.result text) (e.startIn text + e.inserted.length) := by
  rw [Lines.count_ofText, Lines.count_ofText,
    Document.length_brokenLines text (e.stopIn text),
    Document.length_brokenLines (e.result text) (e.startIn text + e.inserted.length), drop_result]
  omega

/-- The event of an edit describes what it does to the lines. -/
theorem describes_apply (e : TextEdit) (text : List Char) (h : ¬ e.JoinsBreak text) :
    (e.apply text).2.Describes (Lines.ofText text) (Lines.ofText (e.apply text).1) := by
  rw [apply_eq]
  have hstop : Document.breaksBefore text (e.startIn text) ≤
      Document.breaksBefore text (e.stopIn text) :=
    Document.breaksBefore_mono text (e.startIn_le_stopIn text)
  have hnew := e.breaksBefore_startIn_le text h
  have hcount := e.count_result text
  have hlast : Document.breaksBefore text (e.stopIn text) + 1 ≤ (Lines.ofText text).count := by
    rw [Lines.count_ofText, Document.length_brokenLines text (e.stopIn text)]
    exact Nat.add_le_add_left
      (List.length_pos_of_ne_nil (Document.brokenLines_ne_nil _)) _
  constructor
  case start_le => exact Nat.le_succ_of_le hstop
  case end_le => exact hlast
  case count_eq =>
    simp only
    omega
  case before => exact fun i hi => e.text_before text hi
  case after =>
    intro k
    rw [← e.text_after text k]
    congr 1
    -- the new lines end where what is inserted ends, which is not before they begin
    simp only
    omega

/-- An event names at least the line in which the edit starts. -/
theorem startLine_lt_endLine (e : TextEdit) (text : List Char) :
    (e.apply text).2.startLine < (e.apply text).2.endLine :=
  Nat.lt_succ_of_le (Document.breaksBefore_mono text (e.startIn_le_stopIn text))

/-- **The event of an edit is accurate.**  Unless the edit only joins a carriage return with a line
feed, the text after it is the clamped front, what is inserted, and the clamped back, and the event
names at least one line before and one after the edit and describes the change of the lines. -/
theorem accurate_apply (e : TextEdit) (text : List Char) (h : ¬ e.JoinsBreak text) :
    (e.apply text).1 =
        text.take (e.startIn text) ++ e.inserted ++ text.drop (e.stopIn text) ∧
      (e.apply text).2.startLine < (e.apply text).2.endLine ∧
      1 ≤ (e.apply text).2.newLineCount ∧
      (e.apply text).2.Describes (Lines.ofText text) (Lines.ofText (e.apply text).1) :=
  ⟨rfl, e.startLine_lt_endLine text, Nat.le_add_left 1 _, e.describes_apply text h⟩

/-- Something put between a carriage return and a line feed makes two breaks of one. -/
theorem accurate_apply_insideBreak :
    ¬ (insert 2 "x").JoinsBreak ['a', '\r', '\n', 'b'] ∧
      (LineChange.mk 0 1 2).Describes (Lines.ofText ['a', '\r', '\n', 'b'])
        (Lines.ofText ['a', '\r', 'x', '\n', 'b']) := by
  have h : ¬ (insert 2 "x").JoinsBreak ['a', '\r', '\n', 'b'] := by decide
  exact ⟨h, (accurate_apply (insert 2 "x") ['a', '\r', '\n', 'b'] h).2.2.2⟩

end TextEdit

end Highlight
