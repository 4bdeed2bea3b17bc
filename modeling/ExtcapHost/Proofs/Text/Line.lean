/-
Module: ExtcapHost.Proofs.Text.Line
Purpose: A text that is written line by line is cut into the same lines, whatever ends
  them.
Main exports:
  Text.IsLine, Text.IsLineEnd, Text.EndedLine, Text.lines_append_end, Text.terminated,
  Text.lines_terminated, Text.lines_unifyLineEnds
-/
import ExtcapHost.Text.Line
import ExtcapHost.Text.Utf8

namespace ExtcapHost.Text

/-- A text within one line. -/
def IsLine (text : List Char) : Prop :=
  ∀ c ∈ text, isLineBreak c = false

instance (text : List Char) : Decidable (IsLine text) :=
  List.decidableBAll (fun c => isLineBreak c = false) text

/-- What may end a line: a character that breaks lines, or a carriage return with a line
feed. -/
inductive IsLineEnd : List Char → Prop where
  | single {c : Char} (breaks : isLineBreak c = true) : IsLineEnd [c]
  | pair : IsLineEnd ['\r', '\n']

/-- A line with what ends it. -/
structure EndedLine where
  text : List Char
  mark : List Char
  within : IsLine text
  ends : IsLineEnd mark

/-- The text of lines, each with its own end. -/
def EndedLine.textOf (rows : List EndedLine) : List Char :=
  rows.flatMap fun row => row.text ++ row.mark

/-- Lines, each of them ended by a line feed. -/
def terminated (texts : List (List Char)) : List Char :=
  texts.flatMap fun text => text ++ ['\n']

/-! ### Line breaks -/

/-- A character breaks the line, unless it is a carriage return that goes on. -/
theorem lines_of_break {c : Char} (breaks : isLineBreak c = true) {rest : List Char}
    (alone : c = '\r' → rest.head? ≠ some '\n') : lines (c :: rest) = [] :: lines rest := by
  rw [lines]
  · rw [breaks]
    rfl
  · rintro later rfl rfl
    exact alone rfl rfl

theorem lines_of_pair (rest : List Char) : lines ('\r' :: '\n' :: rest) = [] :: lines rest := by
  rw [lines]

theorem lines_of_feed (rest : List Char) : lines ('\n' :: rest) = [] :: lines rest :=
  lines_of_break rfl nofun

/-- Whatever ends a line leaves what follows to be cut for itself.  A carriage return may
take a line feed that follows along, and with it the empty line in front of it. -/
theorem lines_of_end {mark : List Char} (ends : IsLineEnd mark) (rest : List Char) :
    ∃ later, lines (mark ++ rest) = [] :: later ∧
      (lines rest = later ∨ lines rest = [] :: later) := by
  cases ends with
  | pair => exact ⟨lines rest, lines_of_pair rest, .inl rfl⟩
  | @single c breaks =>
      by_cases goesOn : c = '\r' ∧ rest.head? = some '\n'
      · obtain ⟨rfl, follows⟩ := goesOn
        obtain ⟨later, rfl⟩ := List.head?_eq_some_iff.mp follows
        exact ⟨lines later, lines_of_pair later, .inr (lines_of_feed later)⟩
      · have alone : c = '\r' → rest.head? ≠ some '\n' :=
          fun isReturn follows => goesOn ⟨isReturn, follows⟩
        exact ⟨lines rest, lines_of_break breaks alone, .inl rfl⟩

/-! ### Lines -/

/-- A character that breaks no line goes to the front of the next one, or is a line itself. -/
theorem lines_of_inner {c : Char} (within : isLineBreak c = false) (text : List Char) :
    lines (c :: text) =
      match lines text with
      | [] => [[c]]
      | line :: more => (c :: line) :: more := by
  rw [lines]
  · rw [within]
    rfl
  · rintro rest rfl -
    cases within

theorem lines_cons {c : Char} (within : isLineBreak c = false) {text line : List Char}
    {more : List (List Char)} (cut : lines text = line :: more) :
    lines (c :: text) = (c :: line) :: more := by
  rw [lines_of_inner within, cut]

/-- A text within one line goes to the front of the next one. -/
theorem lines_append {front : List Char} (within : IsLine front) {text line : List Char}
    {more : List (List Char)} (cut : lines text = line :: more) :
    lines (front ++ text) = (front ++ line) :: more := by
  induction front with
  | nil => exact cut
  | cons c front ih =>
      have later : IsLine front := fun d member => within d (.tail _ member)
      exact lines_cons (within c (.head _)) (ih later)

/-- A line that is not ended is a line, unless it is empty. -/
theorem lines_of_isLine {text : List Char} (within : IsLine text) :
    text = [] ∨ lines text = [text] := by
  induction text with
  | nil => exact .inl rfl
  | cons c rest ih =>
      right
      have breaksNot : isLineBreak c = false := within c (.head _)
      rcases ih fun d member => within d (.tail _ member) with rfl | cut
      · rw [lines_of_inner breaksNot, lines_nil]
      · exact lines_cons breaksNot cut

/-- A line with its end is the first line.  What follows is cut for itself, up to an empty
line in front. -/
theorem lines_append_end {line mark : List Char} (within : IsLine line) (ends : IsLineEnd mark)
    (rest : List Char) :
    ∃ later, lines (line ++ mark ++ rest) = line :: later ∧
      (lines rest = later ∨ lines rest = [] :: later) := by
  obtain ⟨later, cut, follows⟩ := lines_of_end ends rest
  refine ⟨later, ?_, follows⟩
  rw [List.append_assoc, lines_append within cut, List.append_nil]

theorem lines_terminated {texts : List (List Char)} (within : ∀ text ∈ texts, IsLine text) :
    lines (terminated texts) = texts := by
  induction texts with
  | nil => exact lines_nil
  | cons text rest ih =>
      have later : lines (terminated rest) = rest :=
        ih fun other member => within other (.tail _ member)
      calc lines (terminated (text :: rest))
          = lines (text ++ '\n' :: terminated rest) := by
            rw [terminated, List.flatMap_cons, List.append_assoc]
            rfl
        _ = (text ++ []) :: lines (terminated rest) :=
            lines_append (within text (.head _)) (lines_of_feed _)
        _ = text :: rest := by rw [List.append_nil, later]

/-! ### Line ends in one form -/

/-- Writing all line ends in one form keeps the lines. -/
theorem lines_unifyLineEnds (text : List Char) : lines (unifyLineEnds text) = lines text := by
  induction text using unifyLineEnds.induct with
  | case1 => rfl
  | case2 rest ih => rw [unifyLineEnds, lines_of_feed, lines_of_pair, ih]
  | case3 c rest notPair ih =>
      have alone : c = '\r' → rest.head? ≠ some '\n' := by
        intro isReturn follows
        obtain ⟨later, split⟩ := List.head?_eq_some_iff.mp follows
        exact notPair later isReturn split
      rw [unifyLineEnds]
      · by_cases isReturn : c = '\r'
        · have breaks : isLineBreak c = true := by rw [isReturn]; rfl
          rw [if_pos isReturn, lines_of_feed, lines_of_break breaks alone, ih]
        · rw [if_neg isReturn]
          cases breaks : isLineBreak c with
          | true =>
              rw [lines_of_break breaks fun same => absurd same isReturn,
                lines_of_break breaks alone, ih]
          | false => rw [lines_of_inner breaks, lines_of_inner breaks, ih]
      · exact notPair

end ExtcapHost.Text
