/-
Module: ExtcapHost.Proofs.Sentence.LineByLine
Purpose: Each line of an answer is read for itself, whatever ends the lines.
Main exports:
  Sentence.readAll_line, Sentence.readAll_append_end, Sentence.readAll_rows,
  Sentence.answers_are_read_line_by_line
-/
import ExtcapHost.Sentence
import ExtcapHost.Proofs.Text.Line

/-!
Everything about the ends of lines follows from one equation: a line with its end in front
of any text adds the sentences of the line to those of the text.  A carriage return that
ends the line may join a line feed of the text behind it.  Then there is one line less, but
an empty one, and there is no sentence on it.
-/

namespace ExtcapHost.Sentence

open Text

theorem readAll_ofList (text : List Char) :
    readAll (String.ofList text) = (lines text).filterMap ofLine? := by
  rw [readAll, String.toList_ofList]

theorem ofLine?_nil : ofLine? [] = none := rfl

/-- A line alone has its sentence, if it is one. -/
theorem readAll_line {line : List Char} (within : IsLine line) :
    readAll (String.ofList line) = (ofLine? line).toList := by
  rw [readAll_ofList]
  rcases lines_of_isLine within with rfl | cut
  · rw [lines_nil, ofLine?_nil]
    rfl
  · rw [cut, List.filterMap_cons]
    cases ofLine? line <;> rfl

/-- An empty line in front has no sentence. -/
theorem filterMap_ofLine?_of_follows {rest : List Char} {later : List (List Char)}
    (follows : lines rest = later ∨ lines rest = [] :: later) :
    later.filterMap ofLine? = (lines rest).filterMap ofLine? := by
  rcases follows with same | behind
  · rw [same]
  · rw [behind, List.filterMap_cons_none ofLine?_nil]

/-- A line with its end adds its sentences to those of what follows. -/
theorem readAll_append_end (row : EndedLine) (rest : List Char) :
    readAll (String.ofList (row.text ++ row.mark ++ rest)) =
      readAll (String.ofList row.text) ++ readAll (String.ofList rest) := by
  obtain ⟨later, cut, follows⟩ := lines_append_end row.within row.ends rest
  have behind := filterMap_ofLine?_of_follows follows
  rw [readAll_line row.within, readAll_ofList, readAll_ofList, cut, ← behind,
    List.filterMap_cons]
  cases ofLine? row.text <;> rfl

/-- The sentences of many lines are those of each line, and of what follows. -/
theorem readAll_rows (rows : List EndedLine) (last : List Char) :
    readAll (String.ofList (EndedLine.textOf rows ++ last)) =
      (rows.flatMap fun row => readAll (String.ofList row.text)) ++
        readAll (String.ofList last) := by
  induction rows with
  | nil => rfl
  | cons row rest ih =>
      have split : EndedLine.textOf (row :: rest) ++ last =
          row.text ++ row.mark ++ (EndedLine.textOf rest ++ last) := by
        rw [EndedLine.textOf, List.flatMap_cons, List.append_assoc]
        rfl
      rw [split, readAll_append_end, ih, List.flatMap_cons, List.append_assoc]

/-- The sentences of an answer are those of its lines, each read alone, whatever ends each
line and whether or not something ends the last one.  So a line that is no sentence can be
left out, and the answer can be read with all its line ends in one form, as the output of a
helper is. -/
theorem answers_are_read_line_by_line :
    (∀ (rows : List EndedLine) (last : List Char),
      readAll (String.ofList (EndedLine.textOf rows ++ last)) =
        (rows.flatMap fun row => readAll (String.ofList row.text)) ++
          readAll (String.ofList last)) ∧
    (∀ (front back : List EndedLine) (row : EndedLine) (last : List Char),
      ofLine? row.text = none →
        readAll (String.ofList (EndedLine.textOf (front ++ row :: back) ++ last)) =
          readAll (String.ofList (EndedLine.textOf (front ++ back) ++ last))) ∧
    (∀ text : List Char,
      readAll (String.ofList (unifyLineEnds text)) = readAll (String.ofList text)) ∧
    ∀ bytes : List UInt8,
      readAll (decodeOutput bytes) = readAll (String.ofList (decodeUtf8 bytes)) := by
  have unified : ∀ text : List Char,
      readAll (String.ofList (unifyLineEnds text)) = readAll (String.ofList text) := by
    intro text
    rw [readAll_ofList, readAll_ofList, lines_unifyLineEnds]
  refine ⟨readAll_rows, ?_, unified, fun bytes => unified (decodeUtf8 bytes)⟩
  intro front back row last malformed
  have nothing : readAll (String.ofList row.text) = [] := by
    rw [readAll_line row.within, malformed]
    rfl
  rw [readAll_rows, readAll_rows, List.flatMap_append, List.flatMap_append, List.flatMap_cons,
    nothing, List.nil_append]

/-- A line that is ended by a line tabulation and begins with a digit, behind a line that is
ended by a carriage return and an empty one that is ended by a line feed. -/
def mergedRows : List EndedLine :=
  [ ⟨"interface".toList, ['\r'], by decide, .single rfl⟩,
    ⟨[], ['\n'], by decide, .single rfl⟩,
    ⟨"1 dlt".toList, ['\x0b'], by decide, .single rfl⟩ ]

theorem merged_rows_read :
    ofLine? "1 dlt".toList = none ∧
      readAll "interface\r\n1 dlt\x0bdlt" = readAll "interface\r\ndlt" ∧
      readAll "interface\r\n1 dlt\x0bdlt" =
        readAll "interface" ++ (readAll "" ++ (readAll "1 dlt" ++ [])) ++ readAll "dlt" := by
  obtain ⟨rows, malformed, -, -⟩ := answers_are_read_line_by_line
  refine ⟨rfl, ?_, ?_⟩
  · exact malformed (mergedRows.take 2) [] ⟨"1 dlt".toList, ['\x0b'], by decide, .single rfl⟩
      "dlt".toList rfl
  · exact rows mergedRows "dlt".toList

end ExtcapHost.Sentence
