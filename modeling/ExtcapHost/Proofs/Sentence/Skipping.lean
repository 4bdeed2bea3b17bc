/-
Module: ExtcapHost.Proofs.Sentence.Skipping
Purpose: Lines that begin with other words than those of a record are passed over.
Main exports:
  Sentence.leadingWord, Sentence.leadingLetters, Sentence.RunsOn, Sentence.Avoids,
  Sentence.lines_of_other_words_are_skipped
-/
import Mathlib.Data.List.TakeWhile
import ExtcapHost.Argument
import ExtcapHost.Interface
import ExtcapHost.LinkType
import ExtcapHost.Proofs.Sentence.Writing

/-!
The kind of a line is made of the letters that it begins with, whatever comes behind them.
So a line is passed over when these letters are not a word that is known.  They are all of
its first word unless that word runs on with another character, such as a digit; then the
line is read as if a blank stood before that character.
-/

namespace ExtcapHost

namespace Sentence

/-! ### What a line begins with -/

/-- The first word of a line.  It ends at a blank or at an opening brace. -/
def leadingWord (line : List Char) : List Char :=
  (Text.trimStart line).takeWhile fun c => !Text.isBlank c && c != '{'

/-- The letters that a line begins with. -/
def leadingLetters (line : List Char) : List Char :=
  (Text.trimStart line).takeWhile isKindLetter

/-- What follows the letters that a line begins with. -/
def afterLetters (line : List Char) : List Char :=
  (Text.trimStart line).dropWhile isKindLetter

/-- The first word of a line is a known word, and then runs on with a character that is in
no word. -/
def RunsOn (word : String) (line : List Char) : Prop :=
  ∃ letters c tail, leadingWord line = letters ++ c :: tail ∧
    Text.lower letters = word.toList ∧ (∀ d ∈ letters, isKindLetter d = true) ∧
      isKindLetter c = false

/-- The first word of a line is not that word, and does not run on from it either. -/
structure Avoids (word : String) (line : List Char) : Prop where
  other : Text.lower (leadingWord line) ≠ word.toList
  apart : ¬RunsOn word line

theorem leadingLetters_letters {line : List Char} :
    ∀ c ∈ leadingLetters line, isKindLetter c = true :=
  fun _ member => List.mem_takeWhile_imp member

/-- The letters belong to the first word. -/
theorem leadingLetters_eq (line : List Char) :
    leadingLetters line = (leadingWord line).takeWhile isKindLetter := by
  have inside : (fun c => decide (isKindLetter c = true ∧
      (!Text.isBlank c && c != '{') = true)) = isKindLetter := by
    funext c
    cases letter : isKindLetter c with
    | false => simp
    | true =>
        have unblank := isBlank_of_isKindLetter letter
        have notBrace : c ≠ '{' := by
          rintro rfl
          cases letter
        simp [unblank, notBrace]
  rw [leadingLetters, leadingWord, List.takeWhile_takeWhile, inside]

/-- A first word that avoids a word does not begin with its letters. -/
theorem Avoids.leadingLetters_ne {word : String} {line : List Char} (avoids : Avoids word line) :
    Text.lower (leadingLetters line) ≠ word.toList := by
  intro same
  -- Either the letters are the whole word, or the word runs on behind them.
  cases rest : (leadingWord line).dropWhile isKindLetter with
  | nil =>
      apply avoids.other
      rw [← same, leadingLetters_eq]
      congr 1
      exact (List.takeWhile_eq_self_iff.mpr (List.dropWhile_eq_nil_iff.mp rest)).symm
  | cons c tail =>
      apply avoids.apart
      refine ⟨leadingLetters line, c, tail, ?_, same, leadingLetters_letters, ?_⟩
      · rw [leadingLetters_eq, ← rest, List.takeWhile_append_dropWhile]
      · have stops := List.head?_dropWhile_not isKindLetter (leadingWord line)
        rw [rest] at stops
        exact stops

/-- The letters are the kind of the sentence. -/
theorem kind_of_ofLine? {line : List Char} {sentence : Sentence}
    (read : ofLine? line = some sentence) :
    sentence.kind.toList = Text.lower (leadingLetters line) := by
  simp only [ofLine?] at read
  rw [← leadingLetters] at read
  split at read
  · cases read
  · rename_i first more letters
    cases read
    rw [String.toList_ofList, letters]

/-! ### Lines without records -/

variable {α : Type} {record : Sentence → Option α}

/-- A line holds no record whose sentences are all of one kind, if its letters are another
word. -/
theorem bind_ofLine?_eq_none {word : String} {line : List Char}
    (own : ∀ sentence, (record sentence).isSome = true → sentence.kind = word)
    (other : Text.lower (leadingLetters line) ≠ word.toList) :
    (ofLine? line).bind record = none := by
  cases read : ofLine? line with
  | none => rfl
  | some sentence =>
      cases found : record sentence with
      | none => exact found
      | some value =>
          have kind := kind_of_ofLine? read
          rw [own sentence (by rw [found]; rfl)] at kind
          exact absurd kind.symm other

/-- The records of an answer, line by line. -/
theorem filterMap_readAll (output : String) :
    (readAll output).filterMap record =
      (Text.lines output.toList).filterMap fun line => (ofLine? line).bind record := by
  rw [readAll, List.filterMap_filterMap]

/-- A line without a record makes no difference. -/
theorem filterMap_readAll_of_skipped {output shorter : String} {front back : List (List Char)}
    {line : List Char} (whole : Text.lines output.toList = front ++ line :: back)
    (without : Text.lines shorter.toList = front ++ back)
    (skipped : (ofLine? line).bind record = none) :
    (readAll output).filterMap record = (readAll shorter).filterMap record := by
  have none : [line].filterMap (fun line => (ofLine? line).bind record) = [] :=
    List.filterMap_cons_none skipped
  rw [filterMap_readAll, filterMap_readAll, whole, without, List.append_cons,
    List.filterMap_append, List.filterMap_append, none, List.append_nil, List.filterMap_append]

end Sentence

theorem Interface.kind_of_isSome {sentence : Sentence}
    (read : (ofSentence? sentence).isSome = true) : sentence.kind = "interface" := by
  unfold ofSentence? at read
  split at read
  · assumption
  · cases read

theorem LinkType.kind_of_isSome {sentence : Sentence}
    (read : (ofSentence? sentence).isSome = true) : sentence.kind = "dlt" := by
  unfold ofSentence? at read
  split at read
  · assumption
  · cases read

theorem Choice.kind_of_isSome {sentence : Sentence}
    (read : (ofSentence? sentence).isSome = true) : sentence.kind = "value" := by
  unfold ofSentence? at read
  split at read
  · assumption
  · cases read

theorem Argument.kind_of_isSome {sentence : Sentence}
    (read : (ofSentence? sentence).isSome = true) : sentence.kind = "arg" := by
  unfold ofSentence? at read
  split at read
  · assumption
  · cases read

namespace Sentence

theorem ofLine?_of_letters {line : List Char} (present : leadingLetters line ≠ []) :
    ofLine? line =
      some
        { kind := String.ofList (Text.lower (leadingLetters line))
          parameters := readParameters (afterLetters line) } := by
  obtain ⟨first, more, split⟩ := List.exists_cons_of_ne_nil present
  rw [ofLine?, ← leadingLetters, split]
  rfl

/-- A blank behind the letters makes no difference. -/
theorem ofLine?_insert_blank {line : List Char} (present : leadingLetters line ≠ []) :
    ofLine? (leadingLetters line ++ ' ' :: afterLetters line) = ofLine? line := by
  have blank : readParameters (' ' :: afterLetters line) = readParameters (afterLetters line) := by
    rw [readParameters, scanParameters_of_none rfl]
    rfl
  rw [ofLine?_of_kind present leadingLetters_letters rfl, ofLine?_of_letters present, blank]

/-- A line whose first word runs on from a word is read as if a blank stood behind that
word. -/
theorem ofLine?_of_runsOn {word : String} {line : List Char} (filled : word ≠ "")
    (runsOn : RunsOn word line) :
    ∃ letters rest, Text.trimStart line = letters ++ rest ∧
      Text.lower letters = word.toList ∧ ofLine? line = ofLine? (letters ++ ' ' :: rest) := by
  obtain ⟨letters, c, tail, split, same, all, stops⟩ := runsOn
  have start : leadingLetters line = letters := by
    rw [leadingLetters_eq, split, takeWhile_append_stop all stops]
  rw [← start] at same
  have present : leadingLetters line ≠ [] := by
    intro none
    rw [none] at same
    exact filled (String.toList_eq_nil_iff.mp same.symm)
  exact ⟨leadingLetters line, afterLetters line,
    (List.takeWhile_append_dropWhile (p := isKindLetter)).symm, same,
    (ofLine?_insert_blank present).symm⟩

/-- A line whose first word is none of the words of a record, and does not run on from one,
can be left out: the records of the answer are the same.  If the first word runs on from a
word, the line is read as if a blank stood behind that word. -/
theorem lines_of_other_words_are_skipped {output shorter : String} {front back : List (List Char)}
    {line : List Char} (whole : Text.lines output.toList = front ++ line :: back)
    (without : Text.lines shorter.toList = front ++ back) :
    (Avoids "interface" line → Interface.readAll output = Interface.readAll shorter) ∧
      (Avoids "dlt" line → LinkType.readAll output = LinkType.readAll shorter) ∧
      (Avoids "arg" line → Avoids "value" line →
        Argument.readAll output = Argument.readAll shorter) ∧
      ∀ word, word ≠ "" → RunsOn word line →
        ∃ letters rest, Text.trimStart line = letters ++ rest ∧
          Text.lower letters = word.toList ∧
            ofLine? line = ofLine? (letters ++ ' ' :: rest) := by
  refine ⟨?_, ?_, ?_, fun word filled runsOn => ofLine?_of_runsOn filled runsOn⟩
  · intro avoids
    have skipped : (ofLine? line).bind Interface.ofSentence? = none :=
      bind_ofLine?_eq_none (fun _ => Interface.kind_of_isSome) avoids.leadingLetters_ne
    exact filterMap_readAll_of_skipped whole without skipped
  · intro avoids
    have skipped : (ofLine? line).bind LinkType.ofSentence? = none :=
      bind_ofLine?_eq_none (fun _ => LinkType.kind_of_isSome) avoids.leadingLetters_ne
    exact filterMap_readAll_of_skipped whole without skipped
  · intro avoidsArgument avoidsValue
    have skippedArgument : (ofLine? line).bind Argument.ofSentence? = none :=
      bind_ofLine?_eq_none (fun _ => Argument.kind_of_isSome) avoidsArgument.leadingLetters_ne
    have skippedChoice : (ofLine? line).bind Choice.ofSentence? = none :=
      bind_ofLine?_eq_none (fun _ => Choice.kind_of_isSome) avoidsValue.leadingLetters_ne
    simp only [Argument.readAll]
    rw [filterMap_readAll_of_skipped whole without skippedArgument,
      filterMap_readAll_of_skipped whole without skippedChoice]

/-- One letter more makes another word. -/
theorem interfaces_line_skipped :
    let line := "interfaces \x7bvalue=b\x7d".toList
    let other := "interface \x7bvalue=a\x7d".toList
    let output := String.ofList (Text.terminated [line, other])
    let shorter := String.ofList (Text.terminated [other])
    Text.lines output.toList = [] ++ line :: [other] ∧
      Text.lines shorter.toList = [] ++ [other] ∧
      Avoids "interface" line ∧ Interface.readAll output = Interface.readAll shorter := by
  intro line other output shorter
  have isLine : Text.IsLine line := by decide
  have otherIsLine : Text.IsLine other := by decide
  have whole : Text.lines output.toList = [] ++ line :: [other] := by
    rw [String.toList_ofList]
    exact Text.lines_terminated (by simp [isLine, otherIsLine])
  have without : Text.lines shorter.toList = [] ++ [other] := by
    rw [String.toList_ofList]
    exact Text.lines_terminated (by simp [otherIsLine])
  have word : leadingWord line = "interfaces".toList := rfl
  have letters : ∀ c ∈ "interfaces".toList, isKindLetter c = true := List.all_eq_true.mp rfl
  have avoids : Avoids "interface" line := by
    constructor
    · rw [word]
      decide
    · rintro ⟨front, c, tail, split, -, -, stops⟩
      rw [word] at split
      have letter := letters c (by rw [split]; simp)
      rw [letter] at stops
      cases stops
  exact ⟨whole, without, avoids, (lines_of_other_words_are_skipped whole without).1 avoids⟩

/-- A digit makes another word too, but the line is read. -/
theorem interface1_line_read :
    let line := "interface1 \x7bvalue=a\x7d".toList
    Text.lines "interface1 \x7bvalue=a\x7d".toList = [line] ∧
      Text.lower (leadingWord line) = "interface1".toList ∧
      Text.lower (leadingWord line) ≠ "interface".toList ∧
      Interface.readAll "interface1 \x7bvalue=a\x7d" = [⟨"a", "a"⟩] := by
  intro line
  have lines : Text.lines "interface1 \x7bvalue=a\x7d".toList = [line] := rfl
  refine ⟨lines, rfl, by decide, ?_⟩
  have value : parameterAt? "\x7bvalue=a\x7d".toList =
      some ⟨"value".toList, "a".toList, []⟩ := rfl
  have parameters : readParameters "1 \x7bvalue=a\x7d".toList = [("value", "a")] := by
    have digit : parameterAt? ('1' :: " \x7bvalue=a\x7d".toList) = none := rfl
    have blank : parameterAt? (' ' :: "\x7bvalue=a\x7d".toList) = none := rfl
    have scanned : scanParameters "1 \x7bvalue=a\x7d".toList =
        [("value".toList, "a".toList)] := by
      calc scanParameters ('1' :: ' ' :: "\x7bvalue=a\x7d".toList)
          = scanParameters (' ' :: "\x7bvalue=a\x7d".toList) := scanParameters_of_none digit
        _ = scanParameters "\x7bvalue=a\x7d".toList := scanParameters_of_none blank
        _ = ("value".toList, "a".toList) :: scanParameters [] := scanParameters_of_some value
        _ = [("value".toList, "a".toList)] := by rw [scanParameters_nil]
    rw [readParameters, scanned]
    rfl
  have read : ofLine? line = some ⟨"interface", [("value", "a")]⟩ := by
    have after : afterLetters line = "1 \x7bvalue=a\x7d".toList := rfl
    rw [ofLine?_of_letters (by decide), after, parameters]
    rfl
  rw [Interface.readAll, readAll, lines]
  simp only [List.filterMap, read]
  rfl

end Sentence

end ExtcapHost
