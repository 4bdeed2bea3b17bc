/-
Module: ExtcapHost.Proofs.Argument
Purpose: Arguments that are written as sentences are read back with all that is
  known of them.
Main exports:
  Argument.sentences, Argument.Writable, Argument.ofSentence?_sentence,
  Argument.attach_of_distinct, Argument.readAll_write
-/
import Mathlib.Data.List.TakeWhile
import ExtcapHost.Argument
import ExtcapHost.Proofs.Sentence.Writing

namespace ExtcapHost

namespace ArgumentKind

theorem ofText_word (kind : ArgumentKind) : ofText kind.word = kind := by
  cases kind <;> decide

theorem word_isValue (kind : ArgumentKind) : Sentence.IsValue kind.word := by
  cases kind <;> decide

end ArgumentKind

namespace ValueRange

/-- The bounds with a comma between them. -/
def written (range : ValueRange) : String :=
  match range.stop with
  | none => range.start
  | some stop => String.ofList (range.start.toList ++ ',' :: stop.toList)

/-- A range that can be written: its bounds have no blanks around them, the lower
one has no comma, and the upper one is not empty. -/
structure Writable (range : ValueRange) : Prop where
  start : Sentence.IsValue range.start
  startTrimmed : Text.trim range.start.toList = range.start.toList
  startWhole : ',' ∉ range.start.toList
  stop : ∀ stop ∈ range.stop, Sentence.IsValue stop
  stopTrimmed : ∀ stop ∈ range.stop, Text.trim stop.toList = stop.toList
  stopPresent : ∀ stop ∈ range.stop, stop ≠ ""

theorem ofText_written {range : ValueRange} (writable : range.Writable) :
    ofText range.written = range := by
  obtain ⟨start, stop⟩ := range
  have whole : ∀ c ∈ start.toList, decide (c ≠ ',') = true := by
    intro c member
    apply decide_eq_true
    rintro rfl
    exact writable.startWhole member
  cases stop with
  | none =>
      have rest : start.toList.dropWhile (fun c => decide (c ≠ ',')) = [] :=
        List.dropWhile_eq_nil_iff.mpr whole
      have first : start.toList.takeWhile (fun c => decide (c ≠ ',')) = start.toList :=
        List.takeWhile_eq_self_iff.mpr whole
      simp only [ofText, written, rest, first, writable.startTrimmed, String.ofList_toList]
      rfl
  | some stop =>
      have comma : decide (',' ≠ ',') = false := rfl
      have trimmed : Text.trim stop.toList = stop.toList := writable.stopTrimmed stop rfl
      simp only [ofText, written, String.toList_ofList, takeWhile_append_stop whole comma,
        dropWhile_append_stop whole comma, writable.startTrimmed, String.ofList_toList,
        List.drop_succ_cons, List.drop_zero, trimmed]
      split
      next empty => exact absurd (String.toList_eq_nil_iff.mp empty) (writable.stopPresent stop rfl)
      next => rw [String.ofList_toList]

theorem written_isValue {range : ValueRange} (writable : range.Writable) :
    Sentence.IsValue range.written := by
  obtain ⟨start, stop⟩ := range
  cases stop with
  | none => exact writable.start
  | some stop =>
      have before := writable.start
      have after := writable.stop stop rfl
      constructor
      · intro c member
        rw [written, String.toList_ofList, List.mem_append, List.mem_cons] at member
        rcases member with front | rfl | back
        · exact before.letters c front
        · rfl
        · exact after.letters c back
      · intro c member
        rw [written, String.toList_ofList, List.mem_append, List.mem_cons] at member
        rcases member with front | rfl | back
        · exact before.within c front
        · rfl
        · exact after.within c back

end ValueRange

namespace Choice

/-- What a sentence says of a choice of an argument number. -/
def fields (number : Int) (choice : Choice) : List (String × Option String) :=
  [("arg", some (String.ofList (Text.writeInteger number))),
    ("value", some choice.value),
    ("display", some choice.display),
    ("default", if choice.isDefault then some "true" else none)]

def sentence (number : Int) (choice : Choice) : Sentence :=
  .ofFields "value" (choice.fields number)

structure Writable (choice : Choice) : Prop where
  value : Sentence.IsValue choice.value
  display : Sentence.IsValue choice.display

theorem keys_fields (number : Int) (choice : Choice) :
    Ordered.keys (choice.fields number) = ["arg", "value", "display", "default"] := rfl

theorem parameter?_sentence (number : Int) (choice : Choice) (key : String) :
    (choice.sentence number).parameter? key = (Ordered.get? key (choice.fields number)).join :=
  Sentence.parameter?_ofFields (by rw [keys_fields]; decide) "value" key

theorem sentence_writable {choice : Choice} (writable : choice.Writable) (number : Int) :
    (choice.sentence number).Writable := by
  apply Sentence.ofFields_writable
  · decide
  · rw [keys_fields]
    decide
  · simp only [fields, List.forall_mem_cons, Option.mem_def, Option.some.injEq, forall_eq']
    refine ⟨Sentence.writeInteger_isValue _, writable.value, writable.display, ?_, nofun⟩
    intro text made
    split at made
    · cases made
      decide
    · cases made
  · rw [keys_fields]
    decide

theorem ofSentence?_sentence {number : Int}
    (short : (Text.writeNatural number.natAbs).length ≤ Text.digitLimit) (choice : Choice) :
    ofSentence? (choice.sentence number) = some (number, choice) := by
  have owner : (choice.sentence number).integer? "arg" = some number :=
    Sentence.integer?_of_written (parameter?_sentence number choice "arg") short
  have value : (choice.sentence number).parameter? "value" = some choice.value :=
    parameter?_sentence number choice "value"
  have display : (choice.sentence number).parameter? "display" = some choice.display :=
    parameter?_sentence number choice "display"
  have isDefault : decide (Text.lower
      (((choice.sentence number).parameter? "default").getD "").toList = "true".toList) =
        choice.isDefault := by
    have field : (choice.sentence number).parameter? "default" =
        if choice.isDefault then some "true" else none :=
      parameter?_sentence number choice "default"
    rw [field]
    cases choice.isDefault <;> decide
  have isChoice : (choice.sentence number).kind = "value" := rfl
  simp only [ofSentence?, isChoice, if_true, owner, value, display, isDefault, Option.getD_some]

end Choice

namespace Argument

/-- What a sentence says of an argument. -/
def fields (argument : Argument) : List (String × Option String) :=
  [("number", some (String.ofList (Text.writeInteger argument.number))),
    ("call", some argument.call),
    ("display", some argument.display),
    ("type", some argument.kind.word),
    ("tooltip", argument.tooltip),
    ("range", argument.range.map ValueRange.written),
    ("default", argument.default)]

def sentence (argument : Argument) : Sentence :=
  .ofFields "arg" argument.fields

/-- The sentence of an argument, and those of its choices behind it. -/
def sentences (argument : Argument) : List Sentence :=
  argument.sentence :: argument.choices.map (Choice.sentence argument.number)

/-- Arguments as an answer of a helper, one sentence a line. -/
def writeAll (arguments : List Argument) : String :=
  String.ofList (Text.terminated ((arguments.flatMap sentences).map Sentence.written))

/-- An argument that can be written. -/
structure Writable (argument : Argument) : Prop where
  short : (Text.writeNatural argument.number.natAbs).length ≤ Text.digitLimit
  called : argument.call ≠ ""
  call : Sentence.IsValue argument.call
  display : Sentence.IsValue argument.display
  tooltip : ∀ tooltip ∈ argument.tooltip, Sentence.IsValue tooltip
  range : ∀ range ∈ argument.range, range.Writable
  default : ∀ default ∈ argument.default, Sentence.IsValue default
  choices : ∀ choice ∈ argument.choices, choice.Writable

theorem keys_fields (argument : Argument) : Ordered.keys argument.fields =
    ["number", "call", "display", "type", "tooltip", "range", "default"] := rfl

theorem parameter?_sentence (argument : Argument) (key : String) :
    argument.sentence.parameter? key = (Ordered.get? key argument.fields).join :=
  Sentence.parameter?_ofFields (by rw [keys_fields]; decide) "arg" key

theorem sentence_writable {argument : Argument} (writable : argument.Writable) :
    argument.sentence.Writable := by
  apply Sentence.ofFields_writable
  · decide
  · rw [keys_fields]
    decide
  · simp only [fields, List.forall_mem_cons, Option.mem_def, Option.some.injEq, forall_eq']
    refine ⟨Sentence.writeInteger_isValue _, writable.call, writable.display,
      argument.kind.word_isValue, writable.tooltip, ?_, writable.default, nofun⟩
    intro text made
    obtain ⟨range, given, rfl⟩ := Option.map_eq_some_iff.mp made
    exact ValueRange.written_isValue (writable.range range given)
  · rw [keys_fields]
    decide

theorem ofSentence?_sentence {argument : Argument} (writable : argument.Writable) :
    ofSentence? argument.sentence = some { argument with choices := [] } := by
  have number : argument.sentence.integer? "number" = some argument.number :=
    Sentence.integer?_of_written (parameter?_sentence argument "number") writable.short
  have call : argument.sentence.filled? "call" = some argument.call :=
    Sentence.filled?_of_ne_empty (parameter?_sentence argument "call") writable.called
  have range : (argument.range.map ValueRange.written).map ValueRange.ofText = argument.range := by
    cases given : argument.range with
    | none => rfl
    | some range => exact congrArg some (ValueRange.ofText_written (writable.range range given))
  have isArgument : argument.sentence.kind = "arg" := rfl
  simp only [ofSentence?, isArgument, if_true, number, call, parameter?_sentence]
  have kind : ArgumentKind.ofText (((Ordered.get? "type" argument.fields).join).getD "") =
      argument.kind := ArgumentKind.ofText_word argument.kind
  have bounds : ((Ordered.get? "range" argument.fields).join).map ValueRange.ofText =
      argument.range := range
  rw [kind, bounds]
  rfl

/-! ### Choices find their arguments -/

theorem choicesOf_append (number : Int) (front back : List (Int × Choice)) :
    choicesOf number (front ++ back) = choicesOf number front ++ choicesOf number back := by
  rw [choicesOf, List.filter_append, List.map_append]
  rfl

/-- The choices of all arguments, each after the number of its argument. -/
def allChoices (arguments : List Argument) : List (Int × Choice) :=
  arguments.flatMap fun argument => argument.choices.map fun choice => (argument.number, choice)

theorem choicesOf_own (number : Int) (choices : List Choice) :
    choicesOf number (choices.map fun choice => (number, choice)) = choices := by
  have all : ∀ pair ∈ choices.map fun choice => (number, choice),
      decide (pair.1 = number) = true := by
    intro pair member
    obtain ⟨choice, -, rfl⟩ := List.mem_map.mp member
    exact decide_eq_true rfl
  rw [choicesOf, List.filter_eq_self.mpr all, List.map_map]
  exact List.map_id choices

theorem choicesOf_of_absent {number : Int} {choices : List (Int × Choice)}
    (absent : ∀ pair ∈ choices, pair.1 ≠ number) : choicesOf number choices = [] := by
  have none : choices.filter (fun pair => pair.1 = number) = [] := by
    apply List.filter_eq_nil_iff.mpr
    intro pair member own
    exact absent pair member (of_decide_eq_true own)
  rw [choicesOf, none]
  rfl

theorem mem_allChoices {arguments : List Argument} {pair : Int × Choice}
    (member : pair ∈ allChoices arguments) :
    pair.1 ∈ arguments.map fun argument => argument.number := by
  obtain ⟨argument, present, inside⟩ := List.mem_flatMap.mp member
  obtain ⟨choice, -, rfl⟩ := List.mem_map.mp inside
  exact List.mem_map.mpr ⟨argument, present, rfl⟩

theorem choicesOf_allChoices {arguments : List Argument}
    (distinct : (arguments.map fun argument => argument.number).Nodup) {argument : Argument}
    (present : argument ∈ arguments) :
    choicesOf argument.number (allChoices arguments) = argument.choices := by
  induction arguments with
  | nil => cases present
  | cons first rest ih =>
      rw [List.map_cons, List.nodup_cons] at distinct
      rw [allChoices, List.flatMap_cons, choicesOf_append]
      rcases List.mem_cons.mp present with rfl | later
      · have elsewhere : choicesOf argument.number (allChoices rest) = [] := by
          apply choicesOf_of_absent
          intro pair member same
          exact distinct.1 (same ▸ mem_allChoices member)
        rw [choicesOf_own, ← allChoices, elsewhere, List.append_nil]
      · have different : first.number ≠ argument.number := by
          intro same
          exact distinct.1 (List.mem_map.mpr ⟨argument, later, same.symm⟩)
        have elsewhere : choicesOf argument.number
            (first.choices.map fun choice => (first.number, choice)) = [] := by
          apply choicesOf_of_absent
          intro pair member
          obtain ⟨choice, -, rfl⟩ := List.mem_map.mp member
          exact different
        rw [elsewhere, List.nil_append]
        exact ih distinct.2 later

/-- Arguments with numbers of their own take their choices each. -/
theorem attach_of_distinct {choices : List (Int × Choice)} {arguments : List Argument}
    {taken : List Int} (distinct : (arguments.map fun argument => argument.number).Nodup)
    (free : ∀ argument ∈ arguments, argument.number ∉ taken) :
    attach choices taken arguments = arguments.map fun argument =>
      { argument with choices := argument.choices ++ choicesOf argument.number choices } := by
  induction arguments generalizing taken with
  | nil => rfl
  | cons argument rest ih =>
      rw [List.map_cons, List.nodup_cons] at distinct
      rw [attach, if_neg (free argument (.head _)), ih distinct.2, List.map_cons]
      intro later member inTaken
      rcases List.mem_cons.mp inTaken with same | before
      · exact distinct.1 (List.mem_map.mpr ⟨later, member, same⟩)
      · exact free later (.tail _ member) before

/-! ### Whole answers -/

theorem sentences_writable {argument : Argument} (writable : argument.Writable) :
    ∀ sentence ∈ argument.sentences, sentence.Writable := by
  intro sentence member
  rcases List.mem_cons.mp member with rfl | inChoices
  · exact sentence_writable writable
  · obtain ⟨choice, present, rfl⟩ := List.mem_map.mp inChoices
    exact Choice.sentence_writable (writable.choices choice present) argument.number

theorem filterMap_ofSentence? {argument : Argument} (writable : argument.Writable) :
    argument.sentences.filterMap ofSentence? = [{ argument with choices := [] }] := by
  have none : (argument.choices.map (Choice.sentence argument.number)).filterMap ofSentence? =
      [] := by
    apply List.filterMap_eq_nil_iff.mpr
    intro sentence member
    obtain ⟨choice, -, rfl⟩ := List.mem_map.mp member
    rfl
  rw [sentences, List.filterMap_cons_some (ofSentence?_sentence writable), none]

theorem filterMap_choice {argument : Argument} (writable : argument.Writable) :
    argument.sentences.filterMap Choice.ofSentence? =
      argument.choices.map fun choice => (argument.number, choice) := by
  have none : Choice.ofSentence? argument.sentence = none := rfl
  rw [sentences, List.filterMap_cons_none none, List.filterMap_map]
  apply List.filterMap_eq_map_iff_forall_eq_some.mpr
  intro choice _
  rw [Function.comp_apply]
  exact Choice.ofSentence?_sentence writable.short choice

/-- Arguments with numbers of their own are read back from the lines that they are
written on, with every field and every choice in order. -/
theorem readAll_writeAll {arguments : List Argument}
    (writable : ∀ argument ∈ arguments, argument.Writable)
    (distinct : (arguments.map fun argument => argument.number).Nodup) :
    readAll (writeAll arguments) = arguments := by
  have read : Sentence.readAll (writeAll arguments) = arguments.flatMap sentences := by
    apply Sentence.readAll_written
    intro sentence member
    obtain ⟨argument, present, inside⟩ := List.mem_flatMap.mp member
    exact sentences_writable (writable argument present) sentence inside
  have bare : (arguments.flatMap sentences).filterMap ofSentence? =
      arguments.map fun argument => { argument with choices := [] } := by
    rw [List.filterMap_flatMap, List.map_eq_flatMap]
    exact List.flatMap_congr fun argument present =>
      filterMap_ofSentence? (writable argument present)
  have choices : (arguments.flatMap sentences).filterMap Choice.ofSentence? =
      allChoices arguments := by
    rw [List.filterMap_flatMap]
    exact List.flatMap_congr fun argument present => filterMap_choice (writable argument present)
  have own : ∀ argument ∈ arguments,
      { argument with choices := choicesOf argument.number (allChoices arguments) } =
        id argument := by
    intro argument present
    rw [choicesOf_allChoices distinct present]
    rfl
  have numbers : ((arguments.map fun argument => { argument with choices := [] }).map
      fun argument => argument.number) = arguments.map fun argument => argument.number := by
    rw [List.map_map]
    rfl
  simp only [readAll, read, bare, choices]
  rw [attach_of_distinct (by rw [numbers]; exact distinct) fun _ _ => List.not_mem_nil,
    List.map_map]
  exact (List.map_congr_left own).trans (List.map_id arguments)

/-- Two arguments with empty, missing and misleading texts. -/
def delayAndRemote : List Argument :=
  [⟨0, "--delay", "Delay \x7bs=", .integer, some "", some ⟨"1", some "15,5"⟩,
      some "5 = \x7bfive", []⟩,
    ⟨-12, "--remote", "", .selector, none, some ⟨"", none⟩, none,
      [⟨"if1", "Remote, 1", true⟩, ⟨"", "\x7bdefault=true", false⟩]⟩]

theorem delayAndRemote_writable : ∀ argument ∈ delayAndRemote, argument.Writable := by
  have delay : ValueRange.Writable ⟨"1", some "15,5"⟩ := by constructor <;> decide
  have remote : ValueRange.Writable ⟨"", none⟩ := by constructor <;> decide
  have first : Choice.Writable ⟨"if1", "Remote, 1", true⟩ := ⟨by decide, by decide⟩
  have second : Choice.Writable ⟨"", "\x7bdefault=true", false⟩ := ⟨by decide, by decide⟩
  simp only [delayAndRemote, List.forall_mem_cons]
  refine ⟨?_, ?_, List.forall_mem_nil _⟩
  · constructor
    · simp [Text.writeNatural, Text.digitLimit]
    · decide
    · decide
    · decide
    · decide
    · rintro range ⟨⟩
      exact delay
    · decide
    · exact List.forall_mem_nil _
  · constructor
    · simp [Text.writeNatural, Text.digitLimit]
    · decide
    · decide
    · decide
    · decide
    · rintro range ⟨⟩
      exact remote
    · decide
    · simp only [List.forall_mem_cons]
      exact ⟨first, second, List.forall_mem_nil _⟩

theorem delayAndRemote_read :
    (∀ argument ∈ delayAndRemote, argument.Writable) ∧
      (delayAndRemote.map fun argument => argument.number).Nodup ∧
        readAll (writeAll delayAndRemote) = delayAndRemote :=
  ⟨delayAndRemote_writable, by decide,
    readAll_writeAll delayAndRemote_writable (by decide)⟩

end Argument

end ExtcapHost
