/-
Module: ExtcapHost.Proofs.Argument.Attachment
Purpose: A choice goes to the first argument of its number, wherever the two stand.
Main exports:
  Sentence.statesArgument, Sentence.statesChoice, Argument.getElem?_attach,
  Argument.allChoices_attach, Argument.choices_go_by_number
-/
import ExtcapHost.Proofs.Argument

/-!
An answer states arguments and choices in any order.  Which sentences count is decided
sentence by sentence; what becomes of a choice is decided by its number alone, since the
arguments are numbered before any choice is given away.
-/

namespace ExtcapHost

namespace Sentence

/-- The sentence states an argument: its number can be read, and its flag is not empty. -/
def statesArgument (sentence : Sentence) : Bool :=
  sentence.kind = "arg" && (sentence.integer? "number").isSome &&
    (sentence.parameter? "call").any fun call => call ≠ ""

/-- The sentence states a choice: the number of its argument can be read, and it has a
value, which may be empty. -/
def statesChoice (sentence : Sentence) : Bool :=
  sentence.kind = "value" && (sentence.integer? "arg").isSome &&
    (sentence.parameter? "value").isSome

theorem filled?_isSome (sentence : Sentence) (key : String) :
    (sentence.filled? key).isSome =
      (sentence.parameter? key).any fun value => value ≠ "" := by
  unfold filled?
  split
  next empty => simp [empty]
  next found filled =>
    cases value : sentence.parameter? key with
    | none => rfl
    | some text =>
        have present : text ≠ "" := by
          rintro rfl
          exact filled value
        simp [present]

end Sentence

theorem Choice.ofSentence?_isSome (sentence : Sentence) :
    (ofSentence? sentence).isSome = sentence.statesChoice := by
  unfold ofSentence? Sentence.statesChoice
  by_cases isValue : sentence.kind = "value"
  · cases sentence.integer? "arg" <;> cases sentence.parameter? "value" <;> simp [isValue]
  · simp [isValue]

namespace Argument

theorem ofSentence?_isSome (sentence : Sentence) :
    (ofSentence? sentence).isSome = sentence.statesArgument := by
  unfold ofSentence? Sentence.statesArgument
  rw [← Sentence.filled?_isSome]
  by_cases isArgument : sentence.kind = "arg"
  · cases sentence.integer? "number" <;> cases sentence.filled? "call" <;> simp [isArgument]
  · simp [isArgument]

/-- An argument is stated without choices. -/
theorem choices_ofSentence? {sentence : Sentence} {argument : Argument}
    (stated : ofSentence? sentence = some argument) : argument.choices = [] := by
  unfold ofSentence? at stated
  split at stated
  · split at stated
    · cases stated
      rfl
    · cases stated
  · cases stated

/-! ### Who takes the choices -/

/-- The argument takes the choices of its number unless one before it, or one of the numbers
that are taken already, has the same number. -/
theorem getElem?_attach (choices : List (Int × Choice)) (taken : List Int)
    (arguments : List Argument) (index : Nat) :
    (attach choices taken arguments)[index]? =
      arguments[index]?.map fun argument =>
        if argument.number ∈ taken ++ (arguments.take index).map fun earlier => earlier.number then
          argument
        else
          { argument with
            choices := argument.choices ++ choicesOf argument.number choices } := by
  induction arguments generalizing taken index with
  | nil => rfl
  | cons first rest ih =>
      -- Behind the first argument its number is taken, whether or not it was before.
      have behind : ∀ (among : List Int) (index : Nat),
          (∀ number, number ∈ among ↔ number ∈ taken ∨ number = first.number) →
            ∀ number, number ∈ among ++ (rest.take index).map (·.number) ↔
              number ∈ taken ++ ((first :: rest).take (index + 1)).map (·.number) := by
        intro among index same number
        simp only [List.take_succ_cons, List.map_cons, List.mem_append, List.mem_cons, same,
          or_assoc]
      by_cases free : first.number ∈ taken
      · rw [attach, if_pos free]
        cases index with
        | zero => simp [free]
        | succ index =>
            have known := behind taken index fun number => by
              refine ⟨.inl, fun among => among.elim id ?_⟩
              rintro rfl
              exact free
            simp only [List.getElem?_cons_succ, ih, known]
      · rw [attach, if_neg free]
        cases index with
        | zero => simp [free]
        | succ index =>
            have known := behind (first.number :: taken) index fun number =>
              List.mem_cons.trans or_comm
            simp only [List.getElem?_cons_succ, ih, known]

theorem length_attach (choices : List (Int × Choice)) (taken : List Int)
    (arguments : List Argument) : (attach choices taken arguments).length = arguments.length := by
  induction arguments generalizing taken with
  | nil => rfl
  | cons first rest ih =>
      rw [attach]
      split <;> simp [ih]

/-! ### No choice is given away twice -/

/-- The choices of one number, each after that number. -/
theorem map_choicesOf (number : Int) (choices : List (Int × Choice)) :
    ((choicesOf number choices).map fun choice => (number, choice)) =
      choices.filter fun choice => choice.1 = number := by
  have same : ∀ choice ∈ choices.filter (fun choice => choice.1 = number),
      (number, choice.2) = id choice := by
    intro choice member
    rw [← of_decide_eq_true (List.mem_filter.mp member).2]
    rfl
  rw [choicesOf, List.map_map]
  exact (List.map_congr_left same).trans (List.map_id _)

/-- The choices of a number that some argument has, and of no number that is taken, are given
away once each, and no others. -/
theorem allChoices_attach (choices : List (Int × Choice)) (taken : List Int)
    {arguments : List Argument} (bare : ∀ argument ∈ arguments, argument.choices = []) :
    (allChoices (attach choices taken arguments)).Perm
      (choices.filter fun choice =>
        choice.1 ∈ arguments.map (fun argument => argument.number) ∧ choice.1 ∉ taken) := by
  induction arguments generalizing taken with
  | nil => simp [attach, allChoices]
  | cons first rest ih =>
      have alone : first.choices = [] := bare first (.head _)
      have later := fun taken => ih taken fun argument member => bare argument (.tail _ member)
      by_cases given : first.number ∈ taken
      · rw [attach, if_pos given, allChoices, List.flatMap_cons, alone, List.map_nil,
          List.nil_append]
        have same : choices.filter (fun choice =>
              choice.1 ∈ rest.map (fun argument => argument.number) ∧ choice.1 ∉ taken) =
            choices.filter fun choice =>
              choice.1 ∈ (first :: rest).map (fun argument => argument.number) ∧
                choice.1 ∉ taken := by
          apply List.filter_congr
          intro choice _
          have other : choice.1 ∉ taken → choice.1 ≠ first.number := by
            rintro absent equal
            exact absent (equal ▸ given)
          simp only [List.map_cons, List.mem_cons, decide_eq_decide]
          tauto
        rw [← same]
        exact later taken
      · rw [attach, if_neg given, allChoices, List.flatMap_cons, alone, List.nil_append,
          map_choicesOf]
        -- What is given away here has the number of the first argument, the rest has not.
        let wanted (choice : Int × Choice) : Bool :=
          choice.1 ∈ (first :: rest).map (fun argument => argument.number) ∧ choice.1 ∉ taken
        have here : choices.filter (fun choice => choice.1 = first.number) =
            (choices.filter wanted).filter fun choice => choice.1 = first.number := by
          rw [List.filter_filter]
          apply List.filter_congr
          rintro ⟨number, choice⟩ _
          by_cases own : number = first.number <;> simp [wanted, own, given]
        have behind : choices.filter (fun choice =>
              choice.1 ∈ rest.map (fun argument => argument.number) ∧
                choice.1 ∉ first.number :: taken) =
            (choices.filter wanted).filter fun choice => !decide (choice.1 = first.number) := by
          rw [List.filter_filter]
          apply List.filter_congr
          rintro ⟨number, choice⟩ _
          by_cases own : number = first.number <;> simp [wanted, own]
        rw [here]
        refine (List.Perm.append_left _ ?_).trans (List.filter_append_perm _ _)
        rw [← behind]
        exact later (first.number :: taken)

/-! ### Whole answers -/

/-- Reading keeps what the sentences that count come to, one after the other. -/
theorem filterMap_eq_of_isSome {α β : Type} {read : α → Option β} {counts : α → Bool}
    (decided : ∀ a, (read a).isSome = counts a) (items : List α) :
    (items.filterMap read).map some = (items.filter counts).map read := by
  induction items with
  | nil => rfl
  | cons item rest ih =>
      have told := decided item
      cases found : read item with
      | none =>
          rw [found] at told
          rw [List.filterMap_cons_none found, List.filter_cons_of_neg (by simp [← told]), ih]
      | some value =>
          rw [found] at told
          rw [List.filterMap_cons_some found, List.filter_cons_of_pos told.symm, List.map_cons,
            List.map_cons, found, ih]

/-- Only the sentences that count are needed for reading. -/
theorem filterMap_filter_of_isSome {α β : Type} {read : α → Option β} {counts : α → Bool}
    (decided : ∀ a, (read a).isSome = counts a) (items : List α) :
    (items.filter counts).filterMap read = items.filterMap read := by
  rw [List.filterMap_filter]
  apply List.filterMap_congr
  intro item _
  have told := decided item
  cases found : read item with
  | none => simp
  | some value =>
      rw [found] at told
      simp [← told]

/-- What an answer says of arguments: each sentence that states one gives one argument, in
order.  The choices of an argument are those of the sentences that state one of its number,
in order, if no argument before has the same number, and none otherwise.  So every choice
whose number some argument has is given away once, and no other is.  Where the sentences of
each kind stand among those of the other kind makes no difference. -/
theorem choices_go_by_number (output : String) :
    let sentences := Sentence.readAll output
    let stated := sentences.filterMap ofSentence?
    let offered := sentences.filterMap Choice.ofSentence?
    let read := readAll output
    stated.map some = (sentences.filter Sentence.statesArgument).map ofSentence? ∧
      offered.map some = (sentences.filter Sentence.statesChoice).map Choice.ofSentence? ∧
      read.length = stated.length ∧
      (∀ (index : Nat) (argument : Argument), stated[index]? = some argument →
        read[index]? = some
          { argument with
            choices :=
              if ∀ earlier ∈ stated.take index, earlier.number ≠ argument.number then
                (offered.filter fun choice => choice.1 = argument.number).map fun choice => choice.2
              else
                [] }) ∧
      (allChoices read).Perm
        (offered.filter fun choice =>
          choice.1 ∈ stated.map fun argument => argument.number) ∧
      ∀ other : String,
        (Sentence.readAll other).filter Sentence.statesArgument =
            sentences.filter Sentence.statesArgument →
          (Sentence.readAll other).filter Sentence.statesChoice =
              sentences.filter Sentence.statesChoice →
            readAll other = read := by
  intro sentences stated offered read
  have bare : ∀ argument ∈ stated, argument.choices = [] := by
    intro argument member
    obtain ⟨sentence, -, found⟩ := List.mem_filterMap.mp member
    exact choices_ofSentence? found
  refine ⟨filterMap_eq_of_isSome ofSentence?_isSome sentences,
    filterMap_eq_of_isSome Choice.ofSentence?_isSome sentences, length_attach _ _ _, ?_, ?_, ?_⟩
  · intro index argument found
    have alone := bare argument (List.mem_of_getElem? found)
    have attached : read[index]? = _ := getElem?_attach offered [] stated index
    rw [attached, found, Option.map_some, List.nil_append]
    by_cases first : ∀ earlier ∈ stated.take index, earlier.number ≠ argument.number
    · have untaken : argument.number ∉ (stated.take index).map fun earlier => earlier.number := by
        intro member
        obtain ⟨earlier, before, same⟩ := List.mem_map.mp member
        exact first earlier before same
      rw [if_neg untaken, if_pos first, alone, List.nil_append, choicesOf]
    · have repeated : argument.number ∈ (stated.take index).map fun earlier => earlier.number := by
        simpa [← List.map_take] using first
      rw [if_pos repeated, if_neg first, ← alone]
  · have given := allChoices_attach offered [] bare
    simp only [List.not_mem_nil, not_false_eq_true, and_true] at given
    exact given
  · intro other sameArguments sameChoices
    have arguments : (Sentence.readAll other).filterMap ofSentence? = stated := by
      rw [← filterMap_filter_of_isSome ofSentence?_isSome, sameArguments,
        filterMap_filter_of_isSome ofSentence?_isSome]
    have choices : (Sentence.readAll other).filterMap Choice.ofSentence? = offered := by
      rw [← filterMap_filter_of_isSome Choice.ofSentence?_isSome, sameChoices,
        filterMap_filter_of_isSome Choice.ofSentence?_isSome]
    simp only [readAll, arguments, choices, read]
    rfl

/-- Two arguments whose numbers are spelled differently and are the same, choices before and
behind them, and a choice of a number that no argument has. -/
def scattered : List Sentence :=
  [⟨"value", [("arg", "1"), ("value", "first")]⟩, ⟨"arg", [("number", "01"), ("call", "--one")]⟩,
    ⟨"value", [("arg", "2"), ("value", "lost")]⟩, ⟨"arg", [("number", "+1"), ("call", "--two")]⟩,
    ⟨"value", [("arg", "\u0661"), ("value", "")]⟩]

/-- The same sentences, with the choices behind the arguments. -/
def gathered : List Sentence :=
  [⟨"arg", [("number", "01"), ("call", "--one")]⟩, ⟨"arg", [("number", "+1"), ("call", "--two")]⟩,
    ⟨"value", [("arg", "1"), ("value", "first")]⟩, ⟨"value", [("arg", "2"), ("value", "lost")]⟩,
    ⟨"value", [("arg", "\u0661"), ("value", "")]⟩]

/-- The sentences as an answer, one a line. -/
def answerOf (sentences : List Sentence) : String :=
  String.ofList (Text.terminated (sentences.map Sentence.written))

/-- The first argument takes both choices of its number, the second one none, and it makes no
difference where the choices stand. -/
theorem scattered_choices_found :
    (readAll (answerOf scattered))[0]?.map (fun argument => argument.choices) =
        some [⟨"first", "first", false⟩, ⟨"", "", false⟩] ∧
      (readAll (answerOf scattered))[1]?.map (fun argument => argument.choices) = some [] ∧
      (Sentence.readAll (answerOf gathered)).filter Sentence.statesArgument =
        (Sentence.readAll (answerOf scattered)).filter Sentence.statesArgument ∧
      (Sentence.readAll (answerOf gathered)).filter Sentence.statesChoice =
        (Sentence.readAll (answerOf scattered)).filter Sentence.statesChoice ∧
      readAll (answerOf gathered) = readAll (answerOf scattered) := by
  have read : Sentence.readAll (answerOf scattered) = scattered :=
    Sentence.readAll_written (by decide)
  have readToo : Sentence.readAll (answerOf gathered) = gathered :=
    Sentence.readAll_written (by decide)
  obtain ⟨-, -, -, attached, -, moved⟩ := choices_go_by_number (answerOf scattered)
  rw [read] at attached moved ⊢
  rw [readToo]
  have arguments : gathered.filter Sentence.statesArgument =
      scattered.filter Sentence.statesArgument := by decide
  have choices : gathered.filter Sentence.statesChoice =
      scattered.filter Sentence.statesChoice := by decide
  refine ⟨?_, ?_, arguments, choices, moved (answerOf gathered) ?_ ?_⟩
  · rw [attached 0 _ rfl]
    decide
  · rw [attached 1 _ rfl]
    decide
  · rw [readToo, arguments]
  · rw [readToo, choices]

end Argument

end ExtcapHost
