/-
Module: ExtcapHost.Proofs.Sentence.Mixed
Purpose: Interfaces and link-layer types are read back from an answer in which their
  sentences stand among each other and among other lines.
Main exports:
  Interface.sentence, Interface.Writable, LinkType.sentence, LinkType.Writable, AnswerLine,
  AnswerLine.Proper, mixed_answer_read
-/
import ExtcapHost.Proofs.Sentence.Skipping

/-!
Each line of an answer is read for itself.  So it is enough to know of every line what one
reader finds in it: its own record in a line that was written for it, and nothing in any
other line.
-/

namespace ExtcapHost

namespace Interface

/-- What a sentence says of an interface. -/
def fields (interface : Interface) : List (String × Option String) :=
  [("value", some interface.call), ("display", some interface.display)]

def sentence (interface : Interface) : Sentence :=
  .ofFields "interface" interface.fields

/-- An interface that can be written. -/
structure Writable (interface : Interface) : Prop where
  called : interface.call ≠ ""
  call : Sentence.IsValue interface.call
  display : Sentence.IsValue interface.display

theorem keys_fields (interface : Interface) :
    Ordered.keys interface.fields = ["value", "display"] := rfl

theorem parameter?_sentence (interface : Interface) (key : String) :
    interface.sentence.parameter? key = (Ordered.get? key interface.fields).join :=
  Sentence.parameter?_ofFields (by rw [keys_fields]; decide) "interface" key

theorem sentence_writable {interface : Interface} (writable : interface.Writable) :
    interface.sentence.Writable := by
  apply Sentence.ofFields_writable
  · decide
  · rw [keys_fields]
    decide
  · simp only [fields, List.forall_mem_cons, Option.mem_def, Option.some.injEq, forall_eq']
    exact ⟨writable.call, writable.display, nofun⟩
  · rw [keys_fields]
    decide

theorem ofSentence?_sentence {interface : Interface} (called : interface.call ≠ "") :
    ofSentence? interface.sentence = some interface := by
  have call : interface.sentence.filled? "value" = some interface.call :=
    Sentence.filled?_of_ne_empty (parameter?_sentence interface "value") called
  have display : interface.sentence.parameter? "display" = some interface.display :=
    parameter?_sentence interface "display"
  have isInterface : interface.sentence.kind = "interface" := rfl
  simp only [ofSentence?, isInterface, if_true, call, display, Option.getD_some]

end Interface

namespace LinkType

/-- What a sentence says of a link-layer type. -/
def fields (linkType : LinkType) : List (String × Option String) :=
  [("number", some (String.ofList (Text.writeInteger linkType.number))),
    ("name", some linkType.name),
    ("display", some linkType.description)]

def sentence (linkType : LinkType) : Sentence :=
  .ofFields "dlt" linkType.fields

/-- A link-layer type that can be written. -/
structure Writable (linkType : LinkType) : Prop where
  short : (Text.writeNatural linkType.number.natAbs).length ≤ Text.digitLimit
  named : linkType.name ≠ ""
  name : Sentence.IsValue linkType.name
  description : Sentence.IsValue linkType.description

theorem keys_fields (linkType : LinkType) :
    Ordered.keys linkType.fields = ["number", "name", "display"] := rfl

theorem parameter?_sentence (linkType : LinkType) (key : String) :
    linkType.sentence.parameter? key = (Ordered.get? key linkType.fields).join :=
  Sentence.parameter?_ofFields (by rw [keys_fields]; decide) "dlt" key

theorem sentence_writable {linkType : LinkType} (writable : linkType.Writable) :
    linkType.sentence.Writable := by
  apply Sentence.ofFields_writable
  · decide
  · rw [keys_fields]
    decide
  · simp only [fields, List.forall_mem_cons, Option.mem_def, Option.some.injEq, forall_eq']
    exact ⟨Sentence.writeInteger_isValue _, writable.name, writable.description, nofun⟩
  · rw [keys_fields]
    decide

theorem ofSentence?_sentence {linkType : LinkType} (writable : linkType.Writable) :
    ofSentence? linkType.sentence = some linkType := by
  have number : linkType.sentence.integer? "number" = some linkType.number :=
    Sentence.integer?_of_written (parameter?_sentence linkType "number") writable.short
  have name : linkType.sentence.filled? "name" = some linkType.name :=
    Sentence.filled?_of_ne_empty (parameter?_sentence linkType "name") writable.named
  have description : linkType.sentence.parameter? "display" = some linkType.description :=
    parameter?_sentence linkType "display"
  have isLinkType : linkType.sentence.kind = "dlt" := rfl
  simp only [ofSentence?, isLinkType, if_true, number, name, description, Option.getD_some]

end LinkType

/-! ### Lines of an answer -/

/-- A line of an answer: the sentence of an interface or of a link-layer type, or some text
that is neither. -/
inductive AnswerLine where
  | interface (offered : Interface)
  | linkType (offered : LinkType)
  | noise (text : List Char)
deriving DecidableEq, Repr

namespace AnswerLine

/-- The text of the line. -/
def text : AnswerLine → List Char
  | .interface offered => offered.sentence.written
  | .linkType offered => offered.sentence.written
  | .noise text => text

/-- The interface that the line was written for. -/
def interface? : AnswerLine → Option Interface
  | .interface offered => some offered
  | _ => none

/-- The link-layer type that the line was written for. -/
def linkType? : AnswerLine → Option LinkType
  | .linkType offered => some offered
  | _ => none

/-- What a line must be like to be read back.  Noise begins neither with one of the two words
nor runs on from one; it may begin with no letters at all. -/
inductive Proper : AnswerLine → Prop where
  | interface {offered : Interface} (writable : offered.Writable) : Proper (.interface offered)
  | linkType {offered : LinkType} (writable : offered.Writable) : Proper (.linkType offered)
  | noise {text : List Char} (within : Text.IsLine text)
      (noInterface : Text.lower (Sentence.leadingLetters text) ≠ "interface".toList)
      (noLinkType : Text.lower (Sentence.leadingLetters text) ≠ "dlt".toList) :
      Proper (.noise text)

theorem Proper.isLine {line : AnswerLine} (proper : line.Proper) : Text.IsLine line.text := by
  cases proper with
  | interface writable => exact Sentence.written_isLine (Interface.sentence_writable writable)
  | linkType writable => exact Sentence.written_isLine (LinkType.sentence_writable writable)
  | noise within => exact within

/-- The reader of interfaces finds the interface that the line was written for. -/
theorem Proper.interface_read {line : AnswerLine} (proper : line.Proper) :
    (Sentence.ofLine? line.text).bind Interface.ofSentence? = line.interface? := by
  cases proper with
  | interface writable =>
      rw [text, Sentence.ofLine?_written (Interface.sentence_writable writable)]
      exact Interface.ofSentence?_sentence writable.called
  | linkType writable =>
      rw [text, Sentence.ofLine?_written (LinkType.sentence_writable writable)]
      rfl
  | noise _ noInterface _ =>
      exact Sentence.bind_ofLine?_eq_none (fun _ => Interface.kind_of_isSome) noInterface

/-- The reader of link-layer types finds the one that the line was written for. -/
theorem Proper.linkType_read {line : AnswerLine} (proper : line.Proper) :
    (Sentence.ofLine? line.text).bind LinkType.ofSentence? = line.linkType? := by
  cases proper with
  | interface writable =>
      rw [text, Sentence.ofLine?_written (Interface.sentence_writable writable)]
      rfl
  | linkType writable =>
      rw [text, Sentence.ofLine?_written (LinkType.sentence_writable writable)]
      exact LinkType.ofSentence?_sentence writable
  | noise _ _ noLinkType =>
      exact Sentence.bind_ofLine?_eq_none (fun _ => LinkType.kind_of_isSome) noLinkType

end AnswerLine

/-- Interfaces and link-layer types that are written in any order, and with any noise
between them, are all read back in order, from every answer that has these lines.  There is
such an answer. -/
theorem mixed_answer_read {lines : List AnswerLine} (proper : ∀ line ∈ lines, line.Proper) :
    Text.lines (Text.terminated (lines.map AnswerLine.text)) = lines.map AnswerLine.text ∧
      ∀ output : String, Text.lines output.toList = lines.map AnswerLine.text →
        Interface.readAll output = lines.filterMap AnswerLine.interface? ∧
          LinkType.readAll output = lines.filterMap AnswerLine.linkType? := by
  constructor
  · apply Text.lines_terminated
    intro text member
    obtain ⟨line, present, rfl⟩ := List.mem_map.mp member
    exact (proper line present).isLine
  · intro output cut
    constructor
    · rw [Interface.readAll, Sentence.filterMap_readAll, cut, List.filterMap_map]
      exact List.filterMap_congr fun line present => (proper line present).interface_read
    · rw [LinkType.readAll, Sentence.filterMap_readAll, cut, List.filterMap_map]
      exact List.filterMap_congr fun line present => (proper line present).linkType_read

/-- Hard lines: an interface that comes twice, braces and blanks in texts, an empty name to
show, a negative number, and noise that looks like a record. -/
def hardLines : List AnswerLine :=
  [.interface ⟨"a\x7b=b ", ""⟩, .noise "  \x7bvalue=x\x7d".toList,
    .linkType ⟨-147, " \x7bname=", "="⟩, .noise "interfaces \x7bvalue=b\x7d".toList,
    .interface ⟨"a\x7b=b ", ""⟩, .noise []]

theorem hardLines_proper : ∀ line ∈ hardLines, line.Proper := by
  have interface : Interface.Writable ⟨"a\x7b=b ", ""⟩ := by constructor <;> decide
  have linkType : LinkType.Writable ⟨-147, " \x7bname=", "="⟩ := by
    constructor
    · simp [Text.writeNatural, Text.digitLimit]
    · decide
    · decide
    · decide
  simp only [hardLines, List.forall_mem_cons]
  refine ⟨.interface interface, ?_, .linkType linkType, ?_, .interface interface, ?_,
    List.forall_mem_nil _⟩
  · exact .noise (by decide) (by decide) (by decide)
  · exact .noise (by decide) (by decide) (by decide)
  · exact .noise (by decide) (by decide) (by decide)

theorem hardLines_read :
    (∀ line ∈ hardLines, line.Proper) ∧
      Interface.readAll (String.ofList (Text.terminated (hardLines.map AnswerLine.text))) =
        [⟨"a\x7b=b ", ""⟩, ⟨"a\x7b=b ", ""⟩] ∧
      LinkType.readAll (String.ofList (Text.terminated (hardLines.map AnswerLine.text))) =
        [⟨-147, " \x7bname=", "="⟩] := by
  obtain ⟨cut, read⟩ := mixed_answer_read hardLines_proper
  rw [← String.toList_ofList (l := Text.terminated (hardLines.map AnswerLine.text))] at cut
  exact ⟨hardLines_proper, read _ cut⟩

end ExtcapHost
