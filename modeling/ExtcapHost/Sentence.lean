/-
Module: ExtcapHost.Sentence
Purpose: The sentences in which a helper program answers.
Main exports:
  Sentence, Sentence.scanParameters, Sentence.ofLine?, Sentence.readAll,
  Sentence.parameter?, Sentence.integer?
-/
import ExtcapHost.Ordered
import ExtcapHost.Text.Blank
import ExtcapHost.Text.Integer
import ExtcapHost.Text.Line
import ExtcapHost.Text.Lowercase

/-!
A helper answers with one sentence per line: a kind, which is a word of letters
and underscores, and parameters between braces, each a key, an equals sign and a
value.  Whatever stands between the parameters does not count, and a line
without a kind is no sentence.
-/

namespace ExtcapHost

/-- A line of an answer: its kind in small letters, and its parameters in order
of first writing. -/
structure Sentence where
  kind : String
  parameters : List (String × String)
deriving DecidableEq, Repr, Inhabited

namespace Sentence

/-- The characters of a sentence's kind. -/
def isKindLetter (c : Char) : Bool :=
  ('A' ≤ c && c ≤ 'Z') || ('a' ≤ c && c ≤ 'z') || c == '_'

/-- The characters of a parameter's key. -/
def isKeyLetter (c : Char) : Bool :=
  c != '=' && c != '}'

/-- The characters of a parameter's value. -/
def isValueLetter (c : Char) : Bool :=
  c != '}'

/-- A key, its value, and the text after the closing brace. -/
structure ScannedParameter where
  key : List Char
  value : List Char
  rest : List Char
deriving DecidableEq, Repr

/-- The parameter that begins right at the front of a text.  Its key is not
empty. -/
def parameterAt? : List Char → Option ScannedParameter
  | '{' :: text =>
      match text.takeWhile isKeyLetter, text.dropWhile isKeyLetter with
      | first :: more, '=' :: tail =>
          match tail.dropWhile isValueLetter with
          | '}' :: rest => some ⟨first :: more, tail.takeWhile isValueLetter, rest⟩
          | _ => none
      | _, _ => none
  | _ => none

/-- A parameter takes up text. -/
theorem parameterAt?_shorter {text : List Char} {found : ScannedParameter}
    (scanned : parameterAt? text = some found) :
    found.rest.length < text.length := by
  unfold parameterAt? at scanned
  split at scanned
  · rename_i text
    split at scanned
    · rename_i first more tail _ drops
      split at scanned
      · rename_i rest closes
        cases scanned
        have keyDrops := (List.dropWhile_sublist isKeyLetter (l := text)).length_le
        have valueDrops := (List.dropWhile_sublist isValueLetter (l := tail)).length_le
        rw [drops] at keyDrops
        rw [closes] at valueDrops
        simp only [List.length_cons] at keyDrops valueDrops ⊢
        omega
      · cases scanned
    · cases scanned
  · cases scanned

/-- The parameters of a text from left to right: at each place either one begins,
or the place is passed over. -/
def scanParameters (text : List Char) : List (List Char × List Char) :=
  match scanned : parameterAt? text with
  | some found =>
      have : found.rest.length < text.length := parameterAt?_shorter scanned
      (found.key, found.value) :: scanParameters found.rest
  | none =>
      match text with
      | [] => []
      | _ :: rest => scanParameters rest
termination_by text.length

/-- The parameters of a text, their keys without the blanks around them.  A key
that comes again keeps its place and takes its last value. -/
def readParameters (text : List Char) : List (String × String) :=
  Ordered.ofPairs ((scanParameters text).map fun pair =>
    (String.ofList (Text.trim pair.1), String.ofList pair.2))

/-- The sentence on a line. -/
def ofLine? (line : List Char) : Option Sentence :=
  let body := Text.trimStart line
  match body.takeWhile isKindLetter with
  | [] => none
  | first :: more =>
      some
        { kind := String.ofList (Text.lower (first :: more))
          parameters := readParameters (body.dropWhile isKindLetter) }

/-- All sentences of a helper's answer. -/
def readAll (output : String) : List Sentence :=
  (Text.lines output.toList).filterMap ofLine?

/-- The value of a parameter. -/
def parameter? (sentence : Sentence) (key : String) : Option String :=
  Ordered.get? key sentence.parameters

/-- The value of a parameter that may not be empty. -/
def filled? (sentence : Sentence) (key : String) : Option String :=
  match sentence.parameter? key with
  | some "" => none
  | found => found

/-- The value of a parameter that must be an integer. -/
def integer? (sentence : Sentence) (key : String) : Option Int :=
  (sentence.parameter? key).bind fun value => Text.readInteger value.toList

end Sentence

end ExtcapHost
