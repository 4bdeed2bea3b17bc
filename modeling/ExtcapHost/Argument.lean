/-
Module: ExtcapHost.Argument
Purpose: The arguments that an interface accepts for a capture.
Main exports:
  ArgumentKind, Choice, ValueRange, Argument, Argument.attach, Argument.readAll
-/
import ExtcapHost.Sentence

namespace ExtcapHost

/-- What kind of value an argument takes. -/
inductive ArgumentKind where
  | integer
  | unsigned
  | long
  | double
  | boolean
  | boolflag
  | menu
  | radio
  | selector
  | string
  | password
  | fileselect
  | multicheck
  | unknown
deriving DecidableEq, Repr, Inhabited

namespace ArgumentKind

/-- All kinds. -/
def all : List ArgumentKind :=
  [.integer, .unsigned, .long, .double, .boolean, .boolflag, .menu, .radio, .selector,
    .string, .password, .fileselect, .multicheck, .unknown]

/-- The word for a kind. -/
def word : ArgumentKind → String
  | .integer => "integer"
  | .unsigned => "unsigned"
  | .long => "long"
  | .double => "double"
  | .boolean => "boolean"
  | .boolflag => "boolflag"
  | .menu => "menu"
  | .radio => "radio"
  | .selector => "selector"
  | .string => "string"
  | .password => "password"
  | .fileselect => "fileselect"
  | .multicheck => "multicheck"
  | .unknown => "unknown"

/-- The kind that a text names, in letters of either case and with blanks around
it; unknown if it names none. -/
def ofText (text : String) : ArgumentKind :=
  let name := String.ofList (Text.lower (Text.trim text.toList))
  (all.find? fun kind => kind.word = name).getD .unknown

end ArgumentKind

/-- One of the values an argument can be chosen from. -/
structure Choice where
  value : String
  display : String
  isDefault : Bool
deriving DecidableEq, Repr, Inhabited

namespace Choice

/-- The choice that a sentence states, after the number of its argument. -/
def ofSentence? (sentence : Sentence) : Option (Int × Choice) :=
  if sentence.kind = "value" then
    match sentence.integer? "arg", sentence.parameter? "value" with
    | some number, some value =>
        some
          (number,
            { value
              display := (sentence.parameter? "display").getD value
              isDefault :=
                Text.lower ((sentence.parameter? "default").getD "").toList = "true".toList })
    | _, _ => none
  else
    none

end Choice

/-- The bounds of an argument's value; the upper one may be missing. -/
structure ValueRange where
  start : String
  stop : Option String
deriving DecidableEq, Repr, Inhabited

namespace ValueRange

/-- The bounds before and after the first comma, without the blanks around
them. -/
def ofText (text : String) : ValueRange :=
  let start := text.toList.takeWhile (· ≠ ',')
  let stop := (text.toList.dropWhile (· ≠ ',')).drop 1
  { start := String.ofList (Text.trim start)
    stop :=
      match Text.trim stop with
      | [] => none
      | bound => some (String.ofList bound) }

end ValueRange

/-- An argument of an interface: its number, the flag that sets it, and what is
known of its values. -/
structure Argument where
  number : Int
  call : String
  display : String
  kind : ArgumentKind
  tooltip : Option String
  range : Option ValueRange
  default : Option String
  choices : List Choice
deriving DecidableEq, Repr, Inhabited

namespace Argument

/-- The argument that a sentence states, still without choices. -/
def ofSentence? (sentence : Sentence) : Option Argument :=
  if sentence.kind = "arg" then
    match sentence.integer? "number", sentence.filled? "call" with
    | some number, some call =>
        some
          { number
            call
            display := (sentence.parameter? "display").getD call
            kind := ArgumentKind.ofText ((sentence.parameter? "type").getD "")
            tooltip := sentence.parameter? "tooltip"
            range := (sentence.parameter? "range").map ValueRange.ofText
            default := sentence.parameter? "default"
            choices := [] }
    | _, _ => none
  else
    none

/-- The choices of one argument number. -/
def choicesOf (number : Int) (choices : List (Int × Choice)) : List Choice :=
  (choices.filter fun choice => choice.1 = number).map fun choice => choice.2

/-- Give every argument its choices.  Of arguments with one number, the first
takes them all; `taken` holds the numbers of the arguments before. -/
def attach (choices : List (Int × Choice)) : List Int → List Argument → List Argument
  | _, [] => []
  | taken, argument :: rest =>
      if argument.number ∈ taken then
        argument :: attach choices taken rest
      else
        { argument with choices := argument.choices ++ choicesOf argument.number choices } ::
          attach choices (argument.number :: taken) rest

/-- The arguments of a helper's answer.  Choices find their argument by its
number, wherever they stand. -/
def readAll (output : String) : List Argument :=
  let sentences := Sentence.readAll output
  attach (sentences.filterMap Choice.ofSentence?) [] (sentences.filterMap ofSentence?)

end Argument

end ExtcapHost
