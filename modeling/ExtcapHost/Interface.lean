/-
Module: ExtcapHost.Interface
Purpose: The capture interfaces that a helper program offers.
Main exports:
  Interface, Interface.ofSentence?, Interface.readAll
-/
import ExtcapHost.Sentence

namespace ExtcapHost

/-- An interface by the name to call it and the name to show. -/
structure Interface where
  call : String
  display : String
deriving DecidableEq, Repr, Inhabited

namespace Interface

/-- The interface that a sentence offers.  Without a name to show, its call name
is shown. -/
def ofSentence? (sentence : Sentence) : Option Interface :=
  if sentence.kind = "interface" then
    match sentence.filled? "value" with
    | some call => some { call, display := (sentence.parameter? "display").getD call }
    | none => none
  else
    none

/-- The interfaces of a helper's answer. -/
def readAll (output : String) : List Interface :=
  (Sentence.readAll output).filterMap ofSentence?

end Interface

end ExtcapHost
