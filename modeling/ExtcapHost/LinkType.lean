/-
Module: ExtcapHost.LinkType
Purpose: The link-layer types that an interface can deliver.
Main exports:
  LinkType, LinkType.ofSentence?, LinkType.readAll
-/
import ExtcapHost.Sentence

namespace ExtcapHost

/-- A link-layer type by its number, its name, and a description. -/
structure LinkType where
  number : Int
  name : String
  description : String
deriving DecidableEq, Repr, Inhabited

namespace LinkType

/-- The link-layer type that a sentence states.  Without a description, its name
is shown. -/
def ofSentence? (sentence : Sentence) : Option LinkType :=
  if sentence.kind = "dlt" then
    match sentence.integer? "number", sentence.filled? "name" with
    | some number, some name =>
        some { number, name, description := (sentence.parameter? "display").getD name }
    | _, _ => none
  else
    none

/-- The link-layer types of a helper's answer. -/
def readAll (output : String) : List LinkType :=
  (Sentence.readAll output).filterMap ofSentence?

end LinkType

end ExtcapHost
