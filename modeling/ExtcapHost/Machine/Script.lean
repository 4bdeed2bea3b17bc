/-
Module: ExtcapHost.Machine.Script
Purpose: Helper programs that answer by a script.
Main exports:
  Answer, Script, Script.answer
-/
import ExtcapHost.Command

namespace ExtcapHost

/-- What a program writes, and the status it ends with: an exit status, or the
number of a signal, negative. -/
structure Answer where
  output : List UInt8
  status : Int
deriving DecidableEq, Repr, Inhabited

namespace Answer

/-- Nothing is written, and all is well. -/
def silent : Answer := ⟨[], 0⟩

/-- The status that the system reports: an exit status has eight bits. -/
def reported (answer : Answer) : Int :=
  if answer.status < 0 then answer.status else answer.status % 256

end Answer

/-- The answers of a helper to the three questions.  Answers about interfaces
stand with the name of one, or with none and are then for all. -/
structure Script where
  interfaces : Answer
  linkTypes : List (Option String × Answer)
  arguments : List (Option String × Answer)
deriving DecidableEq, Repr, Inhabited

namespace Script

/-- The first answer for a name. -/
def select (name : String) (answers : List (Option String × Answer)) : Answer :=
  match answers.find? fun answer => answer.1.all (· = name) with
  | some answer => answer.2
  | none => .silent

/-- The answer to a command line.  To anything but the three questions there is
none.  The name that a question is about comes third; it is empty if it is missing. -/
def answer (script : Script) (arguments : List String) : Answer :=
  match arguments with
  | [] => .silent
  | flag :: _ =>
      if flag = interfacesFlag then script.interfaces
      else if flag = linkTypesFlag then select (arguments.getD 2 "") script.linkTypes
      else if flag = argumentsFlag then select (arguments.getD 2 "") script.arguments
      else .silent

end Script

end ExtcapHost
