/-
Module: ExtcapHost.AnswerReader
Purpose: How the answers of helpers are read.
Main exports:
  AnswerReader, AnswerReader.sentences, AnswerReader.refusing
-/
import ExtcapHost.Argument
import ExtcapHost.Fault
import ExtcapHost.Interface
import ExtcapHost.LinkType

namespace ExtcapHost

/-- Three ways to read an answer, one for each question.  Each may fail. -/
structure AnswerReader where
  interfaces : String → Except Fault (List Interface)
  linkTypes : String → Except Fault (List LinkType)
  arguments : String → Except Fault (List Argument)

namespace AnswerReader

/-- Answers are sentences.  Reading them never fails. -/
def sentences : AnswerReader where
  interfaces output := .ok (Interface.readAll output)
  linkTypes output := .ok (LinkType.readAll output)
  arguments output := .ok (Argument.readAll output)

/-- No answer can be read, for one and the same reason. -/
def refusing (fault : Fault) : AnswerReader where
  interfaces _ := .error fault
  linkTypes _ := .error fault
  arguments _ := .error fault

end AnswerReader

/-- The reason why a readable answer was expected and none came. -/
def unparsable (fault : Fault) : String :=
  framed "unparsable output (" fault.text ")"

end ExtcapHost
