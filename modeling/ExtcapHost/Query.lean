/-
Module: ExtcapHost.Query
Purpose: Asking the owner of an interface about it.
Main exports:
  Capabilities, askOwner, queryLinkTypes, queryArguments
-/
import ExtcapHost.AnswerReader
import ExtcapHost.Command
import ExtcapHost.Helper
import ExtcapHost.Registry

namespace ExtcapHost

variable {σ : Type}

/-- Ask the owner of an interface.  Nobody else is run, and nobody at all if the
interface has no owner. -/
def askOwner (host : HelperHost σ) (registry : Registry) (name flag : String) (machine : σ) :
    Except Fault String × σ :=
  match registry.lookup (some name) with
  | none =>
      (.error (.host (.query name (some "interface is not provided by any helper"))), machine)
  | some helper =>
      match runHelper host helper (queryCommand flag name) machine with
      | (.error (.host (.probe failed details)), machine) =>
          (.error (.host (.query name (some (HostError.probe failed details).text))), machine)
      | asked => asked

/-- The records in an answer.  An answer without any is a failed query, as is one
that cannot be read. -/
def recordsOf {α : Type} (name lacking : String) (read : String → Except Fault (List α))
    (answer : Except Fault String) : Except HostError (List α) :=
  match answer.bind read with
  | .ok [] => .error (.query name (some lacking))
  | .ok records => .ok records
  | .error (.host (.query asked details)) => .error (.query asked details)
  | .error fault => .error (.query name (some (unparsable fault)))

/-- What an interface can capture. -/
structure Capabilities where
  linkTypes : List LinkType
  canMonitor : Bool
deriving DecidableEq, Repr, Inhabited

/-- Ask for the link-layer types of an interface.  Helpers never offer monitor
mode. -/
def queryLinkTypes (host : HelperHost σ) (reader : AnswerReader) (registry : Registry)
    (name : String) (machine : σ) : Except HostError Capabilities × σ :=
  let (answer, machine) := askOwner host registry name linkTypesFlag machine
  ((recordsOf name "Extcap returned no DLTs" reader.linkTypes answer).map fun linkTypes =>
    ⟨linkTypes, false⟩, machine)

/-- Ask for the capture arguments of an interface. -/
def queryArguments (host : HelperHost σ) (reader : AnswerReader) (registry : Registry)
    (name : String) (machine : σ) : Except HostError (List Argument) × σ :=
  let (answer, machine) := askOwner host registry name argumentsFlag machine
  (recordsOf name "Extcap returned no configuration arguments" reader.arguments answer, machine)

end ExtcapHost
