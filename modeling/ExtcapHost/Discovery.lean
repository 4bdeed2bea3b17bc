/-
Module: ExtcapHost.Discovery
Purpose: Asking all helpers of a directory, and recording who owns which interface.
Main exports:
  Outcome, probeHelpers, Discovered, adopt, Survey, discover
-/
import ExtcapHost.AnswerReader
import ExtcapHost.Command
import ExtcapHost.Helper
import ExtcapHost.Journal
import ExtcapHost.Registry

namespace ExtcapHost

variable {σ : Type}

/-- What a helper that exited with status zero wrote. -/
structure Outcome where
  helper : String
  output : String
deriving DecidableEq, Repr, Inhabited

/-- A failed probe as a message. -/
def probeNote (error : HostError) : Note :=
  ⟨.info, error.text⟩

/-- What a row of probes came to. -/
structure Probes (σ : Type) where
  result : Except Fault (List Outcome)
  journal : List Note
  machine : σ

/-- Run the helpers in order with the same arguments until as many as wanted have
answered.  A helper that fails is told of and passed over. -/
def probeEach (host : HelperHost σ) (arguments : List String) :
    List String → Option Nat → σ → Probes σ
  | _, some 0, machine => ⟨.ok [], [], machine⟩
  | [], _, machine => ⟨.ok [], [], machine⟩
  | helper :: rest, wanted, machine =>
      match runHelper host helper arguments machine with
      | (.ok output, machine) =>
          let later := probeEach host arguments rest (wanted.map (· - 1)) machine
          { later with result := later.result.map (⟨helper, output⟩ :: ·) }
      | (.error (.host (.probe failed details)), machine) =>
          let later := probeEach host arguments rest wanted machine
          { later with journal := probeNote (.probe failed details) :: later.journal }
      | (.error fault, machine) => ⟨.error fault, [], machine⟩

/-- Probe the helpers of a directory.  Where no answer is wanted, the directory
is not even read. -/
def probeHelpers (host : HelperHost σ) (directory : String) (arguments : List String)
    (wanted : Option Nat) (machine : σ) : Probes σ :=
  if wanted = some 0 then
    ⟨.ok [], [], machine⟩
  else
    match listHelpers host directory machine with
    | .ok helpers => probeEach host arguments helpers wanted machine
    | .error fault => ⟨.error fault, [], machine⟩

/-- An interface that was found, and the helper that owns it. -/
structure Discovered where
  name : String
  display : String
  helper : String
deriving DecidableEq, Repr, Inhabited

/-- What became of the interfaces that one helper offers. -/
structure Adoption where
  records : List Discovered
  registry : Registry
  journal : List Note

/-- Record a helper as the owner of the interfaces it offers.  Whoever offered a
name first owns it: a second helper with that name is told of, and a second offer
of the owner changes nothing. -/
def adopt (helper : String) : List Interface → Registry → Adoption
  | [], registry => ⟨[], registry, []⟩
  | interface :: rest, registry =>
      match registry.lookup (some interface.call) with
      | some owner =>
          let later := adopt helper rest registry
          if owner = helper then
            later
          else
            { later with
              journal :=
                ⟨.warning, "Extcap interface \"" ++ interface.call ++
                  "\" is already provided by \"" ++ owner ++ "\""⟩ :: later.journal }
      | none =>
          let later := adopt helper rest (registry.register (some interface.call) helper).2
          { later with records := ⟨interface.call, interface.display, helper⟩ :: later.records }

/-- What a search for interfaces came to. -/
structure Survey (σ : Type) where
  result : Except Fault (List Discovered)
  registry : Registry
  journal : List Note
  machine : σ

/-- Ask the helpers in order for their interfaces and adopt what they offer. -/
def discoverEach (host : HelperHost σ) (reader : AnswerReader) :
    List String → Registry → σ → Survey σ
  | [], registry, machine => ⟨.ok [], registry, [], machine⟩
  | helper :: rest, registry, machine =>
      match runHelper host helper interfacesCommand machine with
      | (.ok output, machine) =>
          match reader.interfaces output with
          | .ok interfaces =>
              let adopted := adopt helper interfaces registry
              let later := discoverEach host reader rest adopted.registry machine
              { later with
                result := later.result.map (adopted.records ++ ·)
                journal := adopted.journal ++ later.journal }
          | .error fault =>
              let later := discoverEach host reader rest registry machine
              { later with
                journal := probeNote (.probe helper (some (unparsable fault))) :: later.journal }
      | (.error (.host (.probe failed details)), machine) =>
          let later := discoverEach host reader rest registry machine
          { later with journal := probeNote (.probe failed details) :: later.journal }
      | (.error fault, machine) => ⟨.error fault, registry, [], machine⟩

/-- Search a directory for interfaces.  Whatever was registered before is
forgotten, unless the directory has no absolute path: then there is no search. -/
def discover (host : HelperHost σ) (reader : AnswerReader) (directory : String)
    (before : Registry) (machine : σ) : Survey σ :=
  match host.absolute directory with
  | .error fault => ⟨.error fault, before, [], machine⟩
  | .ok path =>
      match listHelpers host path machine with
      | .ok helpers => discoverEach host reader helpers .empty machine
      | .error fault => ⟨.error fault, .empty, [], machine⟩

end ExtcapHost
