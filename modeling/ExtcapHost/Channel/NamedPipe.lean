/-
Module: ExtcapHost.Channel.NamedPipe
Purpose: Channels that are named pipes.
Main exports:
  PipeRequest, PipeCalls, PipeSettings, pipeMaker
-/
import ExtcapHost.Channel.Basic
import ExtcapHost.Json.Value

namespace ExtcapHost

variable {σ : Type}

/-- A named pipe to be made: both directions, message by message, waiting, with a
handle that helpers inherit. -/
structure PipeRequest where
  path : String
  /-- Both directions. -/
  access : Nat
  /-- Written and read by messages; calls wait. -/
  mode : Nat
  instances : Json
  outBuffer : Json
  inBuffer : Json
  timeout : Json
  inherited : Bool
deriving Repr, Inhabited

/-- The calls on named pipes. -/
structure PipeCalls (σ : Type) where
  /-- Make a pipe and keep it open. -/
  create : PipeRequest → σ → Except Fault String × σ
  /-- Wait until all that was written has been read. -/
  flush : String → σ → Except Fault Unit × σ
  /-- Cut off whoever reads. -/
  disconnect : String → σ → Except Fault Unit × σ
  /-- Close the handle. -/
  close : String → σ → Except Fault Unit × σ

/-- How named pipes are named and sized. -/
structure PipeSettings where
  word : String
  instances : Json
  buffer : Json
  timeout : Json
deriving Repr, Inhabited

/-- Where named pipes live. -/
def pipeNamespace : String := "\\\\.\\pipe\\"

/-- The pipe could not be made. -/
def cannotMakePipe (path message : String) : HostError :=
  .channel ("Cannot create pipe " ++ path) (some message)

/-- The pipe to be made under a path. -/
def pipeRequest (settings : PipeSettings) (path : String) : PipeRequest where
  path := path
  access := 3
  mode := 6
  instances := settings.instances
  outBuffer := settings.buffer
  inBuffer := settings.buffer
  timeout := settings.timeout
  inherited := true

/-- Make a pipe with a unique name. -/
def makePipe (pipes : PipeCalls σ) (names : NameSource σ) (settings : PipeSettings)
    (machine : σ) : Except Fault Channel × σ :=
  let (name, machine) := names.next settings.word machine
  let path := pipeNamespace ++ name
  match pipes.create (pipeRequest settings path) machine with
  | (.ok handle, machine) => (.ok ⟨path, some handle⟩, machine)
  | (.error (.pipe message), machine) => (.error (.host (cannotMakePipe path message)), machine)
  | (.error fault, machine) => (.error fault, machine)

/-- Take steps on a handle in order.  A refusal by the pipe is passed over. -/
def takeSteps : List (σ → Except Fault Unit × σ) → σ → Except Fault Unit × σ
  | [], machine => (.ok (), machine)
  | step :: rest, machine =>
      match step machine with
      | (.ok _, machine) => takeSteps rest machine
      | (.error (.pipe _), machine) => takeSteps rest machine
      | (.error fault, machine) => (.error fault, machine)

/-- Close a pipe by its handle.  It may refuse to be flushed or disconnected when
nobody ever read from it. -/
def closePipe (pipes : PipeCalls σ) (handle : Option String) (machine : σ) :
    Except Fault Unit × σ :=
  match handle with
  | none => (.ok (), machine)
  | some handle =>
      takeSteps [pipes.flush handle, pipes.disconnect handle, pipes.close handle] machine

/-- Channels are named pipes. -/
def pipeMaker (pipes : PipeCalls σ) (names : NameSource σ) (settings : PipeSettings) :
    ChannelMaker σ where
  create machine := makePipe pipes names settings machine
  release _ handle machine := closePipe pipes handle machine

end ExtcapHost
