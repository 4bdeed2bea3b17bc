/-
Module: ExtcapHost.Machine.Basic
Purpose: A machine in memory whose calls succeed and fail by a plan.
Main exports:
  SystemCall, Event, HelperCall, Machine, Machine.helperHost, Machine.kernel,
  Machine.channelCalls, Machine.plannedMaker
-/
import ExtcapHost.Channel.Platform
import ExtcapHost.Machine.FileTree
import ExtcapHost.Machine.Interpreter
import ExtcapHost.Machine.Processes

/-!
The machine keeps files, helper programs, temporary files and processes in one
value.  Whatever a real system would decide is laid down beforehand: which calls
fail, which numbers processes get, what time it is.  Everything that is done to
the machine is recorded.
-/

namespace ExtcapHost

/-- The calls that can be planned to fail. -/
inductive SystemCall where
  | reserve
  | close
  | remove
  | makeFifo
  | createPipe
  | flushPipe
  | disconnectPipe
  | closePipe
deriving DecidableEq, Repr, Inhabited

/-- What was done to the machine. -/
inductive Event where
  | reserved (path : String)
  | removed (path : String)
  | madeFifo (path : String)
  | createdPipe (request : PipeRequest)
  | flushedPipe (handle : String)
  | disconnectedPipe (handle : String)
  | closedPipe (handle : String)
  | spawned (argv : List String)
  | channelAsked
  | channelReleased (path handle : Option String)
deriving Repr, Inhabited

/-- A helper program that really ran. -/
structure HelperCall where
  helper : String
  arguments : List String
  /-- The directory it ran in, without links. -/
  directory : String
deriving DecidableEq, Repr, Inhabited

/-- A machine in memory. -/
structure Machine where
  tree : FileTree
  directory : WorkingDirectory
  helperCalls : List HelperCall
  /-- The time, as it stands in names. -/
  stamp : String
  /-- How many tokens were given out. -/
  tokens : Nat
  /-- The directories for temporary files. -/
  temporaryDirectories : List String
  /-- The temporary files and FIFOs. -/
  present : List String
  /-- How many names were reserved. -/
  reservations : Nat
  /-- A reserved name has a file. -/
  reservedFileStays : Bool
  /-- The planned failures, one for each coming call. -/
  failures : List (SystemCall × List (Option Fault))
  /-- Named pipes can be made. -/
  hasPipes : Bool
  /-- Named pipes are preferred. -/
  prefersPipes : Bool
  /-- How many named pipes were made. -/
  pipes : Nat
  /-- How deeply nested a value may be that is put into the name of a channel. -/
  wordDepth : Nat
  processes : ProcessTable
  /-- The planned outcomes of asking for channels, where these are planned. -/
  channelPlan : List (Except Fault Channel)
  /-- The planned outcomes of releasing channels. -/
  releasePlan : List (Option Fault)
  /-- How often the program has waited. -/
  naps : Nat
  /-- The seconds since the machine was started. -/
  clock : Binary64
  /-- Which processes end while the program waits: the count of waits, the number
  of the process, and its status. -/
  exitPlan : List (Nat × Int × Int)
  /-- From this wait on, the operator interrupts every one. -/
  interruptedNap : Nat
  events : List Event
deriving Inhabited

namespace Machine

/-- Record an event. -/
def record (machine : Machine) (event : Event) : Machine :=
  { machine with events := machine.events ++ [event] }

/-- The planned failure of the coming call, which is then used up. -/
def failure (machine : Machine) (call : SystemCall) : Option Fault × Machine :=
  match Ordered.get? call machine.failures with
  | some (next :: later) =>
      (next, { machine with failures := Ordered.put call later machine.failures })
  | _ => (none, machine)

/-- Fail by plan, or else go on. -/
def unlessFailing {α : Type} (machine : Machine) (call : SystemCall)
    (go : Machine → Except Fault α × Machine) : Except Fault α × Machine :=
  match machine.failure call with
  | (some fault, machine) => (.error fault, machine)
  | (none, machine) => go machine

/-- The temporary files in the order of their paths. -/
def sortedFiles (machine : Machine) : List String :=
  machine.present.mergeSort fun one two => decide (one ≤ two)

/-- A file is there from now on. -/
def addFile (machine : Machine) (path : String) : Machine :=
  { machine with present := if path ∈ machine.present then machine.present
                            else machine.present ++ [path] }

/-- Reserve a name in a directory. -/
def reserve (word directory : String) (machine : Machine) : Except Fault String × Machine :=
  machine.unlessFailing .reserve fun machine =>
    let count := machine.reservations + 1
    let machine := { machine with reservations := count }
    let path := directory ++ "/" ++ word ++
      String.ofList (Text.padLeft 4 '0' (Text.writeNatural count))
    if directory ∈ machine.temporaryDirectories then
      let machine := machine.record (.reserved path)
      (.ok path, if machine.reservedFileStays then machine.addFile path else machine)
    else
      (.error (.system (.noEntry path)), machine)

/-- Remove a temporary file. -/
def removeFile (path : String) (machine : Machine) : Except Fault Unit × Machine :=
  (machine.record (.removed path)).unlessFailing .remove fun machine =>
    if path ∈ machine.present then
      ((.ok () : Except Fault Unit), { machine with present := machine.present.erase path })
    else
      (.error (.system (.noEntry path)), machine)

/-- Make a FIFO.  Whoever uses the machine owns all of its files, so the permissions do not
matter. -/
def makeFifo (_mode : Nat) (path : String) (machine : Machine) : Except Fault Unit × Machine :=
  (machine.record (.madeFifo path)).unlessFailing .makeFifo fun machine =>
    ((.ok () : Except Fault Unit), machine.addFile path)

/-- Make a named pipe. -/
def createPipe (request : PipeRequest) (machine : Machine) : Except Fault String × Machine :=
  (machine.record (.createdPipe request)).unlessFailing .createPipe fun machine =>
    let count := machine.pipes + 1
    ((.ok ("H" ++ String.ofList (Text.writeNatural count)) : Except Fault String),
      { machine with pipes := count })

/-- A call on the handle of a named pipe. -/
def pipeStep (call : SystemCall) (event : String → Event) (handle : String)
    (machine : Machine) : Except Fault Unit × Machine :=
  (machine.record (event handle)).unlessFailing call fun machine => (.ok (), machine)

/-- The source of names: tokens are counted in eight hexadecimal digits. -/
def names : NameSource Machine where
  stamp machine := machine.stamp
  token machine :=
    let count := machine.tokens + 1
    (String.ofList (Text.padLeft 8 '0' (Text.writeHex count)), { machine with tokens := count })

/-- The calls on temporary files. -/
def files : FileCalls Machine where
  reserve := reserve
  close _ machine := machine.unlessFailing .close fun machine => (.ok (), machine)
  present machine path := path ∈ machine.present
  remove := removeFile
  makeFifo := makeFifo

/-- The calls on named pipes. -/
def pipeCalls : PipeCalls Machine where
  create := createPipe
  flush := pipeStep .flushPipe .flushedPipe
  disconnect := pipeStep .disconnectPipe .disconnectedPipe
  close := pipeStep .closePipe .closedPipe

/-- What channels are made with on this machine. -/
def channelCalls (machine : Machine) : ChannelCalls Machine where
  names := names
  files := files
  pipes := if machine.hasPipes then some pipeCalls else none
  prefersPipes := machine.prefersPipes
  wordDepth := machine.wordDepth

/-- No channel was planned any more. -/
def exhausted : Fault :=
  .host (.channel "exhausted" none)

/-- Channels that are made and removed by plan. -/
def plannedMaker : ChannelMaker Machine where
  create machine :=
    let machine := machine.record .channelAsked
    match machine.channelPlan with
    | [] => (.error exhausted, machine)
    | outcome :: plan => (outcome, { machine with channelPlan := plan })
  release path handle machine :=
    let machine := machine.record (.channelReleased path handle)
    match machine.releasePlan with
    | [] => (.ok (), machine)
    | outcome :: plan =>
        let machine := { machine with releasePlan := plan }
        match outcome with
        | none => ((.ok () : Except Fault Unit), machine)
        | some fault => (.error fault, machine)

/-- The processes of the machine. -/
def kernel : Kernel Machine where
  spawn argv machine :=
    let machine := machine.record (.spawned argv)
    let (started, processes) := machine.processes.start
    (started, { machine with processes })
  poll child machine :=
    let (status, processes) := machine.processes.poll child
    (status, { machine with processes })
  status machine pid := machine.processes.status pid

/-- The longest argument of a program, in bytes. -/
def argumentLimit : Nat := 131071

/-- The status of an interpreter that may not read its program. -/
def unreadableStatus : Int := 2

/-- How many files may take part in starting a program, one run by the other.  The last
one has to be a program of the system. -/
def interpreterLimit : Nat := 6

/-- A script that is ready to run: the name it goes by, and what it is told. -/
structure Loaded where
  name : String
  arguments : List String
  script : Script
  /-- Its interpreter may read it. -/
  readable : Bool
deriving Repr, Inhabited

/-- Load what was found under a name, for a command line in a directory.  A text is run
by its interpreter, which is told its own argument, the name of the text, and then the
arguments.  A script has an interpreter of the system.  Refusals name the helper that
was to be run. -/
def load (tree : FileTree) (directory : WorkingDirectory) (helper : String) (limit : Nat)
    (name : String) (arguments : List String) (node : Node) : Except SystemError Loaded :=
  if !node.isExecutable then .error (.permissionDenied helper)
  else
    match limit, node with
    | limit + 1, .file text _ =>
        match interpreter? text with
        | none => .error (.execFormat helper)
        | some interpreter =>
            let next := if interpreter.name = "" then "." else interpreter.name
            match tree.find .follow directory next with
            | .existing _ node =>
                load tree directory helper limit interpreter.name
                  (interpreter.argument.toList ++ name :: arguments) node
            | arrival => .error (arrival.refusal helper)
    | limit + 1, .program script _ =>
        if limit = 0 then .error (.tooManyLinks helper)
        else .ok ⟨name, arguments, script, node.permits .read⟩
    | _, _ => .error (.tooManyLinks helper)

/-- Run a helper that was found, in a directory. -/
def runFound (invocation : Invocation) (directory : WorkingDirectory) (machine : Machine)
    (node : Node) : Except Fault Finished × Machine :=
  let helper := invocation.helper
  if !node.isExecutable then (.error (.system (.permissionDenied helper)), machine)
  else if invocation.arguments.any fun text => argumentLimit < text.utf8ByteSize then
    (.error (.system (.argumentTooLong helper)), machine)
  else
    match
      load machine.tree directory helper interpreterLimit helper invocation.arguments node
    with
    | .error error => (.error (.system error), machine)
    | .ok loaded =>
        if loaded.readable then
          let answer := loaded.script.answer loaded.arguments
          ((.ok ⟨answer.reported, answer.output⟩ : Except Fault Finished),
            { machine with
              helperCalls := machine.helperCalls ++
                [⟨loaded.name, loaded.arguments, directory.place.render⟩] })
        else
          ((.ok ⟨unreadableStatus, []⟩ : Except Fault Finished), machine)

/-- Run a helper program to its end.  Its directory is entered before it is looked
up. -/
def run (invocation : Invocation) (machine : Machine) : Except Fault Finished × Machine :=
  let helper := invocation.helper
  if (helper :: invocation.directory :: invocation.arguments).any holdsZero then
    (.error zeroFault, machine)
  else
    match machine.tree.find .follow machine.directory invocation.directory with
    | .existing place? here =>
        let directory := (place?.map WorkingDirectory.present).getD machine.directory
        if !here.isDirectory then (.error (.system (.notDirectory invocation.directory)), machine)
        else if here.permits .execute then
          match machine.tree.find .follow directory helper with
          | .existing _ node => runFound invocation directory machine node
          | arrival => (.error (.system (arrival.refusal helper)), machine)
        else
          (.error (.system (.permissionDenied invocation.directory)), machine)
    | arrival => (.error (.system (arrival.refusal invocation.directory)), machine)

/-- The helpers of the machine. -/
def helperHost (machine : Machine) : HelperHost Machine where
  workingDirectory := machine.directory.path
  entries machine path := machine.tree.entries machine.directory path
  isFile machine path := (machine.tree.find .follow machine.directory path).isFile path
  mayExecute machine path := .ok (machine.tree.find .follow machine.directory path).mayExecute
  run := run

/-- On the machine, a path can be executed if what it leads to is a regular file which its
owner may execute. -/
theorem isExecutable_eq (host machine : Machine) (path : String) :
    host.helperHost.isExecutable machine path =
      (machine.tree.find .follow machine.directory path).isRunnable := by
  simp only [HelperHost.isExecutable, helperHost]
  cases machine.tree.find .follow machine.directory path with
  | existing place node =>
      simp only [Arrival.isFile, Arrival.mayExecute, Arrival.isRunnable, Node.isExecutable]
      cases node.isRegular <;> rfl
  | _ => rfl

end Machine

end ExtcapHost
