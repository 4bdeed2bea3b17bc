/-
Module: ExtcapHost.Proofs.Record
Purpose: A machine that keeps a record of the calls that reach it.
Main exports:
  Call, Recorded, Recorded.deeds, HelperHost.recorded, Crew.recorded
-/
import ExtcapHost.Helper
import ExtcapHost.Session.Manager

/-!
What the host asks of its machine cannot be read off the machine itself, of which
nothing is known.  A recorded machine is the same machine with a list of the calls
that reached it, so statements on how often something was asked for are statements
on that list.
-/

namespace ExtcapHost

variable {σ : Type}

/-- A call that reached the machine, and what it came to. -/
inductive Call where
  | ran (invocation : Invocation) (finished : Finished)
  | notRun (invocation : Invocation) (fault : Fault)
  | made (channel : Channel)
  | notMade (fault : Fault)
  | removed (path handle : Option String)
  | notRemoved (path handle : Option String) (fault : Fault)
  | started (command : List String) (child : Child)
  | notStarted (command : List String) (fault : Fault)
  | polled (child : Child) (status : Option Int)
deriving DecidableEq, Repr

namespace Call

/-- The call to run a helper to its end. -/
def ofRun (invocation : Invocation) : Except Fault Finished → Call
  | .ok finished => .ran invocation finished
  | .error fault => .notRun invocation fault

/-- The call for a new channel. -/
def ofCreation : Except Fault Channel → Call
  | .ok channel => .made channel
  | .error fault => .notMade fault

/-- The call to remove a channel. -/
def ofRemoval (path handle : Option String) : Except Fault Unit → Call
  | .ok _ => .removed path handle
  | .error fault => .notRemoved path handle fault

/-- The call to start a process. -/
def ofStart (command : List String) : Except Fault Child → Call
  | .ok child => .started command child
  | .error fault => .notStarted command fault

/-- The helper that a call has run or should have run, with its arguments. -/
def invocation? : Call → Option Invocation
  | .ran invocation _ => some invocation
  | .notRun invocation _ => some invocation
  | _ => none

/-- A process was only asked whether it has ended. -/
def isPoll : Call → Bool
  | .polled _ _ => true
  | _ => false

@[simp] theorem ofRun_invocation? (invocation : Invocation)
    (outcome : Except Fault Finished) :
    (ofRun invocation outcome).invocation? = some invocation := by
  cases outcome <;> rfl

/-- The number of the process that a call started. -/
def startedPid? : Call → Option Int
  | .started _ child => some child.pid
  | _ => none

end Call

/-- A machine and the calls that have reached it, the oldest first. -/
structure Recorded (σ : Type) where
  machine : σ
  calls : List Call

namespace Recorded

/-- A machine that nothing has reached yet. -/
def blank (machine : σ) : Recorded σ := ⟨machine, []⟩

/-- The machine after one more call. -/
def after (recorded : Recorded σ) (machine : σ) (call : Call) : Recorded σ :=
  ⟨machine, recorded.calls ++ [call]⟩

/-- The machine changes by itself; no call reaches it. -/
def drift (change : σ → σ) (recorded : Recorded σ) : Recorded σ :=
  { recorded with machine := change recorded.machine }

/-- The calls that did more than ask whether a process has ended. -/
def deeds (recorded : Recorded σ) : List Call :=
  recorded.calls.filter fun call => !call.isPoll

@[simp] theorem after_machine (recorded : Recorded σ) (machine : σ) (call : Call) :
    (recorded.after machine call).machine = machine := rfl

@[simp] theorem after_calls (recorded : Recorded σ) (machine : σ) (call : Call) :
    (recorded.after machine call).calls = recorded.calls ++ [call] := rfl

/-- A deed is recorded. -/
theorem after_deeds_of_deed (recorded : Recorded σ) (machine : σ) (call : Call)
    (deed : call.isPoll = false) :
    (recorded.after machine call).deeds = recorded.deeds ++ [call] := by
  simp [deeds, List.filter_append, deed]

/-- Asking whether a process has ended is no deed. -/
@[simp] theorem after_deeds_of_poll (recorded : Recorded σ) (machine : σ) (child : Child)
    (status : Option Int) :
    (recorded.after machine (.polled child status)).deeds = recorded.deeds := by
  simp [deeds, List.filter_append, Call.isPoll]

/-- A deed is as frequent among the deeds as among all calls. -/
theorem count_deeds (recorded : Recorded σ) (call : Call) (deed : call.isPoll = false) :
    recorded.deeds.count call = recorded.calls.count call := by
  rw [deeds, List.count_filter]
  simp [deed]

/-- Starts are deeds. -/
theorem filterMap_startedPid?_deeds (recorded : Recorded σ) :
    recorded.deeds.filterMap Call.startedPid? = recorded.calls.filterMap Call.startedPid? := by
  rw [deeds, List.filterMap_filter]
  congr 1
  funext call
  cases call <;> rfl

end Recorded

/-- A host on a recorded machine. -/
def HelperHost.recorded (host : HelperHost σ) : HelperHost (Recorded σ) where
  workingDirectory := host.workingDirectory
  entries recorded directory := host.entries recorded.machine directory
  isFile recorded path := host.isFile recorded.machine path
  mayExecute recorded path := host.mayExecute recorded.machine path
  run invocation recorded :=
    let ended := host.run invocation recorded.machine
    (ended.1, recorded.after ended.2 (.ofRun invocation ended.1))

/-- What makes channels, on a recorded machine. -/
def ChannelMaker.recorded (maker : ChannelMaker σ) : ChannelMaker (Recorded σ) where
  create recorded :=
    let made := maker.create recorded.machine
    (made.1, recorded.after made.2 (.ofCreation made.1))
  release path handle recorded :=
    let removed := maker.release path handle recorded.machine
    (removed.1, recorded.after removed.2 (.ofRemoval path handle removed.1))

/-- What keeps processes, on a recorded machine. -/
def Kernel.recorded (kernel : Kernel σ) : Kernel (Recorded σ) where
  spawn command recorded :=
    let started := kernel.spawn command recorded.machine
    (started.1, recorded.after started.2 (.ofStart command started.1))
  poll child recorded :=
    let polled := kernel.poll child recorded.machine
    (polled.1, recorded.after polled.2 (.polled child polled.1))
  status recorded pid := kernel.status recorded.machine pid

@[simp] theorem HelperHost.recorded_absolute (host : HelperHost σ) (path : String) :
    host.recorded.absolute path = host.absolute path := rfl

@[simp] theorem HelperHost.recorded_run (host : HelperHost σ) (invocation : Invocation)
    (machine : Recorded σ) :
    host.recorded.run invocation machine =
      ((host.run invocation machine.machine).1,
        machine.after (host.run invocation machine.machine).2
          (.ofRun invocation (host.run invocation machine.machine).1)) := rfl

@[simp] theorem ChannelMaker.recorded_create (maker : ChannelMaker σ) (machine : Recorded σ) :
    maker.recorded.create machine =
      ((maker.create machine.machine).1,
        machine.after (maker.create machine.machine).2
          (.ofCreation (maker.create machine.machine).1)) := rfl

@[simp] theorem ChannelMaker.recorded_release (maker : ChannelMaker σ)
    (path handle : Option String) (machine : Recorded σ) :
    maker.recorded.release path handle machine =
      ((maker.release path handle machine.machine).1,
        machine.after (maker.release path handle machine.machine).2
          (.ofRemoval path handle (maker.release path handle machine.machine).1)) := rfl

@[simp] theorem Kernel.recorded_spawn (kernel : Kernel σ) (command : List String)
    (machine : Recorded σ) :
    kernel.recorded.spawn command machine =
      ((kernel.spawn command machine.machine).1,
        machine.after (kernel.spawn command machine.machine).2
          (.ofStart command (kernel.spawn command machine.machine).1)) := rfl

@[simp] theorem Kernel.recorded_poll (kernel : Kernel σ) (child : Child)
    (machine : Recorded σ) :
    kernel.recorded.poll child machine =
      ((kernel.poll child machine.machine).1,
        machine.after (kernel.poll child machine.machine).2
          (.polled child (kernel.poll child machine.machine).1)) := rfl

@[simp] theorem Kernel.recorded_status (kernel : Kernel σ) (machine : Recorded σ)
    (pid : Int) :
    kernel.recorded.status machine pid = kernel.status machine.machine pid := rfl

/-- A crew on a recorded machine. -/
def Crew.recorded (crew : Crew σ) : Crew (Recorded σ) :=
  ⟨crew.maker.recorded, crew.kernel.recorded⟩

@[simp] theorem Crew.recorded_maker (crew : Crew σ) :
    crew.recorded.maker = crew.maker.recorded := rfl

@[simp] theorem Crew.recorded_kernel (crew : Crew σ) :
    crew.recorded.kernel = crew.kernel.recorded := rfl

end ExtcapHost
