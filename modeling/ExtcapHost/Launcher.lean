/-
Module: ExtcapHost.Launcher
Purpose: Long-running helpers: starting them, letting go of them, and seeing
  whether they live.
Main exports:
  noProcess, Child, Kernel, Launcher, Launcher.spawn, Launcher.release,
  Launcher.isRunning
-/
import ExtcapHost.Fault
import ExtcapHost.Journal
import ExtcapHost.Ordered

namespace ExtcapHost

/-- The process number that stands for no process. -/
def noProcess : Int := -1

/-- A started process.  The system may use its number again once it is gone, so a
serial number tells two processes apart. -/
structure Child where
  pid : Int
  serial : Nat
deriving DecidableEq, Repr, Inhabited

/-- What the system says of a process number. -/
inductive ProcessStatus where
  /-- There is no such process. -/
  | absent
  /-- The process may not be looked at. -/
  | denied
  /-- The process has ended and nobody has asked for its status. -/
  | zombie
  | alive
deriving DecidableEq, Repr, Inhabited

/-- The part of a system that keeps processes. -/
structure Kernel (σ : Type) where
  /-- Start a program. -/
  spawn : List String → σ → Except Fault Child × σ
  /-- The exit status of a process, if it has ended; it is then gone. -/
  poll : Child → σ → Option Int × σ
  /-- Look at a process number. -/
  status : σ → Int → ProcessStatus

/-- The processes that are tracked by their number, and those that were released
while they ran and have not been seen to end. -/
structure Launcher where
  tracked : List (Int × Child)
  released : List Child
deriving DecidableEq, Repr, Inhabited

namespace Launcher

variable {σ : Type}

/-- No process was started yet. -/
def empty : Launcher := ⟨[], []⟩

/-- The tracked process numbers in order. -/
def pids (launcher : Launcher) : List Int :=
  launcher.tracked.map fun process => process.1

/-- The released process numbers in order. -/
def releasedPids (launcher : Launcher) : List Int :=
  launcher.released.map fun child => child.pid

/-- The children that still run; those that have ended are gone. -/
def pollAll (kernel : Kernel σ) : List Child → σ → List Child × σ
  | [], machine => ([], machine)
  | child :: rest, machine =>
      let (status, machine) := kernel.poll child machine
      let (alive, machine) := pollAll kernel rest machine
      match status with
      | none => (child :: alive, machine)
      | some _ => (alive, machine)

/-- Forget the released processes that have ended. -/
def reap (kernel : Kernel σ) (launcher : Launcher) (machine : σ) : Launcher × σ :=
  let (alive, machine) := pollAll kernel launcher.released machine
  ({ launcher with released := alive }, machine)

/-- What an attempt to start a process came to. -/
structure Spawned (σ : Type) where
  result : Except Fault Int
  launcher : Launcher
  journal : List Note
  machine : σ

/-- A program that could not be started, as a message. -/
def spawnNote (argv : List String) (fault : Fault) : Note :=
  ⟨.warning, "Failed to spawn " ++ argv.headD "<empty>" ++ ": " ++ fault.text⟩

/-- Start a program and track it.  If the system refuses, or a word of the
command cannot be passed on, there is no process. -/
def spawn (kernel : Kernel σ) (launcher : Launcher) (argv : List String) (machine : σ) :
    Spawned σ :=
  let (launcher, machine) := launcher.reap kernel machine
  match kernel.spawn argv machine with
  | (.ok child, machine) =>
      ⟨.ok child.pid, { launcher with tracked := Ordered.put child.pid child launcher.tracked },
        [], machine⟩
  | (.error (.system error), machine) =>
      ⟨.ok noProcess, launcher, [spawnNote argv (.system error)], machine⟩
  | (.error (.value message), machine) =>
      ⟨.ok noProcess, launcher, [spawnNote argv (.value message)], machine⟩
  | (.error fault, machine) => ⟨.error fault, launcher, [], machine⟩

/-- Stop tracking a process without waiting for it.  One that still runs is
polled from now on until it has ended.  Say whether it was tracked. -/
def release (kernel : Kernel σ) (launcher : Launcher) (pid : Int) (machine : σ) :
    Bool × Launcher × σ :=
  let (launcher, machine) := launcher.reap kernel machine
  if pid = noProcess then
    (false, launcher, machine)
  else
    match Ordered.get? pid launcher.tracked with
    | none => (false, launcher, machine)
    | some child =>
        let tracked := Ordered.erase pid launcher.tracked
        match kernel.poll child machine with
        | (none, machine) => (true, ⟨tracked, launcher.released ++ [child]⟩, machine)
        | (some _, machine) => (true, ⟨tracked, launcher.released⟩, machine)

/-- Whether a process of that number lives, as far as the system tells.  One that
may not be looked at lives. -/
def livesBySystem (kernel : Kernel σ) (pid : Int) (machine : σ) : Bool :=
  match kernel.status machine pid with
  | .absent => false
  | .denied => true
  | .zombie => false
  | .alive => true

/-- Whether a process lives.  A tracked one that has ended does not; for all
others the system is asked. -/
def isRunning (kernel : Kernel σ) (launcher : Launcher) (pid : Int) (machine : σ) :
    Bool × Launcher × σ :=
  let (launcher, machine) := launcher.reap kernel machine
  if pid = noProcess then
    (false, launcher, machine)
  else
    match Ordered.get? pid launcher.tracked with
    | none => (livesBySystem kernel pid machine, launcher, machine)
    | some child =>
        match kernel.poll child machine with
        | (none, machine) => (livesBySystem kernel pid machine, launcher, machine)
        | (some _, machine) => (false, launcher, machine)

end Launcher

end ExtcapHost
