/-
Module: ExtcapHost.Machine.Processes
Purpose: Processes in memory that start and end by a plan.
Main exports:
  Process, StartPlan, ProcessTable, ProcessTable.start, ProcessTable.finish,
  ProcessTable.poll, ProcessTable.status
-/
import ExtcapHost.Launcher

namespace ExtcapHost

/-- A process that was started: whether it has ended, and whether its end has been
asked for. -/
structure Process where
  child : Child
  status : Option Int
  reaped : Bool
deriving DecidableEq, Repr, Inhabited

/-- What the next start of a process comes to. -/
inductive StartPlan where
  /-- It gets a number of its own choice. -/
  | numbered (pid : Int)
  /-- It gets the next free number. -/
  | automatic
  | refused (fault : Fault)
deriving Repr, Inhabited

/-- The processes of a machine.  The oldest comes first. -/
structure ProcessTable where
  processes : List Process
  plan : List StartPlan
  nextPid : Int
  /-- What is said of a number, whatever its process does. -/
  appearances : List (Int × ProcessStatus)
deriving Repr, Inhabited

namespace ProcessTable

/-- No process was started; starts follow a plan, and after it they all succeed. -/
def planned (plan : List StartPlan) : ProcessTable where
  processes := []
  plan := plan
  nextPid := 1001
  appearances := []

/-- Add a process of the given number. -/
def enroll (table : ProcessTable) (pid : Int) : Child × ProcessTable :=
  let child : Child := ⟨pid, table.processes.length⟩
  (child, { table with processes := table.processes ++ [⟨child, none, false⟩] })

/-- Add a process of the next free number. -/
def enrollNext (table : ProcessTable) : Child × ProcessTable :=
  { table with nextPid := table.nextPid + 1 }.enroll table.nextPid

/-- Start a process. -/
def start (table : ProcessTable) : Except Fault Child × ProcessTable :=
  match table.plan with
  | [] =>
      let (child, table) := table.enrollNext
      (.ok child, table)
  | next :: plan =>
      let table := { table with plan }
      match next with
      | .refused fault => (.error fault, table)
      | .numbered pid =>
          let (child, table) := table.enroll pid
          ((.ok child : Except Fault Child), table)
      | .automatic =>
          let (child, table) := table.enrollNext
          ((.ok child : Except Fault Child), table)

/-- The latest process of a number. -/
def latest? (table : ProcessTable) (pid : Int) : Option Process :=
  table.processes.reverse.find? fun process => process.child.pid = pid

/-- Change one process. -/
def update (table : ProcessTable) (serial : Nat) (change : Process → Process) : ProcessTable :=
  { table with
    processes := table.processes.map fun process =>
      if process.child.serial = serial then change process else process }

/-- The latest process of a number ends. -/
def finish (table : ProcessTable) (pid status : Int) : ProcessTable :=
  match table.latest? pid with
  | none => table
  | some process =>
      table.update process.child.serial fun process => { process with status := some status }

/-- From now on something else is said of a number. -/
def appear (table : ProcessTable) (pid : Int) (status : ProcessStatus) : ProcessTable :=
  { table with appearances := Ordered.put pid status table.appearances }

/-- Ask for the end of a process. -/
def poll (table : ProcessTable) (child : Child) : Option Int × ProcessTable :=
  match table.processes.find? fun process => process.child.serial = child.serial with
  | some ⟨_, some status, _⟩ =>
      (some status,
        table.update child.serial fun process => { process with reaped := true })
  | _ => (none, table)

/-- What is said of a number. -/
def status (table : ProcessTable) (pid : Int) : ProcessStatus :=
  match Ordered.get? pid table.appearances with
  | some status => status
  | none =>
      match table.latest? pid with
      | none => .absent
      | some process =>
          if process.reaped then .absent
          else if process.status.isSome then .zombie
          else .alive

end ProcessTable

end ExtcapHost
