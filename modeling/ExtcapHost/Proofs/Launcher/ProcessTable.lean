/-
Module: ExtcapHost.Proofs.Launcher.ProcessTable
Purpose: What a table of processes says of one child, and what starting, ending
  and polling change of it.
Main exports:
  ProcessTable.runs, ProcessTable.owed, ProcessTable.Orderly, ProcessTable.waited,
  ProcessTable.poll_of_known, ProcessTable.kernel, ProcessTable.pollAll_of_known
-/
import Mathlib.Data.List.Nodup
import ExtcapHost.Machine.Processes
import ExtcapHost.Proofs.Session.Outcome

namespace ExtcapHost.ProcessTable

variable {table : ProcessTable} {child : Child}

/-- All that were ever started, the oldest first. -/
def children (table : ProcessTable) : List Child :=
  table.processes.map fun process => process.child

def process? (table : ProcessTable) (child : Child) : Option Process :=
  table.processes.find? fun process => process.child = child

/-- It was started and has not ended. -/
def runs (table : ProcessTable) (child : Child) : Bool :=
  (table.process? child).any fun process => process.status.isNone

/-- It was started, and nobody has learned of its end yet. -/
def owed (table : ProcessTable) (child : Child) : Bool :=
  (table.process? child).any fun process => !process.reaped

theorem mem_children_iff :
    child ∈ table.children ↔ ∃ process, table.process? child = some process := by
  rw [← Option.isSome_iff_exists, process?, List.find?_isSome, children, List.mem_map]
  simp only [decide_eq_true_eq]

theorem known_of_owed (owed : table.owed child = true) : child ∈ table.children := by
  obtain ⟨process, found, -⟩ := (Option.any_eq_true ..).mp owed
  exact mem_children_iff.mpr ⟨process, found⟩

theorem child_of_process? {process : Process} (found : table.process? child = some process) :
    process.child = child := by
  simpa using List.find?_some found

/-! ### Tables that the system could show -/

/-- Serial numbers count the processes, and only the end of a process that has
ended is known. -/
structure Orderly (table : ProcessTable) : Prop where
  numbered : (table.processes.map fun process => process.child.serial) =
    List.range table.processes.length
  told : ∀ process ∈ table.processes, process.reaped = true → process.status.isSome = true

/-- Where keys are distinct, looking for the key of a member finds that member. -/
theorem find?_of_key {α κ : Type} [DecidableEq κ] {key : α → κ} {members : List α} {member : α}
    (distinct : (members.map key).Nodup) (present : member ∈ members) :
    members.find? (fun other => key other = key member) = some member := by
  cases lookup : members.find? fun other => key other = key member with
  | none =>
      have absent := List.find?_eq_none.mp lookup member present
      simp at absent
  | some found =>
      have same : key found = key member := by simpa using List.find?_some lookup
      rw [List.inj_on_of_nodup_map distinct (List.mem_of_find?_eq_some lookup) present same]

namespace Orderly

theorem nodup_serials (orderly : table.Orderly) :
    (table.processes.map fun process => process.child.serial).Nodup := by
  rw [orderly.numbered]
  exact List.nodup_range

theorem eq_of_serial (orderly : table.Orderly) {process other : Process}
    (present : process ∈ table.processes) (otherPresent : other ∈ table.processes)
    (same : process.child.serial = other.child.serial) : process = other :=
  List.inj_on_of_nodup_map orderly.nodup_serials present otherPresent same

theorem nodup_children (orderly : table.Orderly) : table.children.Nodup := by
  apply List.Nodup.of_map fun child => child.serial
  rw [children, List.map_map]
  exact orderly.nodup_serials

theorem process?_of_mem (orderly : table.Orderly) {process : Process}
    (present : process ∈ table.processes) : table.process? process.child = some process :=
  find?_of_key orderly.nodup_children present

/-- A child that runs cannot have been waited for. -/
theorem owed_of_runs (orderly : table.Orderly) (runs : table.runs child = true) :
    table.owed child = true := by
  obtain ⟨process, found, running⟩ := (Option.any_eq_true ..).mp runs
  refine (Option.any_eq_true ..).mpr ⟨process, found, ?_⟩
  have told := orderly.told process (List.mem_of_find?_eq_some found)
  rw [Option.isNone_iff_eq_none.mp running] at told
  cases reaped : process.reaped with
  | false => rfl
  | true => cases told reaped

end Orderly

/-! ### Changes that keep every child -/

/-- Change each process. -/
def amend (table : ProcessTable) (change : Process → Process) : ProcessTable :=
  { table with processes := table.processes.map change }

section Amend

variable {change : Process → Process} (keeps : ∀ process, (change process).child = process.child)

include keeps

theorem children_amend : (table.amend change).children = table.children := by
  simp only [children, amend, List.map_map, Function.comp_def, keeps]

theorem process?_amend :
    (table.amend change).process? child = (table.process? child).map change := by
  simp only [process?, amend, List.find?_map, Function.comp_def, keeps]

theorem Orderly.amend (orderly : table.Orderly)
    (timely : ∀ process ∈ table.processes,
      (change process).reaped = true → (change process).status.isSome = true) :
    (table.amend change).Orderly := by
  refine ⟨?_, ?_⟩
  · simp only [ProcessTable.amend, List.map_map, Function.comp_def, keeps, List.length_map]
    exact orderly.numbered
  · intro process present reaped
    obtain ⟨before, member, rfl⟩ := List.mem_map.mp present
    exact timely before member reaped

end Amend

/-- A process ends.  It does so once. -/
def ended (table : ProcessTable) (serial : Nat) (status : Int) : ProcessTable :=
  table.update serial fun process => { process with status := some (process.status.getD status) }

/-- Everyone who asked for the end of these children was told, where there was an
end to tell of. -/
def waited (table : ProcessTable) (children : List Child) : ProcessTable :=
  table.amend fun process =>
    if process.child ∈ children ∧ process.status.isSome = true then
      { process with reaped := true }
    else process

section Ended

variable (serial : Nat) (status : Int)

theorem ended_eq_amend : table.ended serial status = table.amend fun process =>
    if process.child.serial = serial then
      { process with status := some (process.status.getD status) }
    else process := rfl

theorem children_ended : (table.ended serial status).children = table.children := by
  rw [ended_eq_amend, children_amend]
  intro process
  split <;> rfl

theorem owed_ended : (table.ended serial status).owed child = table.owed child := by
  rw [owed, ended_eq_amend, process?_amend, owed]
  · cases table.process? child with
    | none => rfl
    | some process => simp only [Option.map_some, Option.any_some]; split <;> rfl
  · intro process
    split <;> rfl

theorem Orderly.ended (orderly : table.Orderly) : (table.ended serial status).Orderly := by
  rw [ended_eq_amend]
  refine orderly.amend (fun process => by split <;> rfl) fun process present reaped => ?_
  split at reaped
  · rw [if_pos ‹_›]; rfl
  · rw [if_neg ‹_›]; exact orderly.told process present reaped

end Ended

section Waited

variable (waiting : List Child)

theorem children_waited : (table.waited waiting).children = table.children := by
  rw [waited, children_amend]
  intro process
  split <;> rfl

theorem process?_waited : (table.waited waiting).process? child =
    (table.process? child).map fun process =>
      if process.child ∈ waiting ∧ process.status.isSome = true then
        { process with reaped := true }
      else process := by
  rw [waited, process?_amend]
  intro process
  split <;> rfl

@[simp] theorem runs_waited : (table.waited waiting).runs child = table.runs child := by
  rw [runs, process?_waited, runs]
  cases table.process? child with
  | none => rfl
  | some process => simp only [Option.map_some, Option.any_some]; split <;> rfl

theorem owed_waited : (table.waited waiting).owed child =
    (table.owed child && (decide (child ∉ waiting) || table.runs child)) := by
  rw [owed, process?_waited, owed, runs]
  cases found : table.process? child with
  | none => rfl
  | some process =>
      have own : process.child = child := child_of_process? found
      simp only [Option.map_some, Option.any_some, own]
      by_cases awaited : child ∈ waiting <;> cases process.status <;> simp [awaited]

theorem Orderly.waited (orderly : table.Orderly) : (table.waited waiting).Orderly := by
  refine orderly.amend (fun process => by split <;> rfl) fun process present reaped => ?_
  split at reaped
  next told => rw [if_pos told]; exact told.2
  next untold => rw [if_neg untold]; exact orderly.told process present reaped

theorem waited_nil : table.waited [] = table := by
  simp [waited, amend]

theorem waited_cons (first : Child) (rest : List Child) :
    (table.waited [first]).waited rest = table.waited (first :: rest) := by
  simp only [waited, amend, List.map_map, mk.injEq, List.map_inj_left, and_self, and_true]
  intro process present
  by_cases isFirst : process.child = first <;>
    by_cases isLater : process.child ∈ rest <;>
      cases ending : process.status <;> simp [isFirst, isLater, ending]

end Waited

/-! ### Polling -/

theorem waited_of_runs (orderly : table.Orderly) (runs : table.runs child = true) :
    table.waited [child] = table := by
  have same : ∀ process ∈ table.processes,
      (if process.child ∈ [child] ∧ process.status.isSome = true then
        { process with reaped := true }
      else process) = id process := by
    intro process present
    apply if_neg
    rintro ⟨isChild, isOver⟩
    rw [List.mem_singleton] at isChild
    have found := orderly.process?_of_mem present
    rw [isChild] at found
    simp only [ProcessTable.runs, found, Option.any_some, Option.isNone_iff_eq_none] at runs
    simp [runs] at isOver
  rw [waited, amend, List.map_congr_left same, List.map_id]

/-- Polling a child that was started tells whether it runs, and waits for it. -/
theorem poll_of_known (orderly : table.Orderly) (known : child ∈ table.children) :
    ∃ status, table.poll child = (status, table.waited [child]) ∧
      (status = none ↔ table.runs child = true) := by
  obtain ⟨process, present, rfl⟩ := List.mem_map.mp known
  have found := orderly.process?_of_mem present
  have looked := find?_of_key orderly.nodup_serials present
  obtain ⟨child, ending, reaped⟩ := process
  cases ending with
  | none =>
      have runs : table.runs child = true := by simp [runs, found]
      refine ⟨none, ?_, by simp [runs]⟩
      rw [poll, looked, waited_of_runs orderly runs]
  | some status =>
      refine ⟨some status, ?_, by simp [runs, found]⟩
      rw [poll, looked]
      simp only [waited, amend, update, Prod.mk.injEq, true_and, mk.injEq, and_true,
        List.map_inj_left]
      intro other otherPresent
      by_cases same : other.child.serial = child.serial
      · rw [orderly.eq_of_serial otherPresent present same]
        simp
      · have different : other.child ≠ child := fun equal => same (by rw [equal])
        simp [same, different]

/-! ### Starting -/

/-- The system may give out a number once everyone who had it was waited for. -/
def isFree (table : ProcessTable) (pid : Int) : Bool :=
  decide (0 < pid) &&
    table.processes.all fun process => process.child.pid ≠ pid || process.reaped

theorem pid_ne_of_isFree {pid : Int} (free : table.isFree pid = true)
    (owed : table.owed child = true) : child.pid ≠ pid := by
  rintro rfl
  obtain ⟨process, found, open'⟩ := (Option.any_eq_true ..).mp owed
  have all := ((Bool.and_eq_true ..).mp free).2
  have closed := List.all_eq_true.mp all process (List.mem_of_find?_eq_some found)
  rw [child_of_process? found] at closed
  simp at closed open'
  rw [open'] at closed
  cases closed

section Enroll

variable (pid : Int)

theorem children_enroll :
    (table.enroll pid).2.children = table.children ++ [(table.enroll pid).1] := by
  simp [enroll, children]

theorem Orderly.enroll (orderly : table.Orderly) : (table.enroll pid).2.Orderly := by
  constructor
  · simp [ProcessTable.enroll, orderly.numbered, List.range_succ]
  · intro process present reaped
    rcases List.mem_append.mp present with older | new
    · exact orderly.told process older reaped
    · rw [List.mem_singleton.mp new] at reaped
      cases reaped

/-- The serial number of a new process is new. -/
theorem Orderly.new_child (orderly : table.Orderly) : (table.enroll pid).1 ∉ table.children := by
  intro known
  obtain ⟨process, present, same⟩ := List.mem_map.mp known
  have serial : process.child.serial ∈ table.processes.map fun process => process.child.serial :=
    List.mem_map.mpr ⟨process, present, rfl⟩
  rw [orderly.numbered, same] at serial
  exact absurd (List.mem_range.mp serial) (Nat.lt_irrefl _)

theorem process?_enroll_of_known (known : child ∈ table.children) :
    (table.enroll pid).2.process? child = table.process? child := by
  obtain ⟨process, found⟩ := mem_children_iff.mp known
  rw [found]
  simp only [process?, ProcessTable.enroll, List.find?_append]
  rw [← process?, found]
  rfl

theorem owed_enroll_of_known (known : child ∈ table.children) :
    (table.enroll pid).2.owed child = table.owed child := by
  rw [owed, process?_enroll_of_known pid known, owed]

theorem runs_enroll_of_known (known : child ∈ table.children) :
    (table.enroll pid).2.runs child = table.runs child := by
  rw [runs, process?_enroll_of_known pid known, runs]

end Enroll

/-! ### As a kernel -/

/-- What the system answers when the number that it would give is taken. -/
def refusal : SystemError := ⟨11, "Resource temporarily unavailable", []⟩

/-- A system where the next start comes to a given outcome.  A number that is
not free is never given out. -/
def kernel (outcome : Except Fault Int) : Kernel ProcessTable where
  spawn _ table :=
    match outcome with
    | .error fault => (.error fault, table)
    | .ok pid =>
        if table.isFree pid = true then
          (.ok (table.enroll pid).1, (table.enroll pid).2)
        else
          (.error (.system refusal), table)
  poll child table := table.poll child
  status := ProcessTable.status

/-- The number that a start gets. -/
def granted (table : ProcessTable) (outcome : Except Fault Int) : Option Int :=
  outcome.toOption.filter table.isFree

variable {outcome : Except Fault Int}

theorem kernel_spawn_of_granted {pid : Int} (granted : table.granted outcome = some pid)
    (command : List String) :
    table.isFree pid = true ∧
      (kernel outcome).spawn command table = (.ok (table.enroll pid).1, (table.enroll pid).2) := by
  obtain ⟨given, free⟩ := Option.filter_eq_some_iff.mp granted
  cases outcome with
  | error fault => cases given
  | ok number =>
      cases given
      exact ⟨free, if_pos free⟩

theorem kernel_spawn_of_denied (denied : table.granted outcome = none) (command : List String) :
    ∃ fault, (kernel outcome).spawn command table = (.error fault, table) := by
  cases outcome with
  | error fault => exact ⟨fault, rfl⟩
  | ok pid =>
      have taken : ¬table.isFree pid = true := by
        intro free
        rw [granted, Except.toOption, Option.filter_some_pos free] at denied
        cases denied
      exact ⟨.system refusal, if_neg taken⟩

/-- Polling children one after the other keeps those that run. -/
theorem pollAll_of_known {waiting : List Child}
    (orderly : table.Orderly) (known : ∀ child ∈ waiting, child ∈ table.children) :
    Launcher.pollAll (kernel outcome) waiting table =
      (waiting.filter table.runs, table.waited waiting) := by
  induction waiting generalizing table with
  | nil => rw [waited_nil]; rfl
  | cons first rest ih =>
      obtain ⟨status, polled, running⟩ := poll_of_known orderly (known first (.head _))
      have askedFirst : (kernel outcome).poll first table = (status, table.waited [first]) := polled
      have knownLater : ∀ child ∈ rest, child ∈ (table.waited [first]).children := by
        intro child member
        rw [children_waited]
        exact known child (.tail _ member)
      have same : (table.waited [first]).runs = table.runs := funext fun _ => runs_waited _
      rw [Launcher.pollAll_of_poll askedFirst, ih (orderly.waited [first]) knownLater, waited_cons,
        same, List.filter_cons]
      simp only [running]
      split <;> rfl

end ExtcapHost.ProcessTable
