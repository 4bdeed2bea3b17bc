/-
Module: ExtcapHost.Proofs.Launcher.Holder
Purpose: Which process a number stands for, where numbers are given again.
Main exports:
  ProcessTable.holder?, ProcessTable.Exclusive, ProcessTable.Ends, Household.Guarded,
  Household.Guarded.called
-/
import ExtcapHost.Proofs.Launcher.Custody

/-!
A number stands for the process that was given it last.  It is given again only after
the end of its process has become known, so a process of which that is not so holds its
number; and a launcher that overwrites the row of a number on each start tracks no
process under a number that another one holds.
-/

namespace ExtcapHost

namespace ProcessTable

variable {table : ProcessTable} {child : Child}

/-- The process that was given a number last. -/
def holder? (table : ProcessTable) (pid : Int) : Option Child :=
  table.children.reverse.find? fun child => child.pid = pid

/-- The process that was given a number last runs. -/
def holderRuns (table : ProcessTable) (pid : Int) : Bool :=
  (table.holder? pid).any table.runs

/-- When a number was given again, the end of the process before was known. -/
def Exclusive (table : ProcessTable) : Prop :=
  table.processes.Pairwise fun earlier later =>
    earlier.child.pid = later.child.pid → earlier.reaped = true

/-- From one table to the other, processes have ended and nothing else has happened. -/
def Ends (table later : ProcessTable) : Prop :=
  ∃ exits : List (Nat × Int), later = exits.foldl (fun now exit => now.ended exit.1 exit.2) table

/-- What the end of one process keeps is kept when processes end. -/
theorem Ends.keeps {later : ProcessTable} (ends : table.Ends later) {kept : ProcessTable → Prop}
    (step : ∀ now serial status, kept now → kept (now.ended serial status)) (start : kept table) :
    kept later := by
  obtain ⟨exits, rfl⟩ := ends
  induction exits generalizing table with
  | nil => exact start
  | cons exit rest ih => exact ih (step table exit.1 exit.2 start)

/-! ### Who holds a number -/

/-- Where the same processes were started, the same ones hold the numbers. -/
theorem holder?_of_children {later : ProcessTable} (same : later.children = table.children)
    (pid : Int) : later.holder? pid = table.holder? pid := by
  rw [holder?, same, holder?]

theorem holder?_enroll_self (pid : Int) :
    (table.enroll pid).2.holder? pid = some (table.enroll pid).1 := by
  rw [holder?, children_enroll, List.reverse_append, List.reverse_singleton,
    List.singleton_append]
  exact List.find?_cons_of_pos (decide_eq_true rfl)

theorem holder?_enroll_other {pid other : Int} (different : other ≠ pid) :
    (table.enroll pid).2.holder? other = table.holder? other := by
  rw [holder?, children_enroll, List.reverse_append, List.reverse_singleton,
    List.singleton_append, List.find?_cons_of_neg]
  · rfl
  · simp [enroll, different.symm]

/-- A process whose end is not known holds its number. -/
theorem Exclusive.holder?_of_owed (exclusive : table.Exclusive) (owed : table.owed child = true) :
    table.holder? child.pid = some child := by
  obtain ⟨process, found, unknown⟩ := (Option.any_eq_true ..).mp owed
  have own := child_of_process? found
  obtain ⟨front, back, cut⟩ := List.append_of_mem (List.mem_of_find?_eq_some found)
  rw [Exclusive, cut, List.pairwise_append, List.pairwise_cons] at exclusive
  have later : (back.map fun process => process.child).reverse.find?
      (fun other => other.pid = child.pid) = none := by
    rw [List.find?_eq_none]
    intro other among
    obtain ⟨after, there, rfl⟩ := List.mem_map.mp (List.mem_reverse.mp among)
    simp only [decide_eq_true_eq]
    intro same
    have known := exclusive.2.1.1 after there (by rw [own, same])
    rw [known] at unknown
    cases unknown
  rw [holder?, children, cut, List.map_append, List.map_cons, List.reverse_append,
    List.reverse_cons, List.append_assoc, List.find?_append, later, Option.none_or,
    List.singleton_append, own]
  exact List.find?_cons_of_pos (decide_eq_true rfl)

/-! ### What keeps numbers exclusive -/

theorem Exclusive.amend (exclusive : table.Exclusive) {change : Process → Process}
    (keeps : ∀ process, (change process).child = process.child)
    (known : ∀ process, process.reaped = true → (change process).reaped = true) :
    (table.amend change).Exclusive := by
  rw [Exclusive, ProcessTable.amend, List.pairwise_map]
  refine List.Pairwise.imp ?_ exclusive
  intro earlier later reused same
  rw [keeps, keeps] at same
  exact known earlier (reused same)

theorem Exclusive.ended (exclusive : table.Exclusive) (serial : Nat) (status : Int) :
    (table.ended serial status).Exclusive := by
  rw [ended_eq_amend]
  apply exclusive.amend
  · intro process
    split <;> rfl
  · intro process reaped
    split <;> exact reaped

theorem Exclusive.waited (exclusive : table.Exclusive) (waiting : List Child) :
    (table.waited waiting).Exclusive := by
  apply exclusive.amend
  · intro process
    split <;> rfl
  · intro process reaped
    split
    · rfl
    · exact reaped

/-- A free number is given to one more process. -/
theorem Exclusive.enroll (exclusive : table.Exclusive) {pid : Int}
    (free : table.isFree pid = true) : (table.enroll pid).2.Exclusive := by
  rw [Exclusive, ProcessTable.enroll]
  refine List.pairwise_append.mpr ⟨exclusive, List.pairwise_singleton .., ?_⟩
  intro earlier among later new same
  rw [List.mem_singleton.mp new] at same
  have closed := List.all_eq_true.mp ((Bool.and_eq_true ..).mp free).2 earlier among
  simpa [same] using closed

/-- Whether the holder of a number runs is not changed by learning of ends. -/
theorem holderRuns_waited (waiting : List Child) (pid : Int) :
    (table.waited waiting).holderRuns pid = table.holderRuns pid := by
  have same : (table.waited waiting).runs = table.runs := funext fun _ => runs_waited waiting
  rw [holderRuns, holder?_of_children (children_waited waiting), same, holderRuns]

end ProcessTable

namespace Household

/-- No process is lost, and every tracked process holds its number. -/
structure Guarded (home : Household) : Prop where
  sound : ∃ handed, home.Sound handed
  exclusive : home.table.Exclusive
  positive : ∀ child ∈ home.table.children, 0 < child.pid
  holds : ∀ pid child, Ordered.get? pid home.launcher.tracked = some child →
    home.table.holder? pid = some child

theorem founded_guarded : founded.Guarded where
  sound := ⟨[], founded_sound⟩
  exclusive := .nil
  positive _ present := by cases present
  holds _ _ found := by cases found

variable {home : Household}

namespace Guarded

theorem exit (guarded : home.Guarded) (serial : Nat) (status : Int) :
    Guarded { home with table := home.table.ended serial status } where
  sound := by
    obtain ⟨handed, sound⟩ := guarded.sound
    exact ⟨handed, sound.exit serial status⟩
  exclusive := guarded.exclusive.ended serial status
  positive child present := by
    rw [ProcessTable.children_ended] at present
    exact guarded.positive child present
  holds pid child found := by
    rw [ProcessTable.holder?_of_children (ProcessTable.children_ended serial status)]
    exact guarded.holds pid child found

theorem ends (guarded : home.Guarded) {later : ProcessTable} (ends : home.table.Ends later) :
    Guarded { home with table := later } :=
  ends.keeps (fun _ serial status kept => exit kept serial status) guarded

/-- Learning of ends changes no number. -/
theorem positive_waited (guarded : home.Guarded) (waiting : List Child) :
    ∀ child ∈ (home.table.waited waiting).children, 0 < child.pid := by
  rw [ProcessTable.children_waited]
  exact guarded.positive

theorem reaped (guarded : home.Guarded) : home.reaped.Guarded where
  sound := by
    obtain ⟨handed, sound⟩ := guarded.sound
    exact ⟨handed, sound.reaped⟩
  exclusive := guarded.exclusive.waited _
  positive := guarded.positive_waited _
  holds pid child found := by
    rw [Household.reaped, ProcessTable.holder?_of_children (ProcessTable.children_waited _)]
    exact guarded.holds pid child found

/-- Forgetting a number changes nothing for the others. -/
theorem holds_erase (guarded : home.Guarded) (forgotten : Int) {pid : Int} {child : Child}
    (found : Ordered.get? pid (Ordered.erase forgotten home.launcher.tracked) = some child) :
    home.table.holder? pid = some child := by
  obtain ⟨handed, sound⟩ := guarded.sound
  by_cases same : pid = forgotten
  · rw [same, Ordered.get?_erase_self sound.distinct] at found
    cases found
  · rw [Ordered.get?_erase_other same] at found
    exact guarded.holds pid child found

theorem move (guarded : home.Guarded) {next : Household} {arrived left : List Child}
    (moved : home.Move next arrived left) : next.Guarded := by
  have soundToo : ∃ handed, next.Sound handed := by
    obtain ⟨handed, sound⟩ := guarded.sound
    exact ⟨_, sound.move moved⟩
  cases moved with
  | nothing => exact guarded
  | started pid free =>
      have positive : ∀ child ∈ (home.table.enroll pid).2.children, 0 < child.pid := by
        intro child present
        rw [ProcessTable.children_enroll pid] at present
        rcases List.mem_append.mp present with older | new
        · exact guarded.positive child older
        · rw [List.mem_singleton.mp new]
          exact of_decide_eq_true ((Bool.and_eq_true ..).mp free).1
      refine ⟨soundToo, guarded.exclusive.enroll free, positive, fun number child found => ?_⟩
      by_cases same : number = pid
      · rw [same, Ordered.get?_put_self] at found
        rw [same, ← found]
        exact ProcessTable.holder?_enroll_self pid
      · rw [Ordered.get?_put_other same] at found
        rw [ProcessTable.holder?_enroll_other same]
        exact guarded.holds number child found
  | polled pid child found =>
      refine ⟨soundToo, guarded.exclusive.waited _, guarded.positive_waited _,
        fun number other there => ?_⟩
      rw [Household.polled, ProcessTable.holder?_of_children (ProcessTable.children_waited _)]
      exact guarded.holds number other there
  | released pid child found runs =>
      exact ⟨soundToo, guarded.exclusive, guarded.positive,
        fun number other there => guarded.holds_erase pid there⟩
  | dropped pid child found ended =>
      refine ⟨soundToo, guarded.exclusive.waited _, guarded.positive_waited _,
        fun number other there => ?_⟩
      rw [Household.polled, ProcessTable.holder?_of_children (ProcessTable.children_waited _)]
      exact guarded.holds_erase pid there

/-- Every call of the launcher keeps it. -/
theorem called (guarded : home.Guarded) (call : LauncherCall) (outcome : Except Fault Int) :
    (home.called call outcome).Guarded := by
  obtain ⟨handed, sound⟩ := guarded.sound
  exact guarded.reaped.move (sound.called_moves call outcome)

/-- Asking whether a process lives starts none and ends none. -/
theorem holderRuns_isRunning (guarded : home.Guarded) (asked : Int) (outcome : Except Fault Int)
    (pid : Int) :
    (home.called (.isRunning asked) outcome).table.holderRuns pid = home.table.holderRuns pid := by
  obtain ⟨handed, sound⟩ := guarded.sound
  have reaped : home.reaped.table.holderRuns pid = home.table.holderRuns pid :=
    ProcessTable.holderRuns_waited _ pid
  have moved : home.reaped.Move (home.called (.isRunning asked) outcome) [] [] :=
    sound.called_moves (.isRunning asked) outcome
  rw [← reaped]
  generalize home.called (.isRunning asked) outcome = next at moved ⊢
  cases moved with
  | nothing => rfl
  | polled number child found => exact ProcessTable.holderRuns_waited _ pid
  | dropped number child found ended => exact ProcessTable.holderRuns_waited _ pid

/-- A process that runs has a number that stands for a process. -/
theorem ne_noProcess_of_runs (guarded : home.Guarded) {child : Child}
    (runs : home.table.runs child = true) : child.pid ≠ noProcess := by
  obtain ⟨handed, sound⟩ := guarded.sound
  have known := ProcessTable.known_of_owed (sound.orderly.owed_of_runs runs)
  have positive := guarded.positive child known
  rw [noProcess]
  omega

end Guarded

end Household

end ExtcapHost
