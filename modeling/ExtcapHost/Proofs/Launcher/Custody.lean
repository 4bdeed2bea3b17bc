/-
Module: ExtcapHost.Proofs.Launcher.Custody
Purpose: A launcher keeps every process that it started until the end of the
  process is known.
Main exports:
  LauncherCall, HouseEvent, Household.run, Household.started,
  Household.releasedRunning, Household.Sound, Household.Move, Household.no_child_lost
-/
import ExtcapHost.Proofs.Launcher.ProcessTable
import ExtcapHost.Proofs.Ordered

/-!
A household is a launcher together with the processes of its system.  Processes end
between the calls of the launcher, and the system may give the number of a process
that was waited for to a new one.  The launcher learns of an end only by polling, and
each poll is a side effect of some call: the invariant says where every process that
nobody has waited for is kept meanwhile.
-/

namespace ExtcapHost

/-- What a launcher is asked to do. -/
inductive LauncherCall where
  | spawn (command : List String)
  | release (pid : Int)
  | isRunning (pid : Int)

/-- What happens in a household. -/
inductive HouseEvent where
  /-- The launcher is called.  If it starts a process, the start comes to the given
  outcome. -/
  | call (call : LauncherCall) (outcome : Except Fault Int)
  /-- A process ends. -/
  | exit (serial : Nat) (status : Int)

/-- A launcher and the processes of its system. -/
structure Household where
  launcher : Launcher
  table : ProcessTable

namespace Household

/-- Nothing was started yet. -/
def founded : Household := ⟨.empty, .planned []⟩

/-- After a call of the launcher. -/
def called (home : Household) (call : LauncherCall) (outcome : Except Fault Int) : Household :=
  match call with
  | .spawn command =>
      let spawned := home.launcher.spawn (ProcessTable.kernel outcome) command home.table
      ⟨spawned.launcher, spawned.machine⟩
  | .release pid =>
      let (_, launcher, table) :=
        home.launcher.release (ProcessTable.kernel outcome) pid home.table
      ⟨launcher, table⟩
  | .isRunning pid =>
      let (_, launcher, table) :=
        home.launcher.isRunning (ProcessTable.kernel outcome) pid home.table
      ⟨launcher, table⟩

def step (home : Household) : HouseEvent → Household
  | .call call outcome => home.called call outcome
  | .exit serial status => { home with table := home.table.ended serial status }

def run (home : Household) : List HouseEvent → Household
  | [] => home
  | event :: rest => (home.step event).run rest

/-- After the poll of the released processes that each call begins with. -/
def reaped (home : Household) : Household :=
  ⟨{ home.launcher with released := home.launcher.released.filter home.table.runs },
    home.table.waited home.launcher.released⟩

/-- The process that an event starts. -/
def arriving (home : Household) : HouseEvent → List Child
  | .call (.spawn _) outcome =>
      (home.reaped.table.granted outcome).toList.map fun pid => (home.reaped.table.enroll pid).1
  | _ => []

/-- The tracked process that an event releases while it runs. -/
def departing (home : Household) : HouseEvent → List Child
  | .call (.release pid) _ =>
      (Ordered.get? pid home.launcher.tracked).toList.filter home.table.runs
  | _ => []

/-- What the events of a history give, one after the other. -/
def gathered (gives : Household → HouseEvent → List Child) (home : Household) :
    List HouseEvent → List Child
  | [] => []
  | event :: rest => gives home event ++ gathered gives (home.step event) rest

/-- All that were ever started, in that order. -/
def started (home : Household) (events : List HouseEvent) : List Child :=
  gathered arriving home events

/-- All that were released while they ran, in that order. -/
def releasedRunning (home : Household) (events : List HouseEvent) : List Child :=
  gathered departing home events

theorem gathered_append (gives : Household → HouseEvent → List Child) (home : Household)
    (first later : List HouseEvent) :
    gathered gives home (first ++ later) =
      gathered gives home first ++ gathered gives (home.run first) later := by
  induction first generalizing home with
  | nil => rfl
  | cons event rest ih => simp only [List.cons_append, gathered, ih, List.append_assoc, run]

theorem run_append (home : Household) (first later : List HouseEvent) :
    home.run (first ++ later) = (home.run first).run later := by
  induction first generalizing home with
  | nil => rfl
  | cons event rest ih => exact ih (home.step event)

/-! ### The invariant -/

/-- What holds of a household between any two events, where `handed` are the processes
that were released while they ran. -/
structure Sound (home : Household) (handed : List Child) : Prop where
  orderly : home.table.Orderly
  distinct : (Ordered.keys home.launcher.tracked).Nodup
  rows : ∀ row ∈ home.launcher.tracked,
    row.1 = row.2.pid ∧ 0 < row.1 ∧ row.2 ∈ home.table.children
  known : ∀ child ∈ handed, child ∈ home.table.children
  released : home.launcher.released = handed.filter home.table.owed
  /-- A process that nobody has waited for was released once or is tracked. -/
  placed : ∀ child, home.table.owed child = true →
    handed.count child =
      if Ordered.get? child.pid home.launcher.tracked = some child then 0 else 1

theorem founded_sound : founded.Sound [] where
  orderly := ⟨rfl, fun _ present => by cases present⟩
  distinct := .nil
  rows _ present := by cases present
  known _ present := by cases present
  released := rfl
  placed _ owed := by cases owed

variable {home : Household} {handed : List Child} {pid : Int} {child : Child}

namespace Sound

theorem row_of_found (sound : home.Sound handed)
    (found : Ordered.get? pid home.launcher.tracked = some child) :
    pid = child.pid ∧ 0 < pid ∧ child ∈ home.table.children :=
  sound.rows (pid, child) (Ordered.mem_of_get? found)

/-- A tracked process that nobody has waited for was not released. -/
theorem not_handed_of_found (sound : home.Sound handed)
    (found : Ordered.get? pid home.launcher.tracked = some child)
    (owed : home.table.owed child = true) : child ∉ handed := by
  have own : pid = child.pid := (sound.row_of_found found).1
  have count := sound.placed child owed
  rw [← own, if_pos found] at count
  exact List.count_eq_zero.mp count

theorem released_known (sound : home.Sound handed) (released : child ∈ home.launcher.released) :
    child ∈ home.table.children := by
  rw [sound.released] at released
  exact sound.known child (List.mem_filter.mp released).1

/-! ### Each change keeps it -/

/-- Nothing is lost where the same processes were started, and none is owed that was
not owed before. -/
theorem retabled (sound : home.Sound handed) {table : ProcessTable} {kept : List Child}
    (orderly : table.Orderly) (same : table.children = home.table.children)
    (fewer : ∀ child, table.owed child = true → home.table.owed child = true)
    (listed : kept = handed.filter table.owed) :
    Sound ⟨{ home.launcher with released := kept }, table⟩ handed where
  orderly := orderly
  distinct := sound.distinct
  rows row present := by
    rw [same]
    exact sound.rows row present
  known child member := by
    rw [same]
    exact sound.known child member
  released := listed
  placed child owed := sound.placed child (fewer child owed)

/-- Learning of ends keeps the invariant where no released process that has ended
is still on the list. -/
theorem waited (sound : home.Sound handed) {waiting kept : List Child}
    (listed : kept = handed.filter (home.table.waited waiting).owed) :
    Sound ⟨{ home.launcher with released := kept }, home.table.waited waiting⟩ handed := by
  apply sound.retabled (sound.orderly.waited waiting) (ProcessTable.children_waited waiting)
  · intro child owed
    rw [ProcessTable.owed_waited] at owed
    exact ((Bool.and_eq_true ..).mp owed).1
  · exact listed

/-- That a process ends is not yet known to anyone. -/
theorem exit (sound : home.Sound handed) (serial : Nat) (status : Int) :
    Sound { home with table := home.table.ended serial status } handed := by
  have same : (home.table.ended serial status).owed = home.table.owed :=
    funext fun _ => ProcessTable.owed_ended serial status
  apply sound.retabled (sound.orderly.ended serial status)
    (ProcessTable.children_ended serial status)
  · intro child owed
    rw [same] at owed
    exact owed
  · rw [same]
    exact sound.released

/-- Another tracked process keeps its row. -/
theorem get?_erase_of_ne (sound : home.Sound handed)
    (found : Ordered.get? pid home.launcher.tracked = some child) {other : Child}
    (different : other ≠ child) :
    Ordered.get? other.pid (Ordered.erase pid home.launcher.tracked) = some other ↔
      Ordered.get? other.pid home.launcher.tracked = some other := by
  by_cases same : other.pid = pid
  · rw [same, Ordered.get?_erase_self sound.distinct, found]
    simp only [reduceCtorEq, Option.some.injEq, false_iff]
    exact different.symm
  · rw [Ordered.get?_erase_other same]

theorem rows_erase (sound : home.Sound handed) (pid : Int) :
    ∀ row ∈ Ordered.erase pid home.launcher.tracked,
      row.1 = row.2.pid ∧ 0 < row.1 ∧ row.2 ∈ home.table.children :=
  fun row present => sound.rows row ((Ordered.erase_sublist pid _).mem present)

/-- A process that was waited for may be dropped. -/
theorem dropped (sound : home.Sound handed)
    (found : Ordered.get? pid home.launcher.tracked = some child)
    (told : home.table.owed child = false) :
    Sound ⟨⟨Ordered.erase pid home.launcher.tracked, home.launcher.released⟩, home.table⟩
      handed where
  orderly := sound.orderly
  distinct := Ordered.nodup_keys_erase sound.distinct pid
  rows := sound.rows_erase pid
  known := sound.known
  released := sound.released
  placed other owed := by
    have different : other ≠ child := by
      rintro rfl
      rw [told] at owed
      cases owed
    simp only [sound.get?_erase_of_ne found different]
    exact sound.placed other owed

/-- A process that runs goes from the tracked ones to the released ones. -/
theorem handedOver (sound : home.Sound handed)
    (found : Ordered.get? pid home.launcher.tracked = some child)
    (owed : home.table.owed child = true) :
    Sound ⟨⟨Ordered.erase pid home.launcher.tracked, home.launcher.released ++ [child]⟩,
      home.table⟩ (handed ++ [child]) where
  orderly := sound.orderly
  distinct := Ordered.nodup_keys_erase sound.distinct pid
  rows := sound.rows_erase pid
  known other member := by
    rcases List.mem_append.mp member with before | new
    · exact sound.known other before
    · rw [List.mem_singleton.mp new]
      exact (sound.row_of_found found).2.2
  released := by
    rw [List.filter_append, List.filter_singleton, owed, sound.released]
    rfl
  placed other otherOwed := by
    have own : pid = child.pid := (sound.row_of_found found).1
    rw [List.count_append]
    by_cases same : other = child
    · rw [same, ← own, Ordered.get?_erase_self sound.distinct,
        List.count_eq_zero.mpr (sound.not_handed_of_found found owed), List.count_singleton_self,
        if_neg nofun]
    · have absent : other ∉ [child] := fun member => same (List.mem_singleton.mp member)
      simp only [sound.get?_erase_of_ne found same]
      rw [sound.placed other otherOwed, List.count_eq_zero.mpr absent, Nat.add_zero]

/-- A new process gets a row.  If the row of its number was in use, then by a
process that was waited for. -/
theorem started (sound : home.Sound handed) (free : home.table.isFree pid = true) :
    Sound ⟨{ home.launcher with
        tracked := Ordered.put pid (home.table.enroll pid).1 home.launcher.tracked },
      (home.table.enroll pid).2⟩ handed where
  orderly := sound.orderly.enroll pid
  distinct := Ordered.nodup_keys_put sound.distinct pid _
  rows row present := by
    rw [ProcessTable.children_enroll, List.mem_append]
    rcases Ordered.mem_put present with rfl | before
    · exact ⟨rfl, of_decide_eq_true ((Bool.and_eq_true ..).mp free).1, .inr (.head _)⟩
    · obtain ⟨own, positive, known⟩ := sound.rows row before
      exact ⟨own, positive, .inl known⟩
  known other member := by
    rw [ProcessTable.children_enroll]
    exact List.mem_append_left _ (sound.known other member)
  released := by
    rw [sound.released]
    apply List.filter_congr
    intro other member
    exact (ProcessTable.owed_enroll_of_known pid (sound.known other member)).symm
  placed other owed := by
    have known := ProcessTable.known_of_owed owed
    rw [ProcessTable.children_enroll, List.mem_append, List.mem_singleton] at known
    rcases known with older | rfl
    · rw [ProcessTable.owed_enroll_of_known pid older] at owed
      rw [Ordered.get?_put_other (ProcessTable.pid_ne_of_isFree free owed)]
      exact sound.placed other owed
    · have fresh : (home.table.enroll pid).1 ∉ handed := fun member =>
        sound.orderly.new_child pid (sound.known _ member)
      rw [List.count_eq_zero.mpr fresh, ProcessTable.enroll, Ordered.get?_put_self, if_pos rfl]

end Sound

/-! ### What a call does -/

/-- After the poll of one process. -/
def polled (home : Household) (child : Child) : Household :=
  { home with table := home.table.waited [child] }

namespace Sound

theorem reap_eq (sound : home.Sound handed) (outcome : Except Fault Int) :
    home.launcher.reap (ProcessTable.kernel outcome) home.table =
      (home.reaped.launcher, home.reaped.table) := by
  rw [Launcher.reap, ProcessTable.pollAll_of_known sound.orderly fun child => sound.released_known]
  rfl

theorem reaped (sound : home.Sound handed) : home.reaped.Sound handed := by
  apply sound.waited
  rw [sound.released, List.filter_filter]
  apply List.filter_congr
  intro child member
  rw [ProcessTable.owed_waited]
  cases owed : home.table.owed child with
  | false => simp
  | true =>
      have listed : child ∈ handed.filter home.table.owed := List.mem_filter.mpr ⟨member, owed⟩
      simp [listed]

theorem polled (sound : home.Sound handed)
    (found : Ordered.get? pid home.launcher.tracked = some child) :
    (home.polled child).Sound handed := by
  apply sound.waited
  rw [sound.released]
  apply List.filter_congr
  intro other member
  rw [ProcessTable.owed_waited]
  cases owed : home.table.owed other with
  | false => simp
  | true =>
      have different : other ≠ child := by
        rintro rfl
        exact sound.not_handed_of_found found owed member
      simp [different]

end Sound

/-- What a call can do once the released processes were polled, which process it starts,
and which one it lets go of while that runs. -/
inductive Move (home : Household) : Household → List Child → List Child → Prop
  | nothing : home.Move home [] []
  | started (pid : Int) (free : home.table.isFree pid = true) :
      home.Move
        ⟨{ home.launcher with
            tracked := Ordered.put pid (home.table.enroll pid).1 home.launcher.tracked },
          (home.table.enroll pid).2⟩ [(home.table.enroll pid).1] []
  | polled (pid : Int) (child : Child)
      (found : Ordered.get? pid home.launcher.tracked = some child) :
      home.Move (home.polled child) [] []
  | released (pid : Int) (child : Child)
      (found : Ordered.get? pid home.launcher.tracked = some child)
      (runs : home.table.runs child = true) :
      home.Move
        ⟨⟨Ordered.erase pid home.launcher.tracked, home.launcher.released ++ [child]⟩,
          home.table⟩ [] [child]
  | dropped (pid : Int) (child : Child)
      (found : Ordered.get? pid home.launcher.tracked = some child)
      (ended : home.table.runs child = false) :
      home.Move
        ⟨⟨Ordered.erase pid home.launcher.tracked, home.launcher.released⟩,
          (home.polled child).table⟩ [] []

/-- A move adds what it starts to the processes of the system. -/
theorem Move.children {next : Household} {arrived left : List Child}
    (moved : home.Move next arrived left) :
    next.table.children = home.table.children ++ arrived := by
  cases moved with
  | nothing => rw [List.append_nil]
  | started pid free => exact ProcessTable.children_enroll pid
  | polled pid child found => rw [List.append_nil]; exact ProcessTable.children_waited _
  | released pid child found runs => rw [List.append_nil]
  | dropped pid child found ended => rw [List.append_nil]; exact ProcessTable.children_waited _

namespace Sound

variable {next : Household} {arrived left : List Child}

theorem move (sound : home.Sound handed) (moved : home.Move next arrived left) :
    next.Sound (handed ++ left) := by
  cases moved with
  | nothing => rw [List.append_nil]; exact sound
  | started pid free => rw [List.append_nil]; exact sound.started free
  | polled pid child found => rw [List.append_nil]; exact sound.polled found
  | released pid child found runs => exact sound.handedOver found (sound.orderly.owed_of_runs runs)
  | dropped pid child found ended =>
      rw [List.append_nil]
      apply (sound.polled found).dropped found
      simp [Household.polled, ProcessTable.owed_waited, ended]

/-- A call leaves no process on the list of released ones that has ended. -/
theorem released_run (sound : home.Sound handed) (moved : home.Move next arrived left)
    (running : ∀ child ∈ home.launcher.released, home.table.runs child = true) :
    ∀ child ∈ next.launcher.released, next.table.runs child = true := by
  intro child listed
  cases moved with
  | nothing => exact running child listed
  | started pid free =>
      rw [ProcessTable.runs_enroll_of_known pid (sound.released_known listed)]
      exact running child listed
  | polled pid other found =>
      rw [Household.polled, ProcessTable.runs_waited]
      exact running child listed
  | released pid other found runs =>
      rcases List.mem_append.mp listed with before | new
      · exact running child before
      · rw [List.mem_singleton.mp new]
        exact runs
  | dropped pid other found ended =>
      rw [Household.polled, ProcessTable.runs_waited]
      exact running child listed

/-- Number minus one is never tracked. -/
theorem found_ne_noProcess (sound : home.Sound handed)
    (found : Ordered.get? pid home.launcher.tracked = some child) : pid ≠ noProcess := by
  rintro rfl
  exact absurd (sound.row_of_found found).2.1 (by decide)

theorem release_eq_of_found (sound : home.Sound handed) (outcome : Except Fault Int)
    (found : Ordered.get? pid home.launcher.tracked = some child) :
    home.launcher.release (ProcessTable.kernel outcome) pid home.table =
      (true,
        ⟨Ordered.erase pid home.launcher.tracked,
          home.reaped.launcher.released ++ if home.table.runs child = true then [child] else []⟩,
        (home.reaped.polled child).table) := by
  have known := (sound.reaped.row_of_found found).2.2
  obtain ⟨status, polled, running⟩ := ProcessTable.poll_of_known sound.reaped.orderly known
  have asked : (ProcessTable.kernel outcome).poll child home.reaped.table =
      (status, (home.reaped.polled child).table) := polled
  rw [Household.reaped, ProcessTable.runs_waited] at running
  rw [Launcher.release_of_poll (sound.found_ne_noProcess found) (sound.reap_eq outcome) found asked]
  simp only [running]
  rfl

theorem release_eq_of_absent (sound : home.Sound handed) (outcome : Except Fault Int)
    (absent : Ordered.get? pid home.launcher.tracked = none) :
    home.launcher.release (ProcessTable.kernel outcome) pid home.table =
      (false, home.reaped.launcher, home.reaped.table) := by
  by_cases present : pid = noProcess
  · rw [Launcher.release, sound.reap_eq, present]
    rfl
  · exact Launcher.release_of_untracked present (sound.reap_eq outcome) absent

/-- A call polls the released processes, and then does one of the moves. -/
theorem called_moves (sound : home.Sound handed) (call : LauncherCall)
    (outcome : Except Fault Int) :
    home.reaped.Move (home.called call outcome) (home.arriving (.call call outcome))
      (home.departing (.call call outcome)) := by
  have reaped := sound.reap_eq outcome
  cases call with
  | spawn command =>
      cases granted : home.reaped.table.granted outcome with
      | none =>
          obtain ⟨fault, failed⟩ := ProcessTable.kernel_spawn_of_denied granted command
          obtain ⟨result, journal, spawned, -⟩ := Launcher.spawn_of_failed reaped failed
          simp only [called, spawned, arriving, departing, granted]
          exact .nothing
      | some pid =>
          obtain ⟨free, started⟩ := ProcessTable.kernel_spawn_of_granted granted command
          simp only [called, Launcher.spawn_of_started reaped started, arriving, departing, granted]
          exact .started pid free
  | release pid =>
      cases found : Ordered.get? pid home.launcher.tracked with
      | none =>
          simp only [called, sound.release_eq_of_absent outcome found, arriving, departing, found]
          exact .nothing
      | some child =>
          simp only [called, sound.release_eq_of_found outcome found, arriving, departing, found,
            Option.toList_some, List.filter_singleton]
          cases runs : home.table.runs child with
          | true =>
              have reapedRuns : home.reaped.table.runs child = true :=
                (ProcessTable.runs_waited _).trans runs
              have same : (home.reaped.polled child).table = home.reaped.table :=
                ProcessTable.waited_of_runs sound.reaped.orderly reapedRuns
              rw [same]
              exact .released pid child found reapedRuns
          | false =>
              simp only [Bool.false_eq_true, if_false, List.append_nil]
              exact .dropped pid child found ((ProcessTable.runs_waited _).trans runs)
  | isRunning pid =>
      by_cases present : pid = noProcess
      · rw [present]
        simp only [called, Launcher.isRunning_noProcess reaped, arriving, departing]
        exact .nothing
      · cases found : Ordered.get? pid home.launcher.tracked with
        | none =>
            simp only [called, Launcher.isRunning_of_untracked present reaped found, arriving,
              departing]
            exact .nothing
        | some child =>
            have known := (sound.reaped.row_of_found found).2.2
            obtain ⟨status, polled, -⟩ := ProcessTable.poll_of_known sound.reaped.orderly known
            have asked : (ProcessTable.kernel outcome).poll child home.reaped.table =
                (status, (home.reaped.polled child).table) := polled
            simp only [called, Launcher.isRunning_of_poll present reaped found asked, arriving,
              departing]
            exact .polled pid child found

/-! ### Whole histories -/

theorem step (sound : home.Sound handed) (event : HouseEvent) :
    (home.step event).Sound (handed ++ home.departing event) := by
  cases event with
  | call call outcome => exact sound.reaped.move (sound.called_moves call outcome)
  | exit serial status =>
      have nobody : home.departing (.exit serial status) = [] := rfl
      rw [nobody, List.append_nil]
      exact sound.exit serial status

theorem run (sound : home.Sound handed) (events : List HouseEvent) :
    (home.run events).Sound (handed ++ home.releasedRunning events) := by
  induction events generalizing home handed with
  | nil => rw [releasedRunning, gathered, List.append_nil]; exact sound
  | cons event rest ih =>
      rw [releasedRunning, gathered, ← List.append_assoc]
      exact ih (sound.step event)

theorem children_step (sound : home.Sound handed) (event : HouseEvent) :
    (home.step event).table.children = home.table.children ++ home.arriving event := by
  cases event with
  | call call outcome =>
      have moved := (sound.called_moves call outcome).children
      rw [Household.reaped, ProcessTable.children_waited] at moved
      exact moved
  | exit serial status =>
      have nobody : home.arriving (.exit serial status) = [] := rfl
      rw [nobody, List.append_nil]
      exact ProcessTable.children_ended serial status

/-- The system keeps the processes in the order of their start. -/
theorem children_run (sound : home.Sound handed) (events : List HouseEvent) :
    (home.run events).table.children = home.table.children ++ home.started events := by
  induction events generalizing home handed with
  | nil => exact (List.append_nil _).symm
  | cons event rest ih =>
      have later := ih (sound.step event)
      rw [sound.children_step event, List.append_assoc] at later
      exact later

/-- Right after a call, the released ones that are still kept are those that run. -/
theorem released_eq_of_call (sound : home.Sound handed) (call : LauncherCall)
    (outcome : Except Fault Int) :
    (home.called call outcome).launcher.released =
      (handed ++ home.departing (.call call outcome)).filter
        (home.called call outcome).table.runs := by
  have after : (home.called call outcome).Sound (handed ++ home.departing (.call call outcome)) :=
    sound.step (.call call outcome)
  have running := sound.reaped.released_run (sound.called_moves call outcome) fun child listed => by
    rw [Household.reaped, ProcessTable.runs_waited]
    exact (List.mem_filter.mp listed).2
  rw [after.released]
  apply List.filter_congr
  intro child member
  rw [Bool.eq_iff_iff]
  constructor
  · intro owed
    apply running
    rw [after.released]
    exact List.mem_filter.mpr ⟨member, owed⟩
  · exact after.orderly.owed_of_runs

/-- How often a process is tracked, by what is found under its number. -/
theorem count_tracked (sound : home.Sound handed) (child : Child) :
    (home.launcher.tracked.map fun row => row.2).count child =
      if Ordered.get? child.pid home.launcher.tracked = some child then 1 else 0 := by
  have numbers : (home.launcher.tracked.map fun row => row.2.pid) =
      Ordered.keys home.launcher.tracked :=
    List.map_congr_left fun row present => (sound.rows row present).1.symm
  have distinct : (home.launcher.tracked.map fun row => row.2).Nodup := by
    apply List.Nodup.of_map fun child => child.pid
    simp only [List.map_map, Function.comp_def, numbers]
    exact sound.distinct
  split
  next found =>
    exact List.count_eq_one_of_mem distinct
      (List.mem_map.mpr ⟨_, Ordered.mem_of_get? found, rfl⟩)
  next absent =>
    apply List.count_eq_zero.mpr
    intro present
    obtain ⟨⟨number, _⟩, row, rfl⟩ := List.mem_map.mp present
    have own : number = _ := (sound.rows _ row).1
    rw [own] at row
    exact absent (Ordered.get?_of_mem sound.distinct row)

theorem kept_once (sound : home.Sound handed) (owed : home.table.owed child = true) :
    (home.launcher.tracked.map fun row => row.2).count child +
      home.launcher.released.count child = 1 := by
  rw [sound.count_tracked, sound.released, List.count_filter owed, sound.placed child owed]
  split <;> rfl

theorem release_iff (sound : home.Sound handed) (outcome : Except Fault Int) (pid : Int) :
    (home.launcher.release (ProcessTable.kernel outcome) pid home.table).1 = true ↔
      pid ∈ home.launcher.pids := by
  cases found : Ordered.get? pid home.launcher.tracked with
  | none =>
      rw [sound.release_eq_of_absent outcome found]
      have absent := Ordered.get?_eq_none_iff.mp found
      constructor
      · intro isTrue
        cases isTrue
      · intro present
        exact absurd present absent
  | some child =>
      rw [sound.release_eq_of_found outcome found]
      simp only [true_iff]
      exact List.mem_map.mpr ⟨_, Ordered.mem_of_get? found, rfl⟩

end Sound

/-- Every process is accounted for, where `begun` are those that were started, and
`handed` those that were released while they ran. -/
structure Accounted (home : Household) (begun handed : List Child) : Prop where
  /-- The system knows the started processes and no others. -/
  children : home.table.children = begun
  /-- A process that nobody has waited for is kept in exactly one place. -/
  kept : ∀ child ∈ begun, home.table.owed child = true →
    (home.launcher.tracked.map fun row => row.2).count child +
      home.launcher.released.count child = 1
  /-- The tracked ones are found under their own numbers. -/
  tracked : ∀ row ∈ home.launcher.tracked, row.1 = row.2.pid
  /-- The released ones are those that have not ended since, in the order of release. -/
  released : home.launcher.released = handed.filter home.table.runs

/-- After any history that ends with a call, every process is accounted for.  A
release tells whether the number was tracked. -/
theorem no_child_lost (events : List HouseEvent) (call : LauncherCall)
    (outcome : Except Fault Int) :
    (founded.run (events ++ [.call call outcome])).Accounted
        (founded.started (events ++ [.call call outcome]))
        (founded.releasedRunning (events ++ [.call call outcome])) ∧
      ∀ pid start,
        ((founded.run events).launcher.release (ProcessTable.kernel start) pid
          (founded.run events).table).1 = true ↔ pid ∈ (founded.run events).launcher.pids := by
  have before : (founded.run events).Sound (founded.releasedRunning events) :=
    founded_sound.run events
  have whole : (founded.run (events ++ [.call call outcome])).Sound
      (founded.releasedRunning (events ++ [.call call outcome])) :=
    founded_sound.run _
  refine ⟨⟨?_, ?_, ?_, ?_⟩, ?_⟩
  · exact founded_sound.children_run _
  · intro child _ owed
    exact whole.kept_once owed
  · intro row present
    exact (whole.rows row present).1
  · rw [run_append, releasedRunning, gathered_append]
    simp only [run, gathered, List.append_nil]
    exact before.released_eq_of_call call outcome
  · intro pid start
    exact before.release_iff start pid

/-- The number of a process that a question has found ended is used again: the new
process takes its row, and once released it is the only one that is kept. -/
example :
    (founded.run [.call (.spawn ["helper"]) (.ok 7), .exit 0 0, .call (.isRunning 7) (.ok 8),
      .call (.spawn ["helper"]) (.ok 7), .call (.release 7) (.ok 8)]).launcher =
      ⟨[], [⟨7, 1⟩]⟩ := by
  decide

end Household

end ExtcapHost
