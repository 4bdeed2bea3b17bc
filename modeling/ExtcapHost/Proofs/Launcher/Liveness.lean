/-
Module: ExtcapHost.Proofs.Launcher.Liveness
Purpose: A launcher says of a process that it lives exactly until that process exits.
Main exports:
  ProcessTable.Truthful, ProcessTable.seenKernel, Household.exited, Household.asked,
  Household.Sound.runs_run, Household.Guarded.isRunning_eq_holderRuns,
  Household.ReportsExactly, Household.liveness_reports_exact
-/
import ExtcapHost.Proofs.Launcher.Holder

/-!
Whether a process lives is answered from one of three places: from a poll while it is
tracked, from the poll of all released processes that comes first, and from what the system
says of its number.  They agree because each of them tells what stands in the table of
processes.  What stands there is told in turn by the history alone: a process lives from its
start until the first exit after it.
-/

namespace ExtcapHost

namespace ProcessTable

variable {table : ProcessTable} {child : Child}

/-! ### What the system says of a number -/

/-- What is said of a number is true of the process that was given it last: it lives or may
not be looked at, it has ended and nobody has learned of that yet, or it is gone. -/
structure Truthful (look : ProcessTable → Int → ProcessStatus) : Prop where
  living : ∀ {table pid}, table.holderRuns pid = true →
    look table pid = .alive ∨ look table pid = .denied
  ended : ∀ {table pid child}, table.holder? pid = some child → table.runs child = false →
    table.owed child = true → look table pid = .zombie
  gone : ∀ {table pid},
    (∀ child ∈ table.holder? pid, table.runs child = false ∧ table.owed child = false) →
      look table pid = .absent

/-- A system that says this of the numbers. -/
def seenKernel (look : ProcessTable → Int → ProcessStatus) (outcome : Except Fault Int) :
    Kernel ProcessTable :=
  { kernel outcome with status := look }

variable {look : ProcessTable → Int → ProcessStatus} {outcome : Except Fault Int}

/-- A number lives, as far as the system tells, while its holder runs. -/
theorem Truthful.lives_eq (truthful : Truthful look) (pid : Int) (table : ProcessTable) :
    Launcher.livesBySystem (seenKernel look outcome) pid table = table.holderRuns pid := by
  have said : (seenKernel look outcome).status table pid = look table pid := rfl
  cases runs : table.holderRuns pid with
  | true =>
      rcases truthful.living runs with seen | seen
      · simp [Launcher.livesBySystem, said, seen]
      · simp [Launcher.livesBySystem, said, seen]
  | false =>
      have past : ∀ child ∈ table.holder? pid, table.runs child = false := by
        intro child holder
        rw [holderRuns, Option.mem_def.mp holder, Option.any_some] at runs
        exact runs
      by_cases known : ∃ child ∈ table.holder? pid, table.owed child = true
      · obtain ⟨child, holder, owed⟩ := known
        have seen := truthful.ended holder (past child holder) owed
        simp [Launcher.livesBySystem, said, seen]
      · have seen : look table pid = .absent := truthful.gone fun child holder =>
          ⟨past child holder, by simpa using fun owed => known ⟨child, holder, owed⟩⟩
        simp [Launcher.livesBySystem, said, seen]

/-- What is said of numbers is of no account when processes are polled. -/
theorem pollAll_seen (waiting : List Child) (table : ProcessTable) :
    Launcher.pollAll (seenKernel look outcome) waiting table =
      Launcher.pollAll (kernel outcome) waiting table := by
  induction waiting generalizing table with
  | nil => rfl
  | cons first rest ih =>
      simp only [Launcher.pollAll, ih]
      rfl

/-! ### When a process runs -/

/-- An end concerns the process of that serial number only. -/
theorem runs_ended (serial : Nat) (status : Int) :
    (table.ended serial status).runs child =
      (table.runs child && decide (child.serial ≠ serial)) := by
  rw [runs, ended_eq_amend, process?_amend, runs]
  · cases found : table.process? child with
    | none => rfl
    | some process =>
        have own := child_of_process? found
        simp only [Option.map_some, Option.any_some, own]
        by_cases same : child.serial = serial <;> simp [same]
  · intro process
    split <;> rfl

/-- A process that was just started runs. -/
theorem Orderly.runs_enroll_self (orderly : table.Orderly) (pid : Int) :
    (table.enroll pid).2.runs (table.enroll pid).1 = true := by
  have present : (⟨(table.enroll pid).1, none, false⟩ : Process) ∈
      (table.enroll pid).2.processes := List.mem_append_right _ (.head _)
  have found := (orderly.enroll pid).process?_of_mem present
  rw [runs, found]
  rfl

end ProcessTable

namespace Household

variable {home : Household} {handed : List Child} {child : Child}

/-! ### Histories of exits -/

/-- The process that an event ends. -/
def ending (home : Household) : HouseEvent → List Child
  | .exit serial _ => home.table.children.filter fun child => child.serial = serial
  | .call _ _ => []

/-- All that have exited. -/
def exited (home : Household) (events : List HouseEvent) : List Child :=
  gathered ending home events

/-- No call ends a process. -/
theorem Move.runs {next : Household} {arrived left : List Child}
    (moved : home.Move next arrived left) (known : child ∈ home.table.children) :
    next.table.runs child = home.table.runs child := by
  cases moved with
  | nothing => rfl
  | started pid free => exact ProcessTable.runs_enroll_of_known pid known
  | polled pid other found => exact ProcessTable.runs_waited _
  | released pid other found runs => rfl
  | dropped pid other found ended => exact ProcessTable.runs_waited _

/-- What a call starts runs. -/
theorem Move.runs_arrived {next : Household} {arrived left : List Child}
    (moved : home.Move next arrived left) (orderly : home.table.Orderly)
    (new : child ∈ arrived) : next.table.runs child = true := by
  cases moved with
  | started pid free =>
      rw [List.mem_singleton.mp new]
      exact orderly.runs_enroll_self pid
  | _ => cases new

namespace Sound

theorem runs_step (sound : home.Sound handed) (known : child ∈ home.table.children)
    (event : HouseEvent) :
    (home.step event).table.runs child =
      (home.table.runs child && decide (child ∉ home.ending event)) := by
  cases event with
  | exit serial status =>
      change (home.table.ended serial status).runs child = _
      rw [ProcessTable.runs_ended]
      simp [ending, known]
  | call call outcome =>
      have knownToo : child ∈ home.reaped.table.children := by
        rw [Household.reaped, ProcessTable.children_waited]
        exact known
      have same := (sound.called_moves call outcome).runs knownToo
      rw [Household.reaped, ProcessTable.runs_waited] at same
      change (home.called call outcome).table.runs child = _
      rw [same]
      simp [ending]

theorem known_step (sound : home.Sound handed) (known : child ∈ home.table.children)
    (event : HouseEvent) : child ∈ (home.step event).table.children := by
  rw [sound.children_step]
  exact List.mem_append_left _ known

/-- A process that is there runs on until it exits. -/
theorem runs_run (sound : home.Sound handed) (known : child ∈ home.table.children)
    (events : List HouseEvent) :
    (home.run events).table.runs child =
      (home.table.runs child && decide (child ∉ home.exited events)) := by
  induction events generalizing home handed with
  | nil => simp [Household.run, exited, gathered]
  | cons event rest ih =>
      have later := ih (sound.step event) (sound.known_step known event)
      rw [sound.runs_step known] at later
      rw [Household.run, later, exited, exited, gathered, Bool.and_assoc]
      simp

/-- A process runs from its start until it exits. -/
theorem runs_of_started (sound : home.Sound handed) {events : List HouseEvent}
    (begun : child ∈ home.started events) :
    (home.run events).table.runs child = decide (child ∉ home.exited events) := by
  induction events generalizing home handed with
  | nil => cases begun
  | cons event rest ih =>
      have after := sound.step event
      have inside : child ∈ home.arriving event ++ (home.step event).started rest := begun
      have exits : home.exited (event :: rest) =
          home.ending event ++ (home.step event).exited rest := rfl
      rw [Household.run, exits]
      rcases List.mem_append.mp inside with now | later
      · have known : child ∈ (home.step event).table.children := by
          rw [sound.children_step]
          exact List.mem_append_right _ now
        rw [after.runs_run known]
        cases event with
        | exit serial status => cases now
        | call call outcome =>
            have runs : (home.step (.call call outcome)).table.runs child = true :=
              (sound.called_moves call outcome).runs_arrived sound.reaped.orderly now
            rw [runs, Bool.true_and]
            rfl
      · -- It is not there yet, so the event cannot end it.
        have spared : child ∉ home.ending event := by
          intro ends
          cases event with
          | call call outcome => cases ends
          | exit serial status =>
              have early := (List.mem_filter.mp ends).1
              have distinct := (after.run rest).orderly.nodup_children
              rw [after.children_run] at distinct
              have there := sound.known_step early (.exit serial status)
              exact List.disjoint_of_nodup_append distinct there later
        rw [ih after later]
        simp [spared]

end Sound

/-! ### What is answered -/

/-- After a process was asked for: the released ones were polled, and so was the process
itself if it is tracked. -/
def asked (home : Household) (pid : Int) : Household :=
  match Ordered.get? pid home.launcher.tracked with
  | none => home.reaped
  | some child => home.reaped.polled child

theorem asked_launcher (home : Household) (pid : Int) :
    (home.asked pid).launcher = home.reaped.launcher := by
  unfold asked
  split <;> rfl

theorem asked_holderRuns (home : Household) (asked pid : Int) :
    (home.asked asked).table.holderRuns pid = home.table.holderRuns pid := by
  have reaped : home.reaped.table.holderRuns pid = home.table.holderRuns pid :=
    ProcessTable.holderRuns_waited _ pid
  unfold Household.asked
  split
  · exact reaped
  · exact (ProcessTable.holderRuns_waited _ pid).trans reaped

section

variable (look : ProcessTable → Int → ProcessStatus) (outcome : Except Fault Int)

theorem Sound.reap_seen (sound : home.Sound handed) :
    home.launcher.reap (ProcessTable.seenKernel look outcome) home.table =
      (home.reaped.launcher, home.reaped.table) := by
  rw [← sound.reap_eq outcome, Launcher.reap, ProcessTable.pollAll_seen, Launcher.reap]

/-- A question is answered from a poll and from what the system says. -/
theorem Sound.isRunning_eq (sound : home.Sound handed) (pid : Int) :
    home.launcher.isRunning (ProcessTable.seenKernel look outcome) pid home.table =
      (decide (pid ≠ noProcess) && (Ordered.get? pid home.launcher.tracked).all home.table.runs &&
          Launcher.livesBySystem (ProcessTable.seenKernel look outcome) pid (home.asked pid).table,
        (home.asked pid).launcher, (home.asked pid).table) := by
  have reaped := sound.reap_seen look outcome
  cases found : Ordered.get? pid home.launcher.tracked with
  | none =>
      by_cases nobody : pid = noProcess
      · rw [nobody] at found ⊢
        rw [Launcher.isRunning_noProcess reaped]
        simp [asked, found]
      · rw [Launcher.isRunning_of_untracked nobody reaped found]
        simp [asked, found, nobody]
  | some child =>
      have present := sound.found_ne_noProcess found
      have known := (sound.reaped.row_of_found found).2.2
      obtain ⟨status, polled, running⟩ := ProcessTable.poll_of_known sound.reaped.orderly known
      rw [Household.reaped, ProcessTable.runs_waited] at running
      have told : (ProcessTable.seenKernel look outcome).poll child home.reaped.table =
          (status, (home.reaped.polled child).table) := polled
      rw [Launcher.isRunning_of_poll present reaped found told]
      simp [asked, found, present, running, Household.polled]

end

/-- A question is a call like others, whatever the system says. -/
theorem Sound.called_isRunning (sound : home.Sound handed) (pid : Int)
    (outcome : Except Fault Int) : home.called (.isRunning pid) outcome = home.asked pid := by
  have answered := sound.isRunning_eq ProcessTable.status outcome pid
  have same : ProcessTable.seenKernel ProcessTable.status outcome = ProcessTable.kernel outcome :=
    rfl
  rw [same] at answered
  simp only [called, answered]

/-- The answer is whether the process that was given the number last runs. -/
theorem Guarded.isRunning_eq_holderRuns (guarded : home.Guarded)
    {look : ProcessTable → Int → ProcessStatus} (truthful : ProcessTable.Truthful look)
    (outcome : Except Fault Int) {pid : Int} (present : pid ≠ noProcess) :
    (home.launcher.isRunning (ProcessTable.seenKernel look outcome) pid home.table).1 =
      home.table.holderRuns pid := by
  obtain ⟨handed, sound⟩ := guarded.sound
  rw [sound.isRunning_eq, truthful.lives_eq, home.asked_holderRuns, decide_eq_true present,
    Bool.true_and]
  cases found : Ordered.get? pid home.launcher.tracked with
  | none => rfl
  | some child =>
      -- The tracked process holds the number, so both ask for the same one.
      have holder := guarded.holds pid child found
      simp only [ProcessTable.holderRuns, holder, Option.all_some, Option.any_some, Bool.and_self]

theorem Guarded.run (guarded : home.Guarded) (events : List HouseEvent) :
    (home.run events).Guarded := by
  induction events generalizing home with
  | nil => exact guarded
  | cons event rest ih =>
      apply ih
      cases event with
      | call call outcome => exact guarded.called call outcome
      | exit serial status => exact guarded.exit serial status

/-- Where no number was given twice, every process holds its own. -/
theorem holder?_of_fresh {table : ProcessTable}
    (fresh : (table.children.map Child.pid).Nodup) (known : child ∈ table.children) :
    table.holder? child.pid = some child := by
  have distinct : (table.children.reverse.map Child.pid).Nodup := by
    rw [List.map_reverse, List.nodup_reverse]
    exact fresh
  exact ProcessTable.find?_of_key distinct (List.mem_reverse.mpr known)

/-! ### Numbers that were answered -/

/-- The number was the answer to a start. -/
def Answered (events : List HouseEvent) (pid : Int) : Prop :=
  ∃ front command outcome back, events = front ++ .call (.spawn command) outcome :: back ∧
    ((founded.run front).launcher.spawn (ProcessTable.kernel outcome) command
      (founded.run front).table).result = .ok pid ∧ pid ≠ noProcess

/-- A start answers with the number of the process that it has started. -/
theorem Sound.arriving_of_answer (sound : home.Sound handed) {command : List String}
    {outcome : Except Fault Int} {pid : Int} (present : pid ≠ noProcess)
    (answered : (home.launcher.spawn (ProcessTable.kernel outcome) command home.table).result =
      .ok pid) :
    ∃ child ∈ home.arriving (.call (.spawn command) outcome), child.pid = pid := by
  have reaped := sound.reap_eq outcome
  cases granted : home.reaped.table.granted outcome with
  | none =>
      obtain ⟨fault, failed⟩ := ProcessTable.kernel_spawn_of_denied granted command
      obtain ⟨result, journal, spawned, either⟩ := Launcher.spawn_of_failed reaped failed
      rw [spawned] at answered
      rcases either with rfl | rfl
      · exact absurd (Except.ok.inj answered).symm present
      · cases answered
  | some number =>
      obtain ⟨free, started⟩ := ProcessTable.kernel_spawn_of_granted granted command
      rw [Launcher.spawn_of_started reaped started] at answered
      refine ⟨(home.reaped.table.enroll number).1, ?_, Except.ok.inj answered⟩
      simp [arriving, granted]

theorem started_of_answered {events : List HouseEvent} {pid : Int}
    (answered : Answered events pid) : ∃ child ∈ founded.started events, child.pid = pid := by
  obtain ⟨front, command, outcome, back, rfl, result, present⟩ := answered
  obtain ⟨child, arrived, named⟩ :=
    (founded_sound.run front).arriving_of_answer present result
  refine ⟨child, ?_, named⟩
  rw [started, gathered_append, gathered]
  exact List.mem_append_right _ (List.mem_append_left _ arrived)

/-! ### Exact reports -/

/-- Reports on processes are exact, where `ask` is what the launcher of the household
answers, `begun` are the processes that were started, and `past` those that have exited. -/
structure ReportsExactly (home : Household) (begun past : List Child)
    (ask : Int → Bool × Launcher × ProcessTable) : Prop where
  /-- A process is said to live exactly while it has not exited. -/
  exact : ∀ child ∈ begun, (ask child.pid).1 = true ↔ child ∉ past
  nobody : (ask noProcess).1 = false
  /-- A question leaves the tracked numbers as they are. -/
  pids : ∀ pid, (ask pid).2.1.pids = home.launcher.pids
  /-- It removes the released processes that have exited, and no others. -/
  released : ∀ pid, (ask pid).2.1.released =
    home.launcher.released.filter fun child => child ∉ past

/-- After every history in which no number was given twice, reports on processes are exact
on a system that tells the truth.  The numbers that starts have answered are those of
processes that were started, and a question can be followed by any other event. -/
theorem liveness_reports_exact (events : List HouseEvent)
    (fresh : ((founded.started events).map Child.pid).Nodup)
    {look : ProcessTable → Int → ProcessStatus} (truthful : ProcessTable.Truthful look)
    (outcome : Except Fault Int) :
    let home := founded.run events
    let ask := fun pid =>
      home.launcher.isRunning (ProcessTable.seenKernel look outcome) pid home.table
    home.ReportsExactly (founded.started events) (founded.exited events) ask ∧
      (∀ pid, Answered events pid → ∃ child ∈ founded.started events, child.pid = pid) ∧
      ∀ pid, (⟨(ask pid).2.1, (ask pid).2.2⟩ : Household) =
        founded.run (events ++ [.call (.isRunning pid) outcome]) := by
  intro home ask
  have guarded : home.Guarded := founded_guarded.run events
  have sound : home.Sound (founded.releasedRunning events) := founded_sound.run events
  have children : home.table.children = founded.started events := founded_sound.children_run events
  have answer (pid : Int) : ask pid = _ := sound.isRunning_eq look outcome pid
  refine ⟨⟨?exact, ?nobody, ?pids, ?released⟩, fun pid => started_of_answered, ?_⟩
  case exact =>
    intro child begun
    have known : child ∈ home.table.children := by rwa [children]
    have runs := founded_sound.runs_of_started begun
    have holder : home.table.holder? child.pid = some child :=
      holder?_of_fresh (by rwa [children]) known
    have positive := guarded.positive child known
    have present : child.pid ≠ noProcess := by
      rw [noProcess]
      omega
    have report := guarded.isRunning_eq_holderRuns truthful outcome present
    rw [ProcessTable.holderRuns, holder, Option.any_some, runs] at report
    rw [report, decide_eq_true_iff]
  case nobody =>
    rw [answer]
    rfl
  case pids =>
    intro pid
    rw [answer, asked_launcher]
    rfl
  case released =>
    intro pid
    rw [answer, asked_launcher]
    apply List.filter_congr
    intro child listed
    have begun : child ∈ founded.started events := by
      rw [← children]
      exact sound.released_known listed
    exact founded_sound.runs_of_started begun
  · intro pid
    rw [run_append]
    have called := sound.called_isRunning pid outcome
    simp only [answer]
    exact called.symm

/-- A system that does not let anyone look at process seven. -/
def waryLook (table : ProcessTable) (pid : Int) : ProcessStatus :=
  if table.holderRuns pid then if pid = 7 then .denied else .alive
  else if (table.holder? pid).any table.owed then .zombie
  else .absent

theorem waryLook_truthful : ProcessTable.Truthful waryLook where
  living := by
    intro table pid runs
    rw [waryLook, if_pos runs]
    split
    · exact .inr rfl
    · exact .inl rfl
  ended := by
    intro table pid child holder past owed
    have stopped : ¬table.holderRuns pid = true := by
      simp [ProcessTable.holderRuns, holder, past]
    rw [waryLook, if_neg stopped, if_pos (by rw [holder]; exact owed)]
  gone := by
    intro table pid gone
    cases holder : table.holder? pid with
    | none => simp [waryLook, ProcessTable.holderRuns, holder]
    | some child =>
        obtain ⟨past, told⟩ := gone child holder
        simp [waryLook, ProcessTable.holderRuns, holder, past, told]

/-- Of three processes one is tracked, one was released and has exited since, and one was
released and runs: the first and the third are said to live. -/
theorem released_and_tracked_reported :
    let events : List HouseEvent := [.call (.spawn ["a"]) (.ok 7), .call (.spawn ["b"]) (.ok 8),
      .call (.spawn ["c"]) (.ok 9), .call (.release 8) (.ok 0), .call (.release 9) (.ok 0),
      .exit 1 0]
    let home := founded.run events
    ((founded.started events).map Child.pid).Nodup ∧
      home.launcher = ⟨[(7, ⟨7, 0⟩)], [⟨8, 1⟩, ⟨9, 2⟩]⟩ ∧
      home.ReportsExactly [⟨7, 0⟩, ⟨8, 1⟩, ⟨9, 2⟩] [⟨8, 1⟩] fun pid =>
        home.launcher.isRunning (ProcessTable.seenKernel waryLook (.ok 0)) pid home.table := by
  intro events home
  have fresh : ((founded.started events).map Child.pid).Nodup := by decide
  exact ⟨fresh, by decide, (liveness_reports_exact events fresh waryLook_truthful (.ok 0)).1⟩

end Household

end ExtcapHost
