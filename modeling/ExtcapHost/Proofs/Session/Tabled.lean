/-
Module: ExtcapHost.Proofs.Session.Tabled
Purpose: Sessions on a system whose processes stand in a table.
Main exports:
  Crew.Keeps, Crew.Keeps.run, Crew.Tabled, Crew.Tabled.guarded_run, Crew.dropped,
  Crew.ServesHolders, Crew.Tabled.servesHolders
-/
import ExtcapHost.Proofs.Launcher.Holder
import ExtcapHost.Proofs.Session.Recording
import ExtcapHost.Proofs.Session.Turn

/-!
Of a system we suppose that its processes can be told in a table, from which a start takes
a free number, a poll takes the end of a process, and the answers about a number are read.
The calls of the launcher on such a system are calls of a household, so what a household
keeps is kept by every run of sessions; and what is answered about an entry is then known
from the table alone.
-/

namespace ExtcapHost

variable {σ : Type}

/-! ### What the calls keep is kept by a run -/

/-- No call breaks a statement on the launcher and the machine. -/
structure Crew.Keeps (crew : Crew σ) (kept : Launcher → σ → Prop) : Prop where
  create : ∀ {launcher machine}, kept launcher machine →
    kept launcher (crew.maker.create machine).2
  remove : ∀ path handle {launcher machine}, kept launcher machine →
    kept launcher (crew.maker.release path handle machine).2
  spawn : ∀ command {launcher machine}, kept launcher machine →
    kept (launcher.spawn crew.kernel command machine).launcher
      (launcher.spawn crew.kernel command machine).machine
  release : ∀ pid {launcher machine}, kept launcher machine →
    kept (launcher.release crew.kernel pid machine).2.1
      (launcher.release crew.kernel pid machine).2.2
  isRunning : ∀ pid {launcher machine}, kept launcher machine →
    kept (launcher.isRunning crew.kernel pid machine).2.1
      (launcher.isRunning crew.kernel pid machine).2.2

/-- What happens between two requests does not break the statement either. -/
def Move.Keeps (kept : Launcher → σ → Prop) : Move σ → Prop
  | .elapse change => ∀ launcher machine, kept launcher machine → kept launcher (change machine)
  | _ => True

/-- The statement holds of the launcher and the machine of a desk. -/
def Desk.Meets (kept : Launcher → σ → Prop) (desk : Desk σ) : Prop :=
  kept desk.launcher desk.machine

namespace Crew.Keeps

variable {crew : Crew σ} {kept : Launcher → σ → Prop} (keeps : crew.Keeps kept) {desk : Desk σ}

include keeps

theorem letGo (pid : Int) (start : desk.Meets kept) : (crew.letGo pid desk).Meets kept := by
  unfold Crew.letGo
  split
  · exact start
  · exact keeps.release pid start

theorem launch (entry : Entry) (channel : Channel) (start : desk.Meets kept) :
    (crew.launch entry channel desk).2.Meets kept := by
  have stays := keeps.spawn (entry.command channel.path) start
  rcases spawned : desk.launcher.spawn crew.kernel (entry.command channel.path) desk.machine with
    ⟨result, launcher, notes, next⟩
  rw [spawned] at stays
  cases result with
  | error fault =>
      rw [launch_of_raised spawned]
      exact stays
  | ok pid =>
      rw [launch_of_spawned spawned]
      split <;> exact stays

theorem startEach (entries : List Entry) (start : desk.Meets kept) :
    (crew.startEach entries desk).desk.Meets kept := by
  induction entries generalizing desk with
  | nil => exact start
  | cons entry rest ih =>
      cases waiting : entry.waiting with
      | false =>
          rw [startEach_of_idle waiting]
          exact ih start
      | true =>
          rcases made : crew.maker.create desk.machine with ⟨outcome, next⟩
          have created : Desk.Meets kept { desk with machine := next } := by
            have stays := keeps.create start
            rw [made] at stays
            exact stays
          cases outcome with
          | error fault =>
              rcases fault.foreign_or_own with foreign | ⟨error, rfl⟩
              · rw [startEach_of_failed waiting foreign made]
                exact created
              · rw [startEach_of_refused waiting made]
                exact created
          | ok channel =>
              have stays := keeps.launch (entry.opened channel) channel created
              rcases launched : crew.launch (entry.opened channel) channel
                { desk with machine := next } with ⟨result, later⟩
              rw [launched] at stays
              cases result with
              | error fault =>
                  rw [startEach_of_stranded waiting made launched]
                  exact stays
              | ok spawned =>
                  rw [startEach_of_launched waiting made launched]
                  exact ih stays

theorem start (session : Session) (start : desk.Meets kept) :
    (crew.start session desk).2.2.Meets kept := by
  have passed := keeps.startEach session.entries start
  by_cases completed : (crew.startEach session.entries desk).result = .ok true
  · rw [start_of_completed completed]
    exact passed
  · rw [start_of_ended completed]
    exact passed

theorem unlink (entry : Entry) (start : desk.Meets kept) :
    (crew.unlink entry desk).2.Meets kept := by
  have removed := keeps.remove entry.channel entry.handle start
  unfold Crew.unlink
  split
  · split <;> simp_all [Desk.Meets, Desk.note]
  · exact start

theorem closeEach (entries : List Entry) (start : desk.Meets kept) :
    (crew.closeEach entries desk).desk.Meets kept := by
  induction entries generalizing desk with
  | nil => exact start
  | cons entry rest ih =>
      cases backed : entry.isBacked with
      | false =>
          rw [closeEach_of_native backed]
          exact ih start
      | true =>
          have stays := keeps.unlink entry start
          rcases done : crew.unlink entry desk with ⟨result, later⟩
          rw [done] at stays
          cases result with
          | error fault =>
              rw [closeEach_of_stuck backed done]
              exact stays
          | ok unlinked =>
              rw [closeEach_of_unlinked backed done]
              exact ih (keeps.letGo entry.pid stays)

theorem runningEach (entries : List Entry) (start : desk.Meets kept) :
    (crew.runningEach entries desk).2.Meets kept := by
  induction entries generalizing desk with
  | nil => exact start
  | cons entry rest ih =>
      cases watched : entry.isBacked && entry.hasProcess with
      | false =>
          rw [runningEach_of_idle watched]
          exact ih start
      | true =>
          have stays := keeps.isRunning entry.pid start
          rcases asked : desk.launcher.isRunning crew.kernel entry.pid desk.machine with
            ⟨lives, launcher, next⟩
          rw [asked] at stays
          rw [runningEach_of_asked watched asked]
          exact ih stays

theorem serve (session : Session) {move : Move σ} (natural : move.Keeps kept)
    (start : desk.Meets kept) : (crew.serve session desk move).2.Meets kept := by
  cases move with
  | addNative name => exact start
  | addBacked name helper arguments => exact start
  | addInterface registry name arguments =>
      simp only [Crew.serve, addInterface]
      split <;> exact start
  | start => exact keeps.start session start
  | cleanup => exact keeps.closeEach session.entries start
  | running => exact keeps.runningEach session.entries start
  | elapse change => exact natural desk.launcher desk.machine start

/-- What no call and no change in between breaks holds after a run. -/
theorem run {hall : Hall σ} {moves : List (Nat × Move σ)}
    (natural : ∀ move ∈ moves, move.2.Keeps kept) (start : hall.desk.Meets kept) :
    (hall.run crew moves).desk.Meets kept := by
  induction moves generalizing hall with
  | nil => exact start
  | cons move rest ih =>
      refine ih (fun other later => natural other (.tail _ later)) ?_
      unfold Hall.step
      split
      · exact start
      · exact keeps.serve _ (natural move (.head _)) start

end Crew.Keeps

/-! ### Systems with a table of processes -/

/-- The processes of a system stand in a table. -/
structure Crew.Tabled (crew : Crew σ) (table : σ → ProcessTable) : Prop where
  /-- While a channel is made, no more can happen than that processes end. -/
  create : ∀ machine, (table machine).Ends (table (crew.maker.create machine).2)
  /-- So it is while a channel is removed. -/
  remove : ∀ path handle machine,
    (table machine).Ends (table (crew.maker.release path handle machine).2)
  /-- A new process is given a positive number that no process holds whose end is not known. -/
  spawn : ∀ command machine, ∃ outcome,
    (ProcessTable.kernel outcome).spawn command (table machine) =
      ((crew.kernel.spawn command machine).1, table (crew.kernel.spawn command machine).2)
  /-- A poll tells the end of the process and makes it known. -/
  poll : ∀ child machine, (table machine).poll child =
    ((crew.kernel.poll child machine).1, table (crew.kernel.poll child machine).2)
  /-- A number is said to live when the process that was given it last runs.  The numbers
  that were given out here are those of no other processes. -/
  truthful : ∀ pid machine, Launcher.livesBySystem crew.kernel pid machine =
    (table machine).holderRuns pid

/-- Between two requests, no more happens to the processes than that some end. -/
def Move.Natural (table : σ → ProcessTable) : Move σ → Prop
  | .elapse change => ∀ machine, (table machine).Ends (table (change machine))
  | _ => True

/-- The launcher and the processes of a system. -/
def household (table : σ → ProcessTable) (launcher : Launcher) (machine : σ) : Household :=
  ⟨launcher, table machine⟩

/-- The household of a launcher and a machine is guarded. -/
def AllGuarded (table : σ → ProcessTable) (launcher : Launcher) (machine : σ) : Prop :=
  (household table launcher machine).Guarded

namespace Crew.Tabled

variable {crew : Crew σ} {table : σ → ProcessTable} (tabled : crew.Tabled table)

include tabled

/-! ### Calls of the launcher are calls of a household -/

theorem pollAll_eq (outcome : Except Fault Int) (children : List Child) (machine : σ) :
    Launcher.pollAll (ProcessTable.kernel outcome) children (table machine) =
      ((Launcher.pollAll crew.kernel children machine).1,
        table (Launcher.pollAll crew.kernel children machine).2) := by
  induction children generalizing machine with
  | nil => rfl
  | cons child rest ih =>
      rcases polled : crew.kernel.poll child machine with ⟨status, next⟩
      have polledToo : (ProcessTable.kernel outcome).poll child (table machine) =
          (status, table next) := by
        have told := tabled.poll child machine
        rw [polled] at told
        exact told
      rw [Launcher.pollAll_of_poll polled, Launcher.pollAll_of_poll polledToo, ih]

theorem reap_eq (outcome : Except Fault Int) (launcher : Launcher) (machine : σ) :
    launcher.reap (ProcessTable.kernel outcome) (table machine) =
      ((launcher.reap crew.kernel machine).1, table (launcher.reap crew.kernel machine).2) := by
  simp only [Launcher.reap, tabled.pollAll_eq outcome launcher.released machine]

variable {launcher kept : Launcher} {machine next : σ}

theorem spawn_called (launcher : Launcher) (command : List String) (machine : σ) :
    ∃ outcome, (household table launcher machine).called (.spawn command) outcome =
      household table (launcher.spawn crew.kernel command machine).launcher
        (launcher.spawn crew.kernel command machine).machine := by
  rcases reaped : launcher.reap crew.kernel machine with ⟨kept, next⟩
  obtain ⟨outcome, started⟩ := tabled.spawn command next
  have reapedToo := tabled.reap_eq outcome launcher machine
  rw [reaped] at reapedToo
  rcases spawned : crew.kernel.spawn command next with ⟨result, last⟩
  rw [spawned] at started
  refine ⟨outcome, ?_⟩
  simp only [household, Household.called]
  cases result with
  | ok child =>
      rw [Launcher.spawn_of_started reaped spawned, Launcher.spawn_of_started reapedToo started]
  | error fault =>
      obtain ⟨_, _, failed, -⟩ := Launcher.spawn_of_failed reaped spawned
      obtain ⟨_, _, failedToo, -⟩ := Launcher.spawn_of_failed reapedToo started
      rw [failed, failedToo]

theorem release_called (outcome : Except Fault Int) (launcher : Launcher) (pid : Int)
    (machine : σ) :
    (household table launcher machine).called (.release pid) outcome =
      household table (launcher.release crew.kernel pid machine).2.1
        (launcher.release crew.kernel pid machine).2.2 := by
  rcases reaped : launcher.reap crew.kernel machine with ⟨kept, next⟩
  have reapedToo := tabled.reap_eq outcome launcher machine
  rw [reaped] at reapedToo
  simp only [household, Household.called]
  by_cases absent : pid = noProcess
  · simp only [Launcher.release, reaped, reapedToo, absent, if_true]
  · cases found : Ordered.get? pid kept.tracked with
    | none =>
        rw [Launcher.release_of_untracked absent reaped found,
          Launcher.release_of_untracked absent reapedToo found]
    | some child =>
        rcases polled : crew.kernel.poll child next with ⟨status, last⟩
        have polledToo := tabled.poll child next
        rw [polled] at polledToo
        rw [Launcher.release_of_poll absent reaped found polled,
          Launcher.release_of_poll absent reapedToo found polledToo]

theorem isRunning_called (outcome : Except Fault Int) (launcher : Launcher) (pid : Int)
    (machine : σ) :
    (household table launcher machine).called (.isRunning pid) outcome =
      household table (launcher.isRunning crew.kernel pid machine).2.1
        (launcher.isRunning crew.kernel pid machine).2.2 := by
  rcases reaped : launcher.reap crew.kernel machine with ⟨kept, next⟩
  have reapedToo := tabled.reap_eq outcome launcher machine
  rw [reaped] at reapedToo
  simp only [household, Household.called]
  by_cases absent : pid = noProcess
  · rw [absent, Launcher.isRunning_noProcess reaped, Launcher.isRunning_noProcess reapedToo]
  · cases found : Ordered.get? pid kept.tracked with
    | none =>
        rw [Launcher.isRunning_of_untracked absent reaped found,
          Launcher.isRunning_of_untracked absent reapedToo found]
    | some child =>
        rcases polled : crew.kernel.poll child next with ⟨status, last⟩
        have polledToo := tabled.poll child next
        rw [polled] at polledToo
        rw [Launcher.isRunning_of_poll absent reaped found polled,
          Launcher.isRunning_of_poll absent reapedToo found polledToo]

/-- The household of a system stays guarded. -/
theorem keeps : crew.Keeps (AllGuarded table) where
  create guarded := guarded.ends (tabled.create _)
  remove path handle _ _ guarded := guarded.ends (tabled.remove path handle _)
  spawn command launcher machine guarded := by
    obtain ⟨outcome, called⟩ := tabled.spawn_called launcher command machine
    rw [AllGuarded, ← called]
    exact guarded.called (.spawn command) outcome
  release pid launcher machine guarded := by
    rw [AllGuarded, ← tabled.release_called (.ok 0) launcher pid machine]
    exact guarded.called (.release pid) (.ok 0)
  isRunning pid launcher machine guarded := by
    rw [AllGuarded, ← tabled.isRunning_called (.ok 0) launcher pid machine]
    exact guarded.called (.isRunning pid) (.ok 0)

/-- It stays so in every run that begins with no processes. -/
theorem guarded_run {machine : σ} (fresh : table machine = .planned []) (count : Nat)
    (journal : List Note) {moves : List (Nat × Move σ)}
    (natural : ∀ move ∈ moves, move.2.Natural table) :
    ((Hall.opened count ⟨.empty, journal, machine⟩).run crew moves).desk.Meets
      (AllGuarded table) := by
  refine tabled.keeps.run (fun move among => ?_) ?_
  · have harmless := natural move among
    rcases move with ⟨number, move⟩
    cases move with
    | elapse change => exact fun launcher machine guarded => guarded.ends (harmless machine)
    | _ => trivial
  · change (household table .empty machine).Guarded
    rw [household, fresh]
    exact Household.founded_guarded

/-! ### What is answered about entries -/

/-- Reaping is that of the household. -/
theorem household_reap (guarded : AllGuarded table launcher machine)
    (reaped : launcher.reap crew.kernel machine = (kept, next)) :
    household table kept next = (household table launcher machine).reaped := by
  obtain ⟨handed, sound⟩ := guarded.sound
  have both := sound.reap_eq (.ok 0)
  simp only [household] at both
  rw [tabled.reap_eq, reaped] at both
  obtain ⟨keptIs, nextIs⟩ := Prod.mk.inj both
  exact congrArg₂ Household.mk keptIs nextIs

/-- Whether a number lives is whether the process that was given it last runs. -/
theorem isRunning_eq (guarded : AllGuarded table launcher machine) {pid : Int}
    (present : pid ≠ noProcess) :
    (launcher.isRunning crew.kernel pid machine).1 = (table machine).holderRuns pid := by
  rcases reaped : launcher.reap crew.kernel machine with ⟨kept, next⟩
  have home := tabled.household_reap guarded reaped
  have unchanged : (table next).holderRuns pid = (table machine).holderRuns pid := by
    have nextIs : table next = (household table launcher machine).reaped.table :=
      congrArg Household.table home
    rw [nextIs]
    exact ProcessTable.holderRuns_waited _ pid
  cases found : Ordered.get? pid kept.tracked with
  | none =>
      rw [Launcher.isRunning_of_untracked present reaped found, tabled.truthful, unchanged]
  | some child =>
      have guardedToo : AllGuarded table kept next := by
        rw [AllGuarded, home]
        exact guarded.reaped
      obtain ⟨handed, sound⟩ := guardedToo.sound
      have holder : (table next).holder? pid = some child := guardedToo.holds pid child found
      have known : child ∈ (table next).children := (sound.row_of_found found).2.2
      have orderly : (table next).Orderly := sound.orderly
      obtain ⟨status, answer, running⟩ := ProcessTable.poll_of_known orderly known
      rcases polled : crew.kernel.poll child next with ⟨told, last⟩
      have both := (tabled.poll child next).symm.trans answer
      rw [polled, Prod.mk.injEq] at both
      obtain ⟨rfl, lastIs⟩ := both
      have still : (table last).holderRuns pid = (table next).holderRuns pid := by
        rw [lastIs]
        exact ProcessTable.holderRuns_waited _ pid
      have decided : (table next).holderRuns pid = (table next).runs child := by
        rw [ProcessTable.holderRuns, holder, Option.any_some]
      rw [Launcher.isRunning_of_poll present reaped found polled, tabled.truthful, still,
        ← unchanged, decided]
      cases told with
      | none => simp
      | some status =>
          have ended : (table next).runs child = false := by
            rw [← Bool.not_eq_true]
            simpa using running
          simp [ended]

/-- Asking whether one process lives changes nothing about the others. -/
theorem holderRuns_isRunning (guarded : AllGuarded table launcher machine) (asked pid : Int) :
    (table (launcher.isRunning crew.kernel asked machine).2.2).holderRuns pid =
      (table machine).holderRuns pid := by
  have same := guarded.holderRuns_isRunning asked (.ok 0) pid
  rw [tabled.isRunning_called (.ok 0)] at same
  exact same

/-- The running entries of a session are those whose number was given last to a process
that runs. -/
theorem runningEach_eq (entries : List Entry) {desk : Desk σ}
    (guarded : desk.Meets (AllGuarded table)) :
    (crew.runningEach entries desk).1 = entries.filter fun entry =>
      entry.isBacked && entry.hasProcess && (table desk.machine).holderRuns entry.pid := by
  induction entries generalizing desk with
  | nil => rfl
  | cons entry rest ih =>
      cases watched : entry.isBacked && entry.hasProcess with
      | false =>
          rw [Crew.runningEach_of_idle watched, ih guarded,
            List.filter_cons_of_neg (by simp [watched])]
      | true =>
          have present : entry.pid ≠ noProcess := by
            simpa [Entry.hasProcess] using ((Bool.and_eq_true ..).mp watched).2
          have lives := tabled.isRunning_eq guarded present
          have unchanged := tabled.holderRuns_isRunning guarded entry.pid
          have stays := tabled.keeps.isRunning entry.pid guarded
          rcases asked : desk.launcher.isRunning crew.kernel entry.pid desk.machine with
            ⟨answer, launcher, next⟩
          rw [asked] at lives unchanged stays
          have later : Desk.Meets (AllGuarded table) { desk with launcher, machine := next } := stays
          rw [Crew.runningEach_of_asked watched asked, ih later]
          simp only [unchanged, List.filter_cons, watched, Bool.true_and, ← lives]
          cases answer <;> rfl

end Crew.Tabled

/-! ### What a cleanup leaves tracked -/

namespace Crew

variable (crew : Crew σ)

/-- Removing a channel is nothing to the launcher. -/
theorem unlink_launcher (entry : Entry) (desk : Desk σ) :
    (crew.unlink entry desk).2.launcher = desk.launcher := by
  unfold unlink
  split
  · split <;> rfl
  · rfl

/-- A process stays tracked if no entry that is closed has its number. -/
theorem closeEach_keeps_row (entries : List Entry) {desk : Desk (Recorded σ)}
    {row : Int × Child} (tracked : row ∈ desk.launcher.tracked)
    (others : ∀ entry ∈ entries, entry.isBacked = true → entry.hasProcess = true →
      entry.pid ≠ row.1) :
    row ∈ (crew.recorded.closeEach entries desk).desk.launcher.tracked := by
  induction entries generalizing desk with
  | nil => exact tracked
  | cons entry rest ih =>
      have othersLater := fun other later => others other (List.mem_cons_of_mem _ later)
      cases backed : entry.isBacked with
      | false =>
          rw [closeEach_of_native backed]
          exact ih tracked othersLater
      | true =>
          have same := crew.recorded.unlink_launcher entry desk
          rcases done : crew.recorded.unlink entry desk with ⟨result, later⟩
          rw [done] at same
          cases result with
          | error fault =>
              rw [closeEach_of_stuck backed done]
              exact same ▸ tracked
          | ok unlinked =>
              rw [closeEach_of_unlinked backed done]
              refine ih ?_ othersLater
              have books : (crew.recorded.letGo entry.pid later).launcher.tracked =
                  (later.books.letGo entry.pid).tracked :=
                congrArg Books.tracked (crew.letGo_books entry.pid later)
              have there : row ∈ later.launcher.tracked := same ▸ tracked
              by_cases absent : entry.pid = noProcess
              · rw [books, Books.letGo, if_pos absent]
                exact there
              · have process : entry.hasProcess = true := by simp [Entry.hasProcess, absent]
                rw [books, Books.letGo, if_neg absent]
                exact Ordered.mem_erase_of_ne there (others entry (.head _) backed process).symm

/-- What a cleanup drops from the launcher. -/
def dropped (session : Session) (desk : Desk σ) : List (Int × Child) :=
  desk.launcher.tracked.filter fun row =>
    row ∉ (crew.cleanup session desk).2.2.launcher.tracked

/-- Only under the number of an entry can a process be dropped. -/
theorem entry_of_dropped {session : Session} {desk : Desk σ} {row : Int × Child}
    (dropped : row ∈ crew.dropped session desk) :
    ∃ entry ∈ session.entries,
      entry.isBacked = true ∧ entry.hasProcess = true ∧ entry.pid = row.1 := by
  obtain ⟨tracked, gone⟩ := List.mem_filter.mp dropped
  let recording : Desk (Recorded σ) := ⟨desk.launcher, desk.journal, .blank desk.machine⟩
  have same : (crew.cleanup session desk).2.2.launcher.tracked =
      (crew.recorded.closeEach session.entries recording).desk.launcher.tracked :=
    congrArg (fun answer => answer.2.2.launcher.tracked) (crew.cleanup_recorded session recording)
  by_contra others
  apply of_decide_eq_true gone
  rw [same]
  apply crew.closeEach_keeps_row session.entries
  · exact tracked
  · exact fun entry member backed process number =>
      others ⟨entry, member, backed, process, number⟩

/-- Requests for a session concern the processes that hold the numbers of its entries. -/
structure ServesHolders (table : ProcessTable) (session : Session) (desk : Desk σ) : Prop where
  running : (crew.running session desk).1 = session.entries.filter fun entry =>
    entry.isBacked && entry.hasProcess && table.holderRuns entry.pid
  dropped : ∀ row ∈ crew.dropped session desk, table.holder? row.1 = some row.2 ∧
    ∃ entry ∈ session.entries,
      entry.isBacked = true ∧ entry.hasProcess = true ∧ entry.pid = row.1

end Crew

/-- So it is while the household is guarded. -/
theorem Crew.Tabled.servesHolders {crew : Crew σ} {table : σ → ProcessTable}
    (tabled : crew.Tabled table) (session : Session) {desk : Desk σ}
    (guarded : desk.Meets (AllGuarded table)) :
    crew.ServesHolders (table desk.machine) session desk where
  running := tabled.runningEach_eq session.entries guarded
  dropped row gone := by
    obtain ⟨handed, sound⟩ := guarded.sound
    have tracked : row ∈ desk.launcher.tracked := (List.mem_filter.mp gone).1
    exact ⟨guarded.holds row.1 row.2 (Ordered.get?_of_mem sound.distinct tracked),
      crew.entry_of_dropped gone⟩

end ExtcapHost
