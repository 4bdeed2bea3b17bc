/-
Module: ExtcapHost.Proofs.Session.Recording
Purpose: Recording the calls of sessions changes nothing.
Main exports:
  Desk.plain, Hall.plain, Hall.run_recorded
-/
import ExtcapHost.Proofs.Session.Hall
import ExtcapHost.Proofs.Session.Outcome

/-!
The main statement is that, without its record, a run on a recorded machine is the run
on the machine.  It follows the code from the calls on processes upwards, with one
lemma for each function.
-/

namespace ExtcapHost

variable {σ : Type}

/-- A desk without the record of its machine. -/
def Desk.plain (desk : Desk (Recorded σ)) : Desk σ :=
  ⟨desk.launcher, desk.journal, desk.machine.machine⟩

/-- A pass without the record of its machine. -/
def Pass.plain {α : Type} (pass : Pass (Recorded σ) α) : Pass σ α :=
  ⟨pass.result, pass.entries, pass.desk.plain⟩

/-- A hall without the record of its machine. -/
def Hall.plain (hall : Hall (Recorded σ)) : Hall σ :=
  ⟨hall.sessions, hall.desk.plain⟩

/-- A start without the record of its machine. -/
def Launcher.Spawned.plain (spawned : Launcher.Spawned (Recorded σ)) : Launcher.Spawned σ :=
  ⟨spawned.result, spawned.launcher, spawned.journal, spawned.machine.machine⟩

namespace Launcher

theorem pollAll_recorded (kernel : Kernel σ) (children : List Child) (machine : Recorded σ) :
    pollAll kernel children machine.machine =
      ((pollAll kernel.recorded children machine).1,
        (pollAll kernel.recorded children machine).2.machine) := by
  induction children generalizing machine with
  | nil => rfl
  | cons child rest ih =>
      rcases polled : kernel.poll child machine.machine with ⟨status, next⟩
      have later := ih (machine.after next (.polled child status))
      rw [Recorded.after_machine] at later
      simp only [pollAll, Kernel.recorded_poll, polled, later]
      cases status <;> rfl

theorem reap_recorded (kernel : Kernel σ) (launcher : Launcher) (machine : Recorded σ) :
    launcher.reap kernel machine.machine =
      ((launcher.reap kernel.recorded machine).1,
        (launcher.reap kernel.recorded machine).2.machine) := by
  simp only [reap, pollAll_recorded kernel launcher.released machine]

theorem spawn_recorded (kernel : Kernel σ) (launcher : Launcher) (command : List String)
    (machine : Recorded σ) :
    launcher.spawn kernel command machine.machine =
      (launcher.spawn kernel.recorded command machine).plain := by
  have reaped := reap_recorded kernel launcher machine
  rcases reapedToo : launcher.reap kernel.recorded machine with ⟨kept, next⟩
  rw [reapedToo] at reaped
  rcases started : kernel.spawn command next.machine with ⟨outcome, last⟩
  simp only [spawn, reaped, reapedToo, Kernel.recorded_spawn, started]
  cases outcome with
  | ok child => rfl
  | error fault => cases fault <;> rfl

theorem release_recorded (kernel : Kernel σ) (launcher : Launcher) (pid : Int)
    (machine : Recorded σ) :
    launcher.release kernel pid machine.machine =
      ((launcher.release kernel.recorded pid machine).1,
        (launcher.release kernel.recorded pid machine).2.1,
        (launcher.release kernel.recorded pid machine).2.2.machine) := by
  have reaped := reap_recorded kernel launcher machine
  rcases reapedToo : launcher.reap kernel.recorded machine with ⟨kept, next⟩
  rw [reapedToo] at reaped
  by_cases absent : pid = noProcess
  · simp only [release, reaped, reapedToo, absent, if_true]
  · simp only [release, reaped, reapedToo, absent, if_false]
    cases Ordered.get? pid kept.tracked with
    | none => rfl
    | some child =>
        rcases polled : kernel.poll child next.machine with ⟨status, last⟩
        simp only [Kernel.recorded_poll, polled]
        cases status <;> rfl

theorem isRunning_recorded (kernel : Kernel σ) (launcher : Launcher) (pid : Int)
    (machine : Recorded σ) :
    launcher.isRunning kernel pid machine.machine =
      ((launcher.isRunning kernel.recorded pid machine).1,
        (launcher.isRunning kernel.recorded pid machine).2.1,
        (launcher.isRunning kernel.recorded pid machine).2.2.machine) := by
  have reaped := reap_recorded kernel launcher machine
  rcases reapedToo : launcher.reap kernel.recorded machine with ⟨kept, next⟩
  rw [reapedToo] at reaped
  by_cases absent : pid = noProcess
  · simp only [isRunning, reaped, reapedToo, absent, if_true]
  · simp only [isRunning, reaped, reapedToo, absent, if_false]
    cases Ordered.get? pid kept.tracked with
    | none => rfl
    | some child =>
        rcases polled : kernel.poll child next.machine with ⟨status, last⟩
        simp only [Kernel.recorded_poll, polled]
        cases status <;> rfl

end Launcher

namespace Crew

theorem letGo_recorded (crew : Crew σ) (pid : Int) (desk : Desk (Recorded σ)) :
    crew.letGo pid desk.plain = (crew.recorded.letGo pid desk).plain := by
  by_cases absent : pid = noProcess
  · simp only [letGo, absent, if_true]
  · simp only [letGo, absent, if_false, Desk.plain, recorded,
      Launcher.release_recorded crew.kernel desk.launcher pid desk.machine]

theorem launch_recorded (crew : Crew σ) (entry : Entry) (channel : Channel)
    (desk : Desk (Recorded σ)) :
    crew.launch entry channel desk.plain =
      ((crew.recorded.launch entry channel desk).1,
        (crew.recorded.launch entry channel desk).2.plain) := by
  simp only [launch, Desk.plain, recorded, Launcher.spawn_recorded crew.kernel desk.launcher,
    Launcher.Spawned.plain]
  split
  · rfl
  · split <;> rfl

theorem startEach_recorded (crew : Crew σ) (entries : List Entry)
    (desk : Desk (Recorded σ)) :
    crew.startEach entries desk.plain = (crew.recorded.startEach entries desk).plain := by
  induction entries generalizing desk with
  | nil => rfl
  | cons entry rest ih =>
      cases waiting : entry.waiting with
      | false =>
          rw [startEach_of_idle waiting, startEach_of_idle waiting, ih]
          rfl
      | true =>
          rcases made : crew.maker.create desk.machine.machine with ⟨outcome, next⟩
          have madeToo : crew.recorded.maker.create desk.machine =
              (outcome, desk.machine.after next (.ofCreation outcome)) := by
            rw [recorded_maker, ChannelMaker.recorded_create, made]
          cases outcome with
          | error fault =>
              rcases fault.foreign_or_own with foreign | ⟨error, rfl⟩
              · rw [startEach_of_failed waiting foreign madeToo,
                  startEach_of_failed waiting foreign made]
                rfl
              · rw [startEach_of_refused waiting madeToo, startEach_of_refused waiting made]
                rfl
          | ok channel =>
              have launched := launch_recorded crew (entry.opened channel) channel
                { desk with machine := desk.machine.after next (.made channel) }
              rcases launchedToo : crew.recorded.launch (entry.opened channel) channel
                { desk with machine := desk.machine.after next (.made channel) } with
                ⟨result, later⟩
              rw [launchedToo] at launched
              cases result with
              | error fault =>
                  rw [startEach_of_stranded waiting madeToo launchedToo,
                    startEach_of_stranded waiting made launched]
                  rfl
              | ok spawned =>
                  rw [startEach_of_launched waiting madeToo launchedToo,
                    startEach_of_launched waiting made launched, ih]
                  rfl

theorem start_recorded (crew : Crew σ) (session : Session) (desk : Desk (Recorded σ)) :
    crew.start session desk.plain =
      ((crew.recorded.start session desk).1, (crew.recorded.start session desk).2.1,
        (crew.recorded.start session desk).2.2.plain) := by
  simp only [start, startEach_recorded, Pass.plain]
  split <;> rfl

theorem unlink_recorded (crew : Crew σ) (entry : Entry) (desk : Desk (Recorded σ)) :
    crew.unlink entry desk.plain =
      ((crew.recorded.unlink entry desk).1, (crew.recorded.unlink entry desk).2.plain) := by
  cases has : entry.hasChannel with
  | false =>
      rw [unlink_of_bare has, unlink_of_bare has]
  | true =>
      rcases removed :
        crew.maker.release entry.channel entry.handle desk.machine.machine with
        ⟨outcome, next⟩
      have removedToo : crew.recorded.maker.release entry.channel entry.handle desk.machine =
          (outcome, desk.machine.after next
            (.ofRemoval entry.channel entry.handle outcome)) := by
        rw [recorded_maker, ChannelMaker.recorded_release, removed]
      cases outcome with
      | ok _ =>
          rw [unlink_of_removed has removedToo, unlink_of_removed has removed]
          rfl
      | error fault =>
          rcases fault.foreign_or_own with foreign | ⟨error, rfl⟩
          · rw [unlink_of_failed has foreign removedToo, unlink_of_failed has foreign removed]
            rfl
          · rw [unlink_of_refused has removedToo, unlink_of_refused has removed]
            rfl

theorem closeEach_recorded (crew : Crew σ) (entries : List Entry)
    (desk : Desk (Recorded σ)) :
    crew.closeEach entries desk.plain = (crew.recorded.closeEach entries desk).plain := by
  induction entries generalizing desk with
  | nil => rfl
  | cons entry rest ih =>
      cases backed : entry.isBacked with
      | false =>
          rw [closeEach_of_native backed, closeEach_of_native backed, ih]
          rfl
      | true =>
          have unlinked := unlink_recorded crew entry desk
          rcases unlinkedToo : crew.recorded.unlink entry desk with ⟨result, later⟩
          rw [unlinkedToo] at unlinked
          cases result with
          | error fault =>
              rw [closeEach_of_stuck backed unlinkedToo, closeEach_of_stuck backed unlinked]
              rfl
          | ok changed =>
              rw [closeEach_of_unlinked backed unlinkedToo,
                closeEach_of_unlinked backed unlinked, letGo_recorded, ih]
              rfl

theorem cleanup_recorded (crew : Crew σ) (session : Session) (desk : Desk (Recorded σ)) :
    crew.cleanup session desk.plain =
      ((crew.recorded.cleanup session desk).1, (crew.recorded.cleanup session desk).2.1,
        (crew.recorded.cleanup session desk).2.2.plain) := by
  simp only [cleanup, closeEach_recorded, Pass.plain]

theorem runningEach_recorded (crew : Crew σ) (entries : List Entry)
    (desk : Desk (Recorded σ)) :
    crew.runningEach entries desk.plain =
      ((crew.recorded.runningEach entries desk).1,
        (crew.recorded.runningEach entries desk).2.plain) := by
  induction entries generalizing desk with
  | nil => rfl
  | cons entry rest ih =>
      cases watched : entry.isBacked && entry.hasProcess with
      | false => rw [runningEach_of_idle watched, runningEach_of_idle watched, ih]
      | true =>
          have asked :=
            Launcher.isRunning_recorded crew.kernel desk.launcher entry.pid desk.machine
          rcases askedToo :
            desk.launcher.isRunning crew.recorded.kernel entry.pid desk.machine with
            ⟨lives, launcher, next⟩
          rw [← recorded_kernel, askedToo] at asked
          rw [runningEach_of_asked watched askedToo, runningEach_of_asked watched asked]
          have later := ih { desk with launcher, machine := next }
          simp only [Desk.plain] at later ⊢
          rw [later]

theorem running_recorded (crew : Crew σ) (session : Session) (desk : Desk (Recorded σ)) :
    crew.running session desk.plain =
      ((crew.recorded.running session desk).1,
        (crew.recorded.running session desk).2.plain) :=
  runningEach_recorded crew session.entries desk

theorem serve_recorded (crew : Crew σ) (session : Session) (desk : Desk (Recorded σ))
    (move : Move σ) :
    crew.serve session desk.plain move =
      ((crew.recorded.serve session desk move.recorded).1,
        (crew.recorded.serve session desk move.recorded).2.plain) := by
  cases move with
  | addNative name => rfl
  | addBacked name helper arguments => rfl
  | addInterface registry name arguments =>
      simp only [serve, Move.recorded, addInterface]
      split <;> rfl
  | start => simp only [serve, Move.recorded, start_recorded]
  | cleanup => simp only [serve, Move.recorded, cleanup_recorded]
  | running => simp only [serve, Move.recorded, running_recorded]
  | elapse change => rfl

end Crew

namespace Hall

theorem step_recorded (crew : Crew σ) (hall : Hall (Recorded σ)) (number : Nat)
    (move : Move σ) :
    hall.plain.step crew number move =
      (hall.step crew.recorded number move.recorded).plain := by
  simp only [step, plain]
  cases hall.sessions[number]? with
  | none => rfl
  | some session => simp only [Crew.serve_recorded]

/-- Recording the calls changes nothing: without its record, a run on a recorded
machine is the run on the machine. -/
theorem run_recorded (crew : Crew σ) (hall : Hall (Recorded σ))
    (moves : List (Nat × Move σ)) :
    hall.plain.run crew moves = (hall.run crew.recorded (recordedMoves moves)).plain := by
  induction moves generalizing hall with
  | nil => rfl
  | cons move rest ih =>
      simp only [run, recordedMoves, List.map_cons, step_recorded]
      exact ih _

end Hall

end ExtcapHost
