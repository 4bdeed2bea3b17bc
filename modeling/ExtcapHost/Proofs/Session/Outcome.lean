/-
Module: ExtcapHost.Proofs.Session.Outcome
Purpose: What starting and closing an entry comes to, by the outcome of each call.
Main exports:
  Crew.launch_of_started, Crew.unlink_of_removed, Crew.startEach_of_launched,
  Crew.closeEach_of_unlinked
-/
import ExtcapHost.Session.Manager

/-!
Each lemma takes the outcomes of the calls that a function makes and says what the
function comes to then.  Later statements cite these and never unfold the functions.
-/

namespace ExtcapHost

variable {σ : Type}

/-- A fault is foreign to the host, or the host's own, which sessions handle. -/
theorem Fault.foreign_or_own (fault : Fault) :
    (∀ error, fault ≠ .host error) ∨ ∃ error, fault = .host error := by
  cases fault with
  | host error => exact .inr ⟨error, rfl⟩
  | _ => exact .inl (by simp)

namespace Launcher

variable {kernel : Kernel σ} {launcher kept : Launcher} {machine next last : σ}

theorem pollAll_of_poll {child : Child} {status : Option Int}
    (polled : kernel.poll child machine = (status, next)) (rest : List Child) :
    pollAll kernel (child :: rest) machine =
      ((if status = none then [child] else []) ++ (pollAll kernel rest next).1,
        (pollAll kernel rest next).2) := by
  simp only [pollAll, polled]
  cases status <;> rfl

theorem spawn_of_started {command : List String} {child : Child}
    (reaped : launcher.reap kernel machine = (kept, next))
    (started : kernel.spawn command next = (.ok child, last)) :
    launcher.spawn kernel command machine =
      ⟨.ok child.pid, { kept with tracked := Ordered.put child.pid child kept.tracked }, [],
        last⟩ := by
  simp only [spawn, reaped, started]

/-- A start that fails leaves the launcher as it is after reaping.  The answer is
either the fault or the number for no process. -/
theorem spawn_of_failed {command : List String} {fault : Fault}
    (reaped : launcher.reap kernel machine = (kept, next))
    (failed : kernel.spawn command next = (.error fault, last)) :
    ∃ result journal, launcher.spawn kernel command machine = ⟨result, kept, journal, last⟩ ∧
      (result = .ok noProcess ∨ result = .error fault) := by
  simp only [spawn, reaped, failed]
  cases fault with
  | system error => exact ⟨_, _, rfl, Or.inl rfl⟩
  | value message => exact ⟨_, _, rfl, Or.inl rfl⟩
  | _ => exact ⟨_, _, rfl, Or.inr rfl⟩

/-- Whatever the outcome, a start is one call behind the reaping. -/
theorem spawn_machine (reaped : launcher.reap kernel machine = (kept, next))
    (command : List String) :
    (launcher.spawn kernel command machine).machine = (kernel.spawn command next).2 := by
  rcases started : kernel.spawn command next with ⟨outcome, last⟩
  cases outcome with
  | ok child => rw [spawn_of_started reaped started]
  | error fault =>
      obtain ⟨result, journal, failed, -⟩ := spawn_of_failed reaped started
      rw [failed]

theorem release_of_untracked {pid : Int} (present : pid ≠ noProcess)
    (reaped : launcher.reap kernel machine = (kept, next))
    (untracked : Ordered.get? pid kept.tracked = none) :
    launcher.release kernel pid machine = (false, kept, next) := by
  simp only [release, reaped, present, if_false, untracked]

theorem release_of_poll {pid : Int} {child : Child} {status : Option Int}
    (present : pid ≠ noProcess) (reaped : launcher.reap kernel machine = (kept, next))
    (tracked : Ordered.get? pid kept.tracked = some child)
    (polled : kernel.poll child next = (status, last)) :
    launcher.release kernel pid machine =
      (true,
        ⟨Ordered.erase pid kept.tracked,
          kept.released ++ if status = none then [child] else []⟩, last) := by
  simp only [release, reaped, present, if_false, tracked, polled]
  cases status <;> simp

theorem isRunning_noProcess (reaped : launcher.reap kernel machine = (kept, next)) :
    launcher.isRunning kernel noProcess machine = (false, kept, next) := by
  simp only [isRunning, reaped, if_true]

theorem isRunning_of_untracked {pid : Int} (present : pid ≠ noProcess)
    (reaped : launcher.reap kernel machine = (kept, next))
    (untracked : Ordered.get? pid kept.tracked = none) :
    launcher.isRunning kernel pid machine = (livesBySystem kernel pid next, kept, next) := by
  simp only [isRunning, reaped, present, if_false, untracked]

theorem isRunning_of_poll {pid : Int} {child : Child} {status : Option Int}
    (present : pid ≠ noProcess) (reaped : launcher.reap kernel machine = (kept, next))
    (tracked : Ordered.get? pid kept.tracked = some child)
    (polled : kernel.poll child next = (status, last)) :
    launcher.isRunning kernel pid machine =
      (status = none && livesBySystem kernel pid last, kept, last) := by
  simp only [isRunning, reaped, present, if_false, tracked, polled]
  cases status <;> simp

end Launcher

namespace Crew

variable {crew : Crew σ} {entry : Entry} {desk : Desk σ} {next : σ}

theorem letGo_of_release {pid : Int} {launcher : Launcher} {tracked : Bool}
    (present : pid ≠ noProcess)
    (released : desk.launcher.release crew.kernel pid desk.machine = (tracked, launcher, next)) :
    crew.letGo pid desk = { desk with launcher, machine := next } := by
  simp only [letGo, present, if_false, released]

theorem letGo_noProcess : crew.letGo noProcess desk = desk := by
  simp only [letGo, if_true]

theorem launch_of_spawned {channel : Channel} {pid : Int} {launcher : Launcher}
    {notes : List Note}
    (spawned : desk.launcher.spawn crew.kernel (entry.command channel.path) desk.machine =
      ⟨.ok pid, launcher, notes, next⟩) :
    crew.launch entry channel desk =
      (.ok (entry.spawned pid),
        if pid = noProcess then
          (⟨launcher, desk.journal ++ notes, next⟩ : Desk σ).note .warning
            (entry.remark ("helper " ++ entry.helperPath ++ " did not start"))
        else
          ⟨launcher, desk.journal ++ notes, next⟩) := by
  simp only [launch, spawned]

theorem launch_of_raised {channel : Channel} {fault : Fault} {launcher : Launcher}
    {notes : List Note}
    (raised : desk.launcher.spawn crew.kernel (entry.command channel.path) desk.machine =
      ⟨.error fault, launcher, notes, next⟩) :
    crew.launch entry channel desk =
      (.error fault, ⟨launcher, desk.journal ++ notes, next⟩) := by
  simp only [launch, raised]

/-- Nothing but the start reaches the machine. -/
theorem launch_machine (crew : Crew σ) (entry : Entry) (channel : Channel) (desk : Desk σ) :
    (crew.launch entry channel desk).2.machine =
      (desk.launcher.spawn crew.kernel (entry.command channel.path) desk.machine).machine := by
  rcases spawned : desk.launcher.spawn crew.kernel (entry.command channel.path) desk.machine
    with ⟨result, launcher, notes, last⟩
  cases result with
  | error fault => rw [launch_of_raised spawned]
  | ok pid =>
      rw [launch_of_spawned spawned]
      dsimp only
      split <;> rfl

/-! ### Removing the channel of an entry -/

theorem unlink_of_bare (bare : entry.hasChannel = false) :
    crew.unlink entry desk = (.ok entry, desk) := by
  simp [unlink, bare]

theorem unlink_of_removed (has : entry.hasChannel = true)
    (removed : crew.maker.release entry.channel entry.handle desk.machine = (.ok (), next)) :
    crew.unlink entry desk = (.ok entry.unlinked, { desk with machine := next }) := by
  simp only [unlink, has, if_true, removed]

theorem unlink_of_refused {error : HostError} (has : entry.hasChannel = true)
    (refused : crew.maker.release entry.channel entry.handle desk.machine =
      (.error (.host error), next)) :
    crew.unlink entry desk =
      (.ok entry,
        { desk with machine := next }.note .warning (entry.remark error.text)) := by
  simp only [unlink, has, if_true, refused]

theorem unlink_of_failed {fault : Fault} (has : entry.hasChannel = true)
    (foreign : ∀ error, fault ≠ .host error)
    (failed : crew.maker.release entry.channel entry.handle desk.machine =
      (.error fault, next)) :
    crew.unlink entry desk = (.error fault, { desk with machine := next }) := by
  simp only [unlink, has, if_true, failed]

/-! ### Passes over the entries of a session -/

variable {rest : List Entry}

theorem startEach_of_idle (idle : entry.waiting = false) :
    crew.startEach (entry :: rest) desk = (crew.startEach rest desk).after entry := by
  simp [startEach, idle]

theorem startEach_of_refused {error : HostError} (waiting : entry.waiting = true)
    (refused : crew.maker.create desk.machine = (.error (.host error), next)) :
    crew.startEach (entry :: rest) desk =
      ⟨.ok false, entry :: rest,
        { desk with machine := next }.note .error (entry.remark error.text)⟩ := by
  simp only [startEach, waiting, if_true, refused]

theorem startEach_of_failed {fault : Fault} (waiting : entry.waiting = true)
    (foreign : ∀ error, fault ≠ .host error)
    (failed : crew.maker.create desk.machine = (.error fault, next)) :
    crew.startEach (entry :: rest) desk =
      ⟨.error fault, entry :: rest, { desk with machine := next }⟩ := by
  simp only [startEach, waiting, if_true, failed]

theorem startEach_of_stranded {channel : Channel} {fault : Fault} {later : Desk σ}
    (waiting : entry.waiting = true)
    (made : crew.maker.create desk.machine = (.ok channel, next))
    (failed : crew.launch (entry.opened channel) channel { desk with machine := next } =
      (.error fault, later)) :
    crew.startEach (entry :: rest) desk = ⟨.error fault, entry.opened channel :: rest, later⟩ := by
  simp only [startEach, waiting, if_true, made, failed]

theorem startEach_of_launched {channel : Channel} {spawned : Entry} {later : Desk σ}
    (waiting : entry.waiting = true)
    (made : crew.maker.create desk.machine = (.ok channel, next))
    (launched : crew.launch (entry.opened channel) channel { desk with machine := next } =
      (.ok spawned, later)) :
    crew.startEach (entry :: rest) desk = (crew.startEach rest later).after spawned := by
  simp only [startEach, waiting, if_true, made, launched]

theorem start_of_completed {session : Session}
    (completed : (crew.startEach session.entries desk).result = .ok true) :
    crew.start session desk =
      (.ok true, ⟨(crew.startEach session.entries desk).entries.map Entry.promoted⟩,
        (crew.startEach session.entries desk).desk) := by
  simp only [start, completed]

theorem start_of_ended {session : Session}
    (ended : (crew.startEach session.entries desk).result ≠ .ok true) :
    crew.start session desk =
      ((crew.startEach session.entries desk).result,
        ⟨(crew.startEach session.entries desk).entries⟩,
        (crew.startEach session.entries desk).desk) := by
  simp only [start]

theorem runningEach_of_idle (idle : (entry.isBacked && entry.hasProcess) = false) :
    crew.runningEach (entry :: rest) desk = crew.runningEach rest desk := by
  simp [runningEach, idle]

theorem runningEach_of_asked {lives : Bool} {launcher : Launcher}
    (watched : (entry.isBacked && entry.hasProcess) = true)
    (asked : desk.launcher.isRunning crew.kernel entry.pid desk.machine =
      (lives, launcher, next)) :
    crew.runningEach (entry :: rest) desk =
      ((if lives then [entry] else []) ++
          (crew.runningEach rest { desk with launcher, machine := next }).1,
        (crew.runningEach rest { desk with launcher, machine := next }).2) := by
  simp only [runningEach, watched, if_true, asked]
  cases lives <;> rfl

theorem closeEach_of_native (native : entry.isBacked = false) :
    crew.closeEach (entry :: rest) desk = (crew.closeEach rest desk).after entry := by
  simp [closeEach, native]

theorem closeEach_of_stuck {fault : Fault} {later : Desk σ} (backed : entry.isBacked = true)
    (stuck : crew.unlink entry desk = (.error fault, later)) :
    crew.closeEach (entry :: rest) desk = ⟨.error fault, entry :: rest, later⟩ := by
  simp only [closeEach, backed, if_true, stuck]

theorem closeEach_of_unlinked {unlinked : Entry} {later : Desk σ}
    (backed : entry.isBacked = true) (done : crew.unlink entry desk = (.ok unlinked, later)) :
    crew.closeEach (entry :: rest) desk =
      (crew.closeEach rest (crew.letGo entry.pid later)).after unlinked.closed := by
  simp only [closeEach, backed, if_true, done]

end Crew

end ExtcapHost
