/-
Module: ExtcapHost.Proofs.Session.Planned
Purpose: What a start comes to when the outcomes of its calls are laid down beforehand.
Main exports:
  StartOutcome, Agenda, StartEnding, Planned, Crew.planned, staffed, startCommands,
  Crew.startEach_staffed
-/
import ExtcapHost.Proofs.Session.Outcome

/-!
A planned machine answers the calls for channels and processes from an agenda; all else
is left to another machine, of which nothing is known.  A start takes the waiting entries
in order and gives each of them the next channel and the next process, and it ends where
the agenda has no channel for the next one.
-/

namespace ExtcapHost

variable {σ : Type}

/-- What an attempt to start a process comes to, unless it ends in a fault that nobody
handles. -/
inductive StartOutcome where
  | process (child : Child)
  /-- The system refuses. -/
  | refused (error : SystemError)
  /-- A word of the command cannot be passed on. -/
  | unfit (message : String)
deriving DecidableEq, Repr

namespace StartOutcome

/-- The answer of the system. -/
def answer : StartOutcome → Except Fault Child
  | .process child => .ok child
  | .refused error => .error (.system error)
  | .unfit message => .error (.value message)

/-- The process number that the launcher tells. -/
def pid : StartOutcome → Int
  | .process child => child.pid
  | .refused _ => noProcess
  | .unfit _ => noProcess

/-- The outcome where none was laid down. -/
def unplanned : StartOutcome :=
  .refused ⟨11, "Resource temporarily unavailable", []⟩

end StartOutcome

/-- What the coming calls for channels and processes come to, and the commands that were
to be started so far. -/
structure Agenda where
  channels : List (Except HostError Channel)
  starts : List StartOutcome
  commands : List (List String)

namespace Agenda

/-- The outcome of the next start. -/
def nextStart (agenda : Agenda) : StartOutcome :=
  agenda.starts.headD .unplanned

/-- The agenda once a command was to be started. -/
def afterStart (agenda : Agenda) (command : List String) : Agenda :=
  { agenda with starts := agenda.starts.tail, commands := agenda.commands ++ [command] }

/-- The outcome of the next call for a channel, and the agenda after it. -/
def nextChannel (agenda : Agenda) : Except HostError Channel × Agenda :=
  match agenda.channels with
  | [] => (.error (.channel "exhausted" none), agenda)
  | outcome :: later => (outcome, { agenda with channels := later })

end Agenda

/-- How a start ends, by how many waiting entries are left without a channel: the answer,
and the outcomes that stay on the agenda. -/
inductive StartEnding : Nat → List (Except HostError Channel) → Bool →
    List (Except HostError Channel) → Prop where
  | complete (later : List (Except HostError Channel)) : StartEnding 0 later true later
  | halted (missing : Nat) (error : HostError) (later : List (Except HostError Channel)) :
      StartEnding (missing + 1) (.error error :: later) false later

/-- A machine that makes channels and processes by an agenda. -/
structure Planned (σ : Type) where
  machine : σ
  agenda : Agenda

/-- A crew on a machine that makes channels and processes by an agenda. -/
def Crew.planned (crew : Crew σ) : Crew (Planned σ) where
  maker :=
    { create := fun planned =>
        let (outcome, agenda) := planned.agenda.nextChannel
        (outcome.mapError .host, { planned with agenda })
      release := fun path handle planned =>
        let (outcome, machine) := crew.maker.release path handle planned.machine
        (outcome, { planned with machine }) }
  kernel :=
    { spawn := fun command planned =>
        (planned.agenda.nextStart.answer,
          { planned with agenda := planned.agenda.afterStart command })
      poll := fun child planned =>
        let (status, machine) := crew.kernel.poll child planned.machine
        (status, { planned with machine })
      status := fun planned pid => crew.kernel.status planned.machine pid }

/-- The agenda of a desk. -/
def Desk.agenda (desk : Desk (Planned σ)) : Agenda :=
  desk.machine.agenda

@[simp] theorem Desk.note_agenda (desk : Desk (Planned σ)) (level : Level) (text : String) :
    (desk.note level text).agenda = desk.agenda := rfl

/-- The entries once the waiting ones were given the channels and processes in order, as
far as there are channels. -/
def staffed : List Entry → List Channel → List StartOutcome → List Entry
  | [], _, _ => []
  | entry :: rest, channels, starts =>
      if entry.waiting then
        match channels with
        | [] => entry :: rest
        | channel :: channels =>
            (entry.opened channel).spawned (starts.headD .unplanned).pid ::
              staffed rest channels starts.tail
      else
        entry :: staffed rest channels starts

/-- The entries that wait for their start. -/
def waitingEntries (entries : List Entry) : List Entry :=
  entries.filter Entry.waiting

/-- The commands of the waiting entries, each with its channel, as far as there are
channels. -/
def startCommands (entries : List Entry) (channels : List Channel) : List (List String) :=
  (waitingEntries entries).zipWith (fun entry channel => entry.command channel.path) channels

/-! ### Taking entries and channels in two parts -/

theorem waitingEntries_cons_of_idle {entry : Entry} (idle : entry.waiting = false)
    (rest : List Entry) : waitingEntries (entry :: rest) = waitingEntries rest := by
  simp [waitingEntries, idle]

theorem waitingEntries_cons_of_waiting {entry : Entry} (waiting : entry.waiting = true)
    (rest : List Entry) : waitingEntries (entry :: rest) = entry :: waitingEntries rest := by
  simp [waitingEntries, waiting]

theorem staffed_cons_of_idle {entry : Entry} (idle : entry.waiting = false)
    (rest : List Entry) (channels : List Channel) (starts : List StartOutcome) :
    staffed (entry :: rest) channels starts = entry :: staffed rest channels starts := by
  simp [staffed, idle]

theorem staffed_cons_of_waiting {entry : Entry} (waiting : entry.waiting = true)
    (rest : List Entry) (channel : Channel) (channels : List Channel)
    (starts : List StartOutcome) :
    staffed (entry :: rest) (channel :: channels) starts =
      (entry.opened channel).spawned (starts.headD .unplanned).pid ::
        staffed rest channels starts.tail := by
  simp [staffed, waiting]

/-- Without channels nothing happens. -/
theorem staffed_nil (entries : List Entry) (starts : List StartOutcome) :
    staffed entries [] starts = entries := by
  induction entries with
  | nil => rfl
  | cons entry rest ih =>
      cases waiting : entry.waiting with
      | false => rw [staffed_cons_of_idle waiting, ih]
      | true => simp [staffed, waiting]

/-- An entry with its process waits no more. -/
theorem Entry.spawned_waiting (entry : Entry) (channel : Channel) (pid : Int) :
    ((entry.opened channel).spawned pid).waiting = false := by
  simp [Entry.waiting, Entry.spawned]

/-- The entries that go on waiting are those for which there were no channels. -/
theorem waitingEntries_staffed (entries : List Entry) (channels : List Channel)
    (starts : List StartOutcome) :
    waitingEntries (staffed entries channels starts) =
      (waitingEntries entries).drop channels.length := by
  induction entries generalizing channels starts with
  | nil => simp [staffed, waitingEntries]
  | cons entry rest ih =>
      cases waiting : entry.waiting with
      | false =>
          rw [staffed_cons_of_idle waiting, waitingEntries_cons_of_idle waiting,
            waitingEntries_cons_of_idle waiting, ih]
      | true =>
          cases channels with
          | nil => rw [staffed_nil, List.length_nil, List.drop_zero]
          | cons channel channels =>
              rw [staffed_cons_of_waiting waiting, waitingEntries_cons_of_waiting waiting,
                waitingEntries_cons_of_idle (entry.spawned_waiting channel _), ih,
                List.length_cons, List.drop_succ_cons]

/-- The channels may be given in two rounds. -/
theorem staffed_append (entries : List Entry) (first second : List Channel)
    (starts : List StartOutcome) :
    staffed entries (first ++ second) starts =
      staffed (staffed entries first starts) second (starts.drop first.length) := by
  induction entries generalizing first starts with
  | nil => rfl
  | cons entry rest ih =>
      cases waiting : entry.waiting with
      | false =>
          rw [staffed_cons_of_idle waiting, staffed_cons_of_idle waiting,
            staffed_cons_of_idle waiting, ih]
      | true =>
          cases first with
          | nil => rw [staffed_nil, List.nil_append, List.length_nil, List.drop_zero]
          | cons channel first =>
              rw [List.cons_append, staffed_cons_of_waiting waiting,
                staffed_cons_of_waiting waiting,
                staffed_cons_of_idle (entry.spawned_waiting channel _), ih, List.length_cons,
                ← List.drop_one, List.drop_drop, Nat.add_comm]

/-- So may the commands. -/
theorem startCommands_append (entries : List Entry) (first second : List Channel)
    (starts : List StartOutcome) :
    startCommands entries (first ++ second) =
      startCommands entries first ++ startCommands (staffed entries first starts) second := by
  rw [startCommands, startCommands, startCommands, waitingEntries_staffed]
  generalize waitingEntries entries = waiting
  induction first generalizing waiting with
  | nil => simp
  | cons channel first ih =>
      cases waiting with
      | nil => simp
      | cons entry waiting => simp [ih]

/-! ### A start on a planned machine -/

namespace Launcher

variable (crew : Crew σ)

theorem pollAll_agenda (children : List Child) (planned : Planned σ) :
    (pollAll crew.planned.kernel children planned).2.agenda = planned.agenda := by
  induction children generalizing planned with
  | nil => rfl
  | cons child rest ih =>
      rcases polled : crew.planned.kernel.poll child planned with ⟨status, next⟩
      have kept : next.agenda = planned.agenda := by
        rw [Crew.planned] at polled
        cases polled
        rfl
      rw [pollAll_of_poll polled, ih, kept]

variable {crew} in
/-- Reaping leaves the agenda as it is. -/
theorem reap_agenda {launcher kept : Launcher} {planned next : Planned σ}
    (reaped : launcher.reap crew.planned.kernel planned = (kept, next)) :
    next.agenda = planned.agenda := by
  have polled := pollAll_agenda crew launcher.released planned
  simp only [reap, Prod.mk.injEq] at reaped
  rw [← reaped.2, polled]

/-- The launcher tells the number of the next process on the agenda, or that there is
none. -/
theorem spawn_planned (launcher : Launcher) (command : List String) (planned : Planned σ) :
    let spawned := launcher.spawn crew.planned.kernel command planned
    spawned.result = .ok planned.agenda.nextStart.pid ∧
      spawned.machine.agenda = planned.agenda.afterStart command := by
  intro spawned
  rcases reaped : launcher.reap crew.planned.kernel planned with ⟨kept, next⟩
  have agenda := reap_agenda reaped
  have started : crew.planned.kernel.spawn command next =
      (planned.agenda.nextStart.answer,
        { next with agenda := planned.agenda.afterStart command }) := by
    rw [← agenda]
    rfl
  cases outcome : planned.agenda.nextStart with
  | process child =>
      rw [outcome] at started
      have done : spawned = _ := spawn_of_started reaped started
      rw [done]
      exact ⟨rfl, rfl⟩
  | refused error =>
      simp only [outcome, StartOutcome.answer] at started
      simp only [spawned, spawn, reaped, started]
      exact ⟨rfl, trivial⟩
  | unfit message =>
      simp only [outcome, StartOutcome.answer] at started
      simp only [spawned, spawn, reaped, started]
      exact ⟨rfl, trivial⟩

end Launcher

namespace Crew

variable (crew : Crew σ)

/-- An entry with its channel is given the next process on the agenda. -/
theorem launch_planned (entry : Entry) (channel : Channel) (desk : Desk (Planned σ)) :
    ∃ later, crew.planned.launch entry channel desk =
        (.ok (entry.spawned desk.agenda.nextStart.pid), later) ∧
      later.agenda = desk.agenda.afterStart (entry.command channel.path) := by
  have told := Launcher.spawn_planned crew desk.launcher (entry.command channel.path) desk.machine
  rcases spawned : desk.launcher.spawn crew.planned.kernel (entry.command channel.path)
    desk.machine with ⟨result, launcher, notes, machine⟩
  rw [spawned] at told
  obtain ⟨answer, agenda⟩ := told
  cases answer
  rw [launch_of_spawned spawned]
  refine ⟨_, rfl, ?_⟩
  split <;> exact agenda

variable {crew} {entry : Entry} {desk : Desk (Planned σ)}

/-- A waiting entry for which there is a channel is started. -/
theorem startEach_planned {channel : Channel} {later : List (Except HostError Channel)}
    (waiting : entry.waiting = true) (next : desk.agenda.channels = .ok channel :: later)
    (rest : List Entry) :
    ∃ after : Desk (Planned σ),
      crew.planned.startEach (entry :: rest) desk =
        (crew.planned.startEach rest after).after
          ((entry.opened channel).spawned desk.agenda.nextStart.pid) ∧
      after.agenda =
        { desk.agenda with channels := later }.afterStart (entry.command channel.path) := by
  let opened : Desk (Planned σ) :=
    { desk with machine := { desk.machine with
        agenda := { desk.machine.agenda with channels := later } } }
  have made : crew.planned.maker.create desk.machine = (.ok channel, opened.machine) := by
    have taken : desk.machine.agenda.nextChannel =
        (.ok channel, { desk.machine.agenda with channels := later }) := by
      rw [Desk.agenda] at next
      simp only [Agenda.nextChannel, next]
    simp only [planned, taken]
    rfl
  obtain ⟨after, launched, agenda⟩ := launch_planned crew (entry.opened channel) channel opened
  exact ⟨after, startEach_of_launched waiting made launched, agenda⟩

/-- A waiting entry for which there is no channel ends the start. -/
theorem startEach_refused {error : HostError} {later : List (Except HostError Channel)}
    (waiting : entry.waiting = true) (next : desk.agenda.channels = .error error :: later)
    (rest : List Entry) :
    ∃ after : Desk (Planned σ),
      crew.planned.startEach (entry :: rest) desk = ⟨.ok false, entry :: rest, after⟩ ∧
      after.agenda = { desk.agenda with channels := later } := by
  have made : crew.planned.maker.create desk.machine =
      (.error (.host error), { desk.machine with
        agenda := { desk.machine.agenda with channels := later } }) := by
    have taken : desk.machine.agenda.nextChannel =
        (.error error, { desk.machine.agenda with channels := later }) := by
      rw [Desk.agenda] at next
      simp only [Agenda.nextChannel, next]
    simp only [planned, taken]
    rfl
  exact ⟨_, startEach_of_refused waiting made, rfl⟩

variable (crew)

/-- The waiting entries are started in order, as far as there are channels.  The answer is
whether there was one for each of them. -/
theorem startEach_staffed (entries : List Entry) (desk : Desk (Planned σ))
    (channels : List Channel) {missing : Nat} {answer : Bool}
    {later remaining : List (Except HostError Channel)}
    (planned : desk.agenda.channels = channels.map .ok ++ later)
    (count : (waitingEntries entries).length = channels.length + missing)
    (ending : StartEnding missing later answer remaining) :
    let pass := crew.planned.startEach entries desk
    pass.result = .ok answer ∧ pass.entries = staffed entries channels desk.agenda.starts ∧
      pass.desk.agenda =
        ⟨remaining, desk.agenda.starts.drop channels.length,
          desk.agenda.commands ++ startCommands entries channels⟩ := by
  induction entries generalizing desk channels with
  | nil =>
      -- Nobody waits, so there are neither channels nor missing ones.
      obtain ⟨none, rfl⟩ : channels.length = 0 ∧ missing = 0 := by
        rw [waitingEntries, List.filter_nil, List.length_nil] at count
        omega
      cases List.eq_nil_of_length_eq_zero none
      cases ending
      refine ⟨rfl, rfl, ?_⟩
      rw [List.map_nil, List.nil_append] at planned
      rw [← planned, startCommands, List.zipWith_nil_right, List.append_nil]
      rfl
  | cons entry rest ih =>
      cases waiting : entry.waiting with
      | false =>
          rw [waitingEntries_cons_of_idle waiting] at count
          obtain ⟨result, entries, agenda⟩ := ih desk channels planned count
          rw [startEach_of_idle waiting, staffed_cons_of_idle waiting, startCommands,
            waitingEntries_cons_of_idle waiting]
          exact ⟨result, congrArg (entry :: ·) entries, agenda⟩
      | true =>
          rw [waitingEntries_cons_of_waiting waiting, List.length_cons] at count
          cases channels with
          | nil =>
              cases ending with
              | complete => cases count
              | halted missing error =>
                  obtain ⟨after, ended, agenda⟩ := startEach_refused waiting planned rest
                  rw [ended, staffed_nil]
                  refine ⟨rfl, rfl, ?_⟩
                  rw [agenda, startCommands, List.zipWith_nil_right, List.append_nil]
                  rfl
          | cons channel channels =>
              obtain ⟨after, started, agenda⟩ := startEach_planned waiting planned rest
              have taken : after.agenda.channels = channels.map .ok ++ later := by
                rw [agenda]
                rfl
              rw [List.length_cons] at count
              obtain ⟨result, entries, last⟩ := ih after channels taken (by omega)
              rw [started, staffed_cons_of_waiting waiting, startCommands,
                waitingEntries_cons_of_waiting waiting]
              refine ⟨result, ?_, ?_⟩
              · rw [Pass.after, entries, agenda]
                rfl
              · rw [Pass.after, last, agenda]
                simp [Agenda.afterStart, startCommands]

end Crew

end ExtcapHost
