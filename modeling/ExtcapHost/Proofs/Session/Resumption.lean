/-
Module: ExtcapHost.Proofs.Session.Resumption
Purpose: A start that was aborted and is taken up again comes to the same as one that was
  never aborted.
Main exports:
  Attempt, interrupted, Resumed, Crew.resumed_start_eq
-/
import ExtcapHost.Machine.Platform
import ExtcapHost.Proofs.Session.Planned

/-!
A start that finds no channel for an entry leaves the entries before it started and the
others waiting.  The next start passes over what is started and goes on with the entry that
it stopped at, so the channels and the processes fall to the same entries as without the
interruption.  Only the last start, which meets no failure, counts entries as running.
-/

namespace ExtcapHost

variable {σ : Type}

/-- The calls for one channel: those that failed, and the channel that was made at last. -/
structure Attempt where
  failures : List HostError
  channel : Channel
deriving DecidableEq, Repr

/-- What the calls for channels come to, one after the other. -/
def interrupted (attempts : List Attempt) : List (Except HostError Channel) :=
  attempts.flatMap fun attempt => attempt.failures.map .error ++ [.ok attempt.channel]

/-- What the same calls come to if none fails. -/
def uninterrupted (attempts : List Attempt) : List (Except HostError Channel) :=
  attempts.map fun attempt => .ok attempt.channel

/-- The failures on the way, in order. -/
def failuresOf (attempts : List Attempt) : List HostError :=
  attempts.flatMap Attempt.failures

/-- A session is started, and started again each time that the answer is false, until it is
true.  The failures are those that the calls met, one for each that answered false. -/
inductive Resumed (crew : Crew σ) :
    Session → Desk (Planned σ) → List HostError → Session → Desk (Planned σ) → Prop where
  /-- All channels that the call asked for were made. -/
  | completed {session last : Session} {desk later : Desk (Planned σ)} (made : List Channel)
      (took : desk.agenda.channels = made.map .ok ++ later.agenda.channels)
      (answer : crew.planned.start session desk = (.ok true, last, later)) :
      Resumed crew session desk [] last later
  /-- The last channel that the call asked for was not made. -/
  | aborted {session between last : Session} {desk next later : Desk (Planned σ)}
      {errors : List HostError} (made : List Channel) (error : HostError)
      (took : desk.agenda.channels = made.map .ok ++ .error error :: next.agenda.channels)
      (answer : crew.planned.start session desk = (.ok false, between, next))
      (again : Resumed crew between next errors last later) :
      Resumed crew session desk (error :: errors) last later

/-- Where there are failures, the first one comes after some channels that were made at
once. -/
theorem exists_first_failure {attempts : List Attempt} {error : HostError}
    {errors : List HostError} (failed : failuresOf attempts = error :: errors) :
    ∃ (quiet : List Channel) (others : List Attempt),
      interrupted attempts = quiet.map .ok ++ .error error :: interrupted others ∧
      attempts.map Attempt.channel = quiet ++ others.map Attempt.channel ∧
      others ≠ [] ∧ failuresOf others = errors := by
  induction attempts with
  | nil => cases failed
  | cons attempt rest ih =>
      obtain ⟨failures, channel⟩ := attempt
      cases failures with
      | nil =>
          obtain ⟨quiet, others, outcomes, channels, some, left⟩ := ih failed
          refine ⟨channel :: quiet, others, ?_, ?_, some, left⟩
          · simpa [interrupted] using outcomes
          · simpa using channels
      | cons first more =>
          simp only [failuresOf, List.flatMap_cons, List.cons_append, List.cons.injEq] at failed
          obtain ⟨rfl, left⟩ := failed
          refine ⟨[], ⟨more, channel⟩ :: rest, ?_, rfl, nofun, left⟩
          simp [interrupted]

/-- Without failures the calls come to what they come to if none fails. -/
theorem interrupted_of_quiet {attempts : List Attempt} (quiet : failuresOf attempts = []) :
    interrupted attempts = uninterrupted attempts := by
  induction attempts with
  | nil => rfl
  | cons attempt rest ih =>
      simp only [failuresOf, List.flatMap_cons, List.append_eq_nil_iff] at quiet
      rw [interrupted, List.flatMap_cons, quiet.1]
      exact congrArg (.ok attempt.channel :: ·) (ih quiet.2)

theorem uninterrupted_eq (attempts : List Attempt) :
    uninterrupted attempts = (attempts.map Attempt.channel).map .ok := by
  rw [List.map_map]
  rfl

namespace Crew

variable (crew : Crew σ)

/-- A start that meets no failure: all entries are started, and those with a process are
running. -/
theorem start_staffed (session : Session) (desk : Desk (Planned σ)) (channels : List Channel)
    (planned : desk.agenda.channels = channels.map .ok)
    (enough : channels.length = (waitingEntries session.entries).length) :
    ∃ later, crew.planned.start session desk =
        (.ok true,
          ⟨(staffed session.entries channels desk.agenda.starts).map Entry.promoted⟩, later) ∧
      later.agenda = ⟨[], desk.agenda.starts.drop channels.length,
        desk.agenda.commands ++ startCommands session.entries channels⟩ := by
  rw [← List.append_nil (List.map _ channels)] at planned
  obtain ⟨result, entries, agenda⟩ := crew.startEach_staffed session.entries desk channels
    planned enough.symm (.complete [])
  rw [start_of_completed result, entries]
  exact ⟨_, rfl, agenda⟩

/-- A start that meets a failure: the entries before it are started, and none counts as
running yet. -/
theorem start_halted (session : Session) (desk : Desk (Planned σ)) (channels : List Channel)
    {error : HostError} {later : List (Except HostError Channel)}
    (planned : desk.agenda.channels = channels.map .ok ++ .error error :: later)
    (short : channels.length < (waitingEntries session.entries).length) :
    ∃ next, crew.planned.start session desk =
        (.ok false, ⟨staffed session.entries channels desk.agenda.starts⟩, next) ∧
      next.agenda = ⟨later, desk.agenda.starts.drop channels.length,
        desk.agenda.commands ++ startCommands session.entries channels⟩ := by
  obtain ⟨missing, count⟩ := Nat.exists_eq_add_of_lt short
  obtain ⟨result, entries, agenda⟩ := crew.startEach_staffed session.entries desk channels
    planned (by omega) (.halted missing error later)
  have ended : (crew.planned.startEach session.entries desk).result ≠ .ok true := by
    rw [result]
    nofun
  rw [start_of_ended ended, result, entries]
  exact ⟨_, rfl, agenda⟩

/-- However often it was aborted, a start that is taken up again gives the waiting entries
the channels and the processes in order, and then those with a process are running. -/
theorem resumed_staffed (session : Session) (desk : Desk (Planned σ)) (attempts : List Attempt)
    (planned : desk.agenda.channels = interrupted attempts)
    (enough : attempts.length = (waitingEntries session.entries).length) :
    let channels := attempts.map Attempt.channel
    ∃ later, Resumed crew session desk (failuresOf attempts)
        ⟨(staffed session.entries channels desk.agenda.starts).map Entry.promoted⟩ later ∧
      later.agenda.commands =
        desk.agenda.commands ++ startCommands session.entries channels := by
  intro channels
  generalize failures : failuresOf attempts = errors
  induction errors generalizing session desk attempts with
  | nil =>
      rw [interrupted_of_quiet failures, uninterrupted_eq] at planned
      obtain ⟨later, answer, agenda⟩ := crew.start_staffed session desk
        (attempts.map Attempt.channel) planned (by rw [List.length_map, enough])
      refine ⟨later, .completed (attempts.map Attempt.channel) ?_ answer, ?_⟩
      · rw [planned, agenda, List.append_nil]
      · rw [agenda]
  | cons error errors ih =>
      obtain ⟨quiet, others, outcomes, cut, some, left⟩ := exists_first_failure failures
      rw [outcomes] at planned
      have length : quiet.length + others.length = (waitingEntries session.entries).length := by
        have lengths := congrArg List.length cut
        rw [List.length_map, List.length_append, List.length_map] at lengths
        rw [← enough, lengths]
      have short : quiet.length < (waitingEntries session.entries).length := by
        have more := List.length_pos_iff.mpr some
        omega
      obtain ⟨next, answer, agenda⟩ := crew.start_halted session desk quiet planned short
      have waiting : others.length =
          (waitingEntries (staffed session.entries quiet desk.agenda.starts)).length := by
        rw [waitingEntries_staffed, List.length_drop]
        omega
      have outcomesLeft : next.agenda.channels = interrupted others := by rw [agenda]
      obtain ⟨later, again, commands⟩ := ih
        ⟨staffed session.entries quiet desk.agenda.starts⟩ next others outcomesLeft waiting left
      rw [agenda] at again commands
      simp only [channels]
      rw [cut, staffed_append, startCommands_append _ _ _ desk.agenda.starts,
        ← List.append_assoc, ← commands]
      refine ⟨later, .aborted quiet error ?_ answer again, rfl⟩
      rw [planned, outcomesLeft]

/-- Whichever calls for channels fail on the way, a start that is taken up again until it
succeeds leaves the same entries as one that meets no failure, and has started the same
commands in the same order. -/
theorem resumed_start_eq (crew : Crew σ) (session : Session) (launcher : Launcher)
    (journal : List Note) (machine : σ) (attempts : List Attempt) (starts : List StartOutcome)
    (enough : attempts.length = (waitingEntries session.entries).length) :
    let desk channels : Desk (Planned σ) :=
      ⟨launcher, journal, ⟨machine, ⟨channels, starts, []⟩⟩⟩
    ∃ last smooth later,
      crew.planned.start session (desk (uninterrupted attempts)) = (.ok true, last, smooth) ∧
        Resumed crew session (desk (interrupted attempts)) (failuresOf attempts) last later ∧
        later.agenda.commands = smooth.agenda.commands := by
  intro desk
  obtain ⟨smooth, answer, agenda⟩ := crew.start_staffed session (desk (uninterrupted attempts))
    (attempts.map Attempt.channel) (uninterrupted_eq attempts) (by rw [List.length_map, enough])
  obtain ⟨later, resumed, commands⟩ := crew.resumed_staffed session
    (desk (interrupted attempts)) attempts rfl enough
  refine ⟨_, smooth, later, answer, resumed, ?_⟩
  rw [commands, agenda]
  rfl

/-- Two entries wait for their start.  Between them stands one that an earlier start has
left with a process, and before them an interface of the system. -/
def halfStarted : Session :=
  let waiting (name : String) : Entry :=
    { Entry.native name with source := .helper, helper := some "/extcap/sniffer",
                             helperNamed := by decide }
  ⟨[.native "lo", waiting "wlan0", ((waiting "wlan1").opened ⟨"/tmp/old", none⟩).spawned 1000,
    waiting "wlan2"]⟩

/-- The first channel is made at the second call, the other one at the third. -/
def threeFailures : List Attempt :=
  [⟨[.channel "busy" none], ⟨"/tmp/first", none⟩⟩,
    ⟨[.channel "busy" none, .channel "full" none], ⟨"/tmp/second", some "H2"⟩⟩]

/-- The half started session is started at the fourth call.  The helper of its last entry
could not be run. -/
theorem half_started_resumed :
    let crew : Crew Machine := ⟨Machine.plannedMaker, Machine.kernel⟩
    let desk channels : Desk (Planned Machine) :=
      ⟨.empty, [], ⟨.initial "/",
        ⟨channels, [.process ⟨1001, 0⟩, .refused (.noEntry "/extcap/sniffer")], []⟩⟩⟩
    threeFailures.length = (waitingEntries halfStarted.entries).length ∧
      ∃ last later,
        last.entries.map (fun entry => (entry.stage, entry.pid)) =
            [(.configured, noProcess), (.running, 1001), (.running, 1000),
              (.processSpawned, noProcess)] ∧
          Resumed crew halfStarted (desk (interrupted threeFailures))
            [.channel "busy" none, .channel "busy" none, .channel "full" none] last later := by
  intro crew desk
  have enough : threeFailures.length = (waitingEntries halfStarted.entries).length := by decide
  obtain ⟨last, smooth, later, answer, resumed, -⟩ :=
    crew.resumed_start_eq halfStarted .empty [] (Machine.initial "/") threeFailures
      [.process ⟨1001, 0⟩, .refused (.noEntry "/extcap/sniffer")] enough
  have left : last = (crew.planned.start halfStarted (desk (uninterrupted threeFailures))).2.1 :=
    (congrArg (fun started => started.2.1) answer).symm
  refine ⟨enough, last, later, ?_, resumed⟩
  rw [left]
  rfl

end Crew

end ExtcapHost
