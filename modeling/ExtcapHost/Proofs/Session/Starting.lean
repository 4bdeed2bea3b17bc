/-
Module: ExtcapHost.Proofs.Session.Starting
Purpose: One start of a session: its answer, its calls, and what it leaves of each entry.
Main exports:
  grantedChannels, firstRefusal, startDeeds, Entry.equipped, Entry.counted,
  Crew.startEach_traced, Crew.start_fully_told
-/
import ExtcapHost.Proofs.Session.Closing
import ExtcapHost.Proofs.Session.Resumption

/-!
The machine answers from an agenda and keeps a record of the calls that reach it.  The
channels that are granted are those before the first failure on the agenda, and the first
waiting entries are given them.  From these the calls of a start and the entries after it
are told without reference to the passes over the session.
-/

namespace ExtcapHost

variable {σ : Type}

/-! ### What an agenda grants -/

/-- The channels that are made before the first call fails. -/
def grantedChannels : List (Except HostError Channel) → List Channel
  | .ok channel :: later => channel :: grantedChannels later
  | _ => []

/-- What the first call comes to that makes no channel. -/
def firstRefusal : List (Except HostError Channel) → HostError
  | .ok _ :: later => firstRefusal later
  | .error error :: _ => error
  | [] => .channel "exhausted" none

/-- As many channels are granted as calls succeed without a failure before them. -/
theorem le_length_grantedChannels_iff (count : Nat)
    (outcomes : List (Except HostError Channel)) :
    count ≤ (grantedChannels outcomes).length ↔
      ∀ index < count, ∃ channel, outcomes[index]? = some (.ok channel) := by
  induction outcomes generalizing count with
  | nil =>
      constructor
      · intro none index inside
        exact absurd (Nat.lt_of_lt_of_le inside none) (Nat.not_lt_zero index)
      · intro all
        cases count with
        | zero => exact Nat.le_refl 0
        | succ count =>
            obtain ⟨channel, some⟩ := all 0 (Nat.succ_pos count)
            cases some
  | cons outcome later ih =>
      cases count with
      | zero => simp
      | succ count =>
          cases outcome with
          | error error =>
              constructor
              · intro more
                cases more
              · intro all
                obtain ⟨channel, some⟩ := all 0 (Nat.succ_pos count)
                cases some
          | ok channel =>
              rw [grantedChannels, List.length_cons, Nat.succ_le_succ_iff, ih count]
              constructor
              · intro all index inside
                cases index with
                | zero => exact ⟨channel, rfl⟩
                | succ index => exact all index (Nat.lt_of_succ_lt_succ inside)
              · intro all index inside
                exact all (index + 1) (Nat.succ_lt_succ inside)

/-- The channels that a start gets for the entries that wait. -/
def channelsFor (entries : List Entry) (outcomes : List (Except HostError Channel)) :
    List Channel :=
  (grantedChannels outcomes).take (waitingEntries entries).length

/-- A start gets a channel for every entry that waits. -/
def covers (entries : List Entry) (outcomes : List (Except HostError Channel)) : Bool :=
  (channelsFor entries outcomes).length = (waitingEntries entries).length

/-- The channels suffice unless one of the calls for the waiting entries fails. -/
theorem covers_iff (entries : List Entry) (outcomes : List (Except HostError Channel)) :
    covers entries outcomes = true ↔
      ∀ index < (waitingEntries entries).length,
        ∃ channel, outcomes[index]? = some (.ok channel) := by
  rw [← le_length_grantedChannels_iff, covers, decide_eq_true_eq, channelsFor,
    List.length_take]
  omega

theorem channelsFor_cons_of_idle {entry : Entry} (idle : entry.waiting = false)
    (rest : List Entry) (outcomes : List (Except HostError Channel)) :
    channelsFor (entry :: rest) outcomes = channelsFor rest outcomes := by
  rw [channelsFor, waitingEntries_cons_of_idle idle]
  rfl

theorem covers_cons_of_idle {entry : Entry} (idle : entry.waiting = false)
    (rest : List Entry) (outcomes : List (Except HostError Channel)) :
    covers (entry :: rest) outcomes = covers rest outcomes := by
  rw [covers, channelsFor_cons_of_idle idle, waitingEntries_cons_of_idle idle]
  rfl

section

variable {entry : Entry} (waiting : entry.waiting = true) (rest : List Entry)
  {outcomes : List (Except HostError Channel)}

include waiting

/-- Without a channel nothing is granted, and one entry is left over. -/
theorem channelsFor_cons_of_none (none : grantedChannels outcomes = []) :
    channelsFor (entry :: rest) outcomes = [] ∧ covers (entry :: rest) outcomes = false := by
  have nothing : channelsFor (entry :: rest) outcomes = [] := by
    rw [channelsFor, none, List.take_nil]
  refine ⟨nothing, ?_⟩
  rw [covers, nothing, waitingEntries_cons_of_waiting waiting]
  rfl

/-- The first entry that waits takes the first channel, and leaves the others. -/
theorem channelsFor_cons_of_some {later : List (Except HostError Channel)} {channel : Channel}
    (more : grantedChannels outcomes = channel :: grantedChannels later) :
    channelsFor (entry :: rest) outcomes = channel :: channelsFor rest later ∧
      covers (entry :: rest) outcomes = covers rest later := by
  have first : channelsFor (entry :: rest) outcomes = channel :: channelsFor rest later := by
    rw [channelsFor, more, waitingEntries_cons_of_waiting waiting, List.length_cons,
      List.take_succ_cons]
    rfl
  refine ⟨first, ?_⟩
  rw [covers, first, waitingEntries_cons_of_waiting waiting]
  simp [covers]

end

namespace Agenda

/-- A granted channel is made at the next call. -/
theorem nextChannel_of_granted {agenda : Agenda} {channel : Channel} {granted : List Channel}
    (more : grantedChannels agenda.channels = channel :: granted) :
    ∃ later, agenda.nextChannel = (.ok channel, { agenda with channels := later }) ∧
      agenda.channels = .ok channel :: later ∧ grantedChannels later = granted := by
  obtain ⟨channels, starts, commands⟩ := agenda
  match channels with
  | .ok _ :: later =>
      cases more
      exact ⟨later, rfl, rfl, rfl⟩
  | .error _ :: _ => cases more
  | [] => cases more

/-- Where no channel is granted, the next call fails. -/
theorem nextChannel_of_none {agenda : Agenda} (none : grantedChannels agenda.channels = []) :
    agenda.nextChannel.1 = .error (firstRefusal agenda.channels) := by
  obtain ⟨channels, starts, commands⟩ := agenda
  match channels with
  | .ok _ :: _ => cases none
  | .error _ :: _ => rfl
  | [] => rfl

end Agenda

/-! ### The calls of a start -/

/-- The calls for the waiting entries that are given channels: each time the channel is
made, and then the command of the entry is started with it. -/
def startDeeds : List Entry → List Channel → List StartOutcome → List Call
  | entry :: waiting, channel :: channels, starts =>
      .made channel ::
        .ofStart (entry.command channel.path) (starts.headD .unplanned).answer ::
          startDeeds waiting channels starts.tail
  | _, _, _ => []

/-- The call is one for a new channel. -/
def Call.isCreation : Call → Bool
  | .made _ => true
  | .notMade _ => true
  | _ => false

/-- The last call of a start, if it did not get a channel for every waiting entry. -/
def haltDeeds (complete : Bool) (error : HostError) : List Call :=
  if complete then [] else [.notMade (.host error)]

theorem startDeeds_nil (waiting : List Entry) (starts : List StartOutcome) :
    startDeeds waiting [] starts = [] := by
  cases waiting <;> rfl

/-- There is one call for each channel that is made. -/
theorem countP_isCreation_startDeeds (waiting : List Entry) (channels : List Channel)
    (starts : List StartOutcome) (enough : channels.length ≤ waiting.length) :
    (startDeeds waiting channels starts).countP Call.isCreation = channels.length := by
  induction channels generalizing waiting starts with
  | nil => cases waiting <;> rfl
  | cons channel channels ih =>
      cases waiting with
      | nil => cases enough
      | cons entry waiting =>
          have rest := ih waiting starts.tail (Nat.le_of_succ_le_succ enough)
          rw [startDeeds, List.countP_cons_of_pos rfl, List.countP_cons_of_neg, rest,
            List.length_cons]
          cases (starts.headD .unplanned) <;> exact Bool.false_ne_true

theorem countP_isCreation_haltDeeds (complete : Bool) (error : HostError) :
    (haltDeeds complete error).countP Call.isCreation = if complete then 0 else 1 := by
  cases complete <;> rfl

/-- Every call for a channel is a deed. -/
theorem Recorded.countP_isCreation_deeds (machine : Recorded σ) :
    machine.deeds.countP Call.isCreation = machine.calls.countP Call.isCreation := by
  rw [deeds, List.countP_filter]
  refine List.countP_congr fun call _ => ?_
  cases call <;> simp [Call.isCreation, Call.isPoll]

/-! ### The entries after a start -/

/-- The entry with its channel and the process number that its start was answered with.
It is running if the start of the session got all its channels and the helper started. -/
def Entry.equipped (entry : Entry) (channel : Channel) (pid : Int) (complete : Bool) : Entry :=
  { entry with
    channel := some channel.path
    handle := channel.handle
    pid
    stage := if complete ∧ pid ≠ noProcess then .running else .processSpawned }

/-- An entry that did not wait for the start.  If all channels could be made and an earlier
start has left it with a process, it is running now. -/
def Entry.counted (entry : Entry) (complete : Bool) : Entry :=
  if complete ∧ entry.source = .helper ∧ entry.stage = .processSpawned ∧
      entry.pid ≠ noProcess then
    { entry with stage := .running }
  else
    entry

theorem Entry.counted_false (entry : Entry) : entry.counted false = entry := by
  simp [counted]

/-- Counting an entry is promoting it. -/
theorem Entry.counted_true (entry : Entry) : entry.counted true = entry.promoted := by
  simp [counted, promoted, isBacked, hasProcess]

theorem Entry.counted_of_waiting {entry : Entry} (waiting : entry.waiting = true)
    (complete : Bool) : entry.counted complete = entry := by
  have stage : entry.stage = .configured := by
    simp only [Entry.waiting, Bool.and_eq_true, decide_eq_true_eq] at waiting
    exact waiting.2
  simp [counted, stage]

theorem Entry.counted_spawned {entry : Entry} (waiting : entry.waiting = true)
    (channel : Channel) (pid : Int) (complete : Bool) :
    ((entry.opened channel).spawned pid).counted complete =
      entry.equipped channel pid complete := by
  have backed : entry.source = .helper := by
    simp only [Entry.waiting, Bool.and_eq_true, isBacked, decide_eq_true_eq] at waiting
    exact waiting.1
  by_cases runs : complete = true ∧ pid ≠ noProcess
  · simp [counted, equipped, spawned, opened, backed, runs.1, runs.2]
  · rw [equipped, if_neg runs, counted, if_neg]
    · rfl
    · exact fun all => runs ⟨all.1, all.2.2.2⟩

/-- There are as many entries as before. -/
theorem length_staffed (entries : List Entry) (channels : List Channel)
    (starts : List StartOutcome) :
    (staffed entries channels starts).length = entries.length := by
  induction entries generalizing channels starts with
  | nil => rfl
  | cons entry rest ih =>
      cases waiting : entry.waiting with
      | false => rw [staffed_cons_of_idle waiting, List.length_cons, ih, List.length_cons]
      | true =>
          cases channels with
          | nil => rw [staffed_nil]
          | cons channel channels =>
              rw [staffed_cons_of_waiting waiting, List.length_cons, ih, List.length_cons]

/-- How many entries before a place wait for their start. -/
def waitingBefore (entries : List Entry) (index : Nat) : Nat :=
  (waitingEntries (entries.take index)).length

/-- The entry once it was given a channel and a process, if there was a channel for it. -/
def Entry.staffedBy (entry : Entry) (start : StartOutcome) : Option Channel → Entry
  | some channel => (entry.opened channel).spawned start.pid
  | none => entry

theorem waitingBefore_succ_of_idle {entry : Entry} (idle : entry.waiting = false)
    (rest : List Entry) (index : Nat) :
    waitingBefore (entry :: rest) (index + 1) = waitingBefore rest index := by
  rw [waitingBefore, List.take_succ_cons, waitingEntries_cons_of_idle idle]
  rfl

theorem waitingBefore_succ_of_waiting {entry : Entry} (waiting : entry.waiting = true)
    (rest : List Entry) (index : Nat) :
    waitingBefore (entry :: rest) (index + 1) = waitingBefore rest index + 1 := by
  rw [waitingBefore, List.take_succ_cons, waitingEntries_cons_of_waiting waiting,
    List.length_cons]
  rfl

/-- An entry that waits is given the channel and the process at its place among those that
wait. -/
theorem getElem?_staffed (entries : List Entry) (channels : List Channel)
    (starts : List StartOutcome) (index : Nat) :
    (staffed entries channels starts)[index]? = entries[index]?.map fun entry =>
      if entry.waiting then
        entry.staffedBy (starts[waitingBefore entries index]?.getD .unplanned)
          channels[waitingBefore entries index]?
      else
        entry := by
  induction entries generalizing channels starts index with
  | nil => simp [staffed]
  | cons entry rest ih =>
      cases waiting : entry.waiting with
      | false =>
          rw [staffed_cons_of_idle waiting]
          cases index with
          | zero => simp [waiting]
          | succ index =>
              rw [List.getElem?_cons_succ, List.getElem?_cons_succ, ih,
                waitingBefore_succ_of_idle waiting]
      | true =>
          cases channels with
          | nil => simp [staffed_nil, Entry.staffedBy]
          | cons channel channels =>
              rw [staffed_cons_of_waiting waiting]
              cases index with
              | zero =>
                  have first : waitingBefore (entry :: rest) 0 = 0 := rfl
                  simp [waiting, first, Entry.staffedBy, List.headD_eq_head?_getD,
                    List.head?_eq_getElem?]
              | succ index =>
                  rw [List.getElem?_cons_succ, List.getElem?_cons_succ, ih,
                    waitingBefore_succ_of_waiting waiting, List.getElem?_cons_succ,
                    List.getElem?_tail]

/-! ### A start on a planned and recorded machine -/

/-- Starting a command is a deed. -/
theorem Call.ofStart_isPoll (command : List String) (outcome : Except Fault Child) :
    (Call.ofStart command outcome).isPoll = false := by
  cases outcome <;> rfl

theorem Desk.plain_agenda (desk : Desk (Recorded (Planned σ))) :
    desk.plain.agenda = desk.machine.machine.agenda := rfl

namespace Launcher

/-- The start of a command is one deed, with the next outcome on the agenda. -/
theorem spawn_planned_deeds (crew : Crew σ) (launcher : Launcher) (command : List String)
    (machine : Recorded (Planned σ)) :
    (launcher.spawn crew.planned.recorded.kernel command machine).machine.deeds =
      machine.deeds ++ [.ofStart command machine.machine.agenda.nextStart.answer] := by
  rcases reaped : launcher.reap crew.planned.recorded.kernel machine with ⟨kept, next⟩
  have plain := reap_recorded crew.planned.kernel launcher machine
  rw [← Crew.recorded_kernel, reaped] at plain
  have agenda : next.machine.agenda = machine.machine.agenda := reap_agenda plain
  rw [spawn_machine reaped, ← reap_deeds reaped, ← agenda]
  exact next.after_deeds_of_deed _ _ (Call.ofStart_isPoll command _)

end Launcher

namespace Crew

variable (crew : Crew σ) {entry : Entry} {desk : Desk (Recorded (Planned σ))}

/-- A waiting entry for which a channel is granted has it made, and its command is started
with it. -/
theorem startEach_of_granted {channel : Channel} {granted : List Channel}
    (waiting : entry.waiting = true)
    (more : grantedChannels desk.plain.agenda.channels = channel :: granted)
    (rest : List Entry) :
    ∃ after : Desk (Recorded (Planned σ)),
      crew.planned.recorded.startEach (entry :: rest) desk =
        (crew.planned.recorded.startEach rest after).after
          ((entry.opened channel).spawned desk.plain.agenda.nextStart.pid) ∧
      grantedChannels after.plain.agenda.channels = granted ∧
      firstRefusal after.plain.agenda.channels = firstRefusal desk.plain.agenda.channels ∧
      after.plain.agenda.starts = desk.plain.agenda.starts.tail ∧
      after.machine.deeds = desk.machine.deeds ++
        [.made channel, .ofStart (entry.command channel.path)
          desk.plain.agenda.nextStart.answer] := by
  obtain ⟨later, taken, outcomes, left⟩ := Agenda.nextChannel_of_granted more
  let opened : Planned σ :=
    { desk.machine.machine with agenda := { desk.plain.agenda with channels := later } }
  let between : Desk (Recorded (Planned σ)) :=
    { desk with machine := desk.machine.after opened (.made channel) }
  have made : crew.planned.recorded.maker.create desk.machine = (.ok channel, between.machine) := by
    have plain : crew.planned.maker.create desk.machine.machine = (.ok channel, opened) := by
      simp only [planned, ← Desk.plain_agenda, taken]
      rfl
    rw [recorded_maker, ChannelMaker.recorded_create, plain]
    rfl
  obtain ⟨next, launched, agenda⟩ :=
    launch_planned crew (entry.opened channel) channel between.plain
  rw [launch_recorded] at launched
  rcases launchedToo : crew.planned.recorded.launch (entry.opened channel) channel between with
    ⟨result, after⟩
  rw [launchedToo] at launched
  cases launched
  refine ⟨after, startEach_of_launched waiting made launchedToo, ?_, ?_, ?_, ?_⟩
  · rw [agenda]
    exact left
  · rw [agenda, outcomes]
    rfl
  · rw [agenda]
    rfl
  · have last := crew.planned.recorded.launch_machine (entry.opened channel) channel between
    rw [launchedToo] at last
    have creation : between.machine.deeds = desk.machine.deeds ++ [.made channel] :=
      desk.machine.after_deeds_of_deed opened _ rfl
    rw [last, Launcher.spawn_planned_deeds, creation, List.append_assoc]
    rfl

/-- A waiting entry for which no channel is granted ends the start. -/
theorem startEach_of_ungranted (waiting : entry.waiting = true)
    (none : grantedChannels desk.plain.agenda.channels = []) (rest : List Entry) :
    ∃ after : Desk (Recorded (Planned σ)),
      crew.planned.recorded.startEach (entry :: rest) desk =
        ⟨.ok false, entry :: rest, after⟩ ∧
      after.machine.deeds = desk.machine.deeds ++
        [.notMade (.host (firstRefusal desk.plain.agenda.channels))] := by
  have refused := Agenda.nextChannel_of_none none
  rcases taken : desk.plain.agenda.nextChannel with ⟨outcome, agenda⟩
  rw [taken] at refused
  cases refused
  have made : crew.planned.recorded.maker.create desk.machine =
      (.error (.host (firstRefusal desk.plain.agenda.channels)),
        desk.machine.after { desk.machine.machine with agenda }
          (.notMade (.host (firstRefusal desk.plain.agenda.channels)))) := by
    have plain : crew.planned.maker.create desk.machine.machine =
        (.error (.host (firstRefusal desk.plain.agenda.channels)),
          { desk.machine.machine with agenda }) := by
      simp only [planned, ← Desk.plain_agenda, taken]
      rfl
    rw [recorded_maker, ChannelMaker.recorded_create, plain]
    rfl
  exact ⟨_, startEach_of_refused waiting made, desk.machine.after_deeds_of_deed _ _ rfl⟩

/-- The waiting entries are given the granted channels in order, each of them a process with
it.  The pass ends with a call that fails if there is no channel for the next entry. -/
theorem startEach_traced (entries : List Entry) (desk : Desk (Recorded (Planned σ))) :
    let pass := crew.planned.recorded.startEach entries desk
    let outcomes := desk.plain.agenda.channels
    let starts := desk.plain.agenda.starts
    pass.result = .ok (covers entries outcomes) ∧
      pass.entries = staffed entries (channelsFor entries outcomes) starts ∧
      pass.desk.machine.deeds = desk.machine.deeds ++
        (startDeeds (waitingEntries entries) (channelsFor entries outcomes) starts ++
          haltDeeds (covers entries outcomes) (firstRefusal outcomes)) := by
  intro pass outcomes starts
  induction entries generalizing desk with
  | nil =>
      have none : channelsFor [] outcomes = [] := List.take_zero
      have enough : covers [] outcomes = true := by
        rw [covers, none]
        rfl
      refine ⟨congrArg _ enough.symm, rfl, ?_⟩
      rw [enough]
      exact (List.append_nil _).symm
  | cons entry rest ih =>
      cases waiting : entry.waiting with
      | false =>
          obtain ⟨result, entries, deeds⟩ := ih desk
          simp only [pass]
          rw [startEach_of_idle waiting, covers_cons_of_idle waiting,
            channelsFor_cons_of_idle waiting, waitingEntries_cons_of_idle waiting,
            staffed_cons_of_idle waiting]
          exact ⟨result, congrArg (entry :: ·) entries, deeds⟩
      | true =>
          cases granted : grantedChannels outcomes with
          | nil =>
              obtain ⟨after, ended, deeds⟩ := crew.startEach_of_ungranted waiting granted
                rest
              obtain ⟨nothing, short⟩ := channelsFor_cons_of_none waiting rest granted
              simp only [pass]
              rw [ended, nothing, short, staffed_nil, startDeeds_nil]
              exact ⟨rfl, rfl, deeds⟩
          | cons channel granted =>
              obtain ⟨after, started, left, refusal, startsLeft, deeds⟩ :=
                crew.startEach_of_granted waiting granted rest
              obtain ⟨result, entries, later⟩ := ih after
              obtain ⟨first, same⟩ := channelsFor_cons_of_some waiting rest
                (granted.trans (congrArg (channel :: ·) left.symm))
              simp only [pass]
              rw [started, first, same, staffed_cons_of_waiting waiting,
                waitingEntries_cons_of_waiting waiting, startDeeds]
              refine ⟨result, ?_, ?_⟩
              · rw [Pass.after, entries, startsLeft]
                rfl
              · rw [Pass.after, later, deeds, startsLeft, refusal]
                simp only [List.append_assoc, List.cons_append, List.nil_append]
                rfl

/-- A start gives every entry its place in the list of staffed entries, and counts them if
it got all channels. -/
theorem start_counted (session : Session) (desk : Desk (Recorded (Planned σ))) :
    let outcomes := desk.plain.agenda.channels
    let complete := covers session.entries outcomes
    crew.planned.recorded.start session desk =
      (.ok complete,
        ⟨(staffed session.entries (channelsFor session.entries outcomes)
          desk.plain.agenda.starts).map (Entry.counted · complete)⟩,
        (crew.planned.recorded.startEach session.entries desk).desk) := by
  intro outcomes complete
  obtain ⟨result, entries, -⟩ := crew.startEach_traced session.entries desk
  cases enough : complete with
  | true =>
      have completed := result.trans (congrArg Except.ok enough)
      rw [start_of_completed completed, entries]
      simp only [Entry.counted_true]
      rfl
  | false =>
      have ended := result.trans (congrArg Except.ok enough)
      have short : (crew.planned.recorded.startEach session.entries desk).result ≠ .ok true := by
        rw [ended]
        nofun
      rw [start_of_ended short, ended, entries]
      simp only [Entry.counted_false, List.map_id']
      rfl

/-- One start, whatever the entries of the session are and whatever the calls for channels
and processes come to.  The answer is true exactly if no call for a channel fails.  The
waiting entries before the first failure have their channels made and their commands
started, in order, and nothing else is done but the call that fails.  These entries have
their channels and the process numbers of their starts.  They run if all channels were
made and they have a process, and so do then the entries that an earlier start has left
with a process; all others are as they were. -/
theorem start_fully_told (session : Session) (desk : Desk (Planned σ)) :
    let outcomes := desk.agenda.channels
    let starts := desk.agenda.starts
    let waiting := waitingEntries session.entries
    let made := channelsFor session.entries outcomes
    let complete := covers session.entries outcomes
    let later := (crew.planned.recorded.start session desk.watched).2.2
    ∃ entries : List Entry,
      crew.planned.start session desk = (.ok complete, ⟨entries⟩, later.plain) ∧
      (complete = true ↔
        ∀ index < waiting.length, ∃ channel, outcomes[index]? = some (.ok channel)) ∧
      later.machine.deeds =
        startDeeds waiting made starts ++ haltDeeds complete (firstRefusal outcomes) ∧
      later.machine.calls.countP Call.isCreation = made.length + (if complete then 0 else 1) ∧
      entries.length = session.size ∧
      ∀ index entry, session.entries[index]? = some entry →
        let place := waitingBefore session.entries index
        (entry.waiting = false → entries[index]? = some (entry.counted complete)) ∧
        (entry.waiting = true → made[place]? = none → entries[index]? = some entry) ∧
        (∀ channel, entry.waiting = true → made[place]? = some channel →
          entries[index]? =
            some (entry.equipped channel (starts[place]?.getD .unplanned).pid complete)) := by
  intro outcomes starts waiting made complete later
  have told := crew.start_counted session desk.watched
  have traced := crew.startEach_traced session.entries desk.watched
  have deeds : later.machine.deeds =
      startDeeds waiting made starts ++ haltDeeds complete (firstRefusal outcomes) := by
    simp only [later, told]
    exact traced.2.2
  refine ⟨(staffed session.entries made starts).map (Entry.counted · complete), ?_,
    covers_iff session.entries outcomes, deeds, ?_, ?_, ?_⟩
  · have plain := crew.planned.start_recorded session desk.watched
    simp only [later, told] at plain ⊢
    exact plain
  · have few : made.length ≤ waiting.length := List.length_take_le _ _
    rw [← Recorded.countP_isCreation_deeds, deeds, List.countP_append,
      countP_isCreation_startDeeds waiting made starts few, countP_isCreation_haltDeeds]
  · rw [List.length_map, length_staffed]
    rfl
  · intro index entry there place
    have after : (staffed session.entries made starts)[index]? = _ :=
      getElem?_staffed session.entries made starts index
    rw [there, Option.map_some] at after
    refine ⟨fun idle => ?_, fun waits none => ?_, fun channel waits some => ?_⟩
    · rw [List.getElem?_map, after, if_neg (by simp [idle])]
      rfl
    · rw [List.getElem?_map, after, if_pos waits, none]
      exact congrArg some (Entry.counted_of_waiting waits complete)
    · rw [List.getElem?_map, after, if_pos waits, some]
      exact congrArg Option.some (Entry.counted_spawned waits channel _ complete)

/-- The half started session gets one channel, and then none.  Its second entry has a
process now, which does not count as running; the last one waits as before. -/
theorem half_started_halted :
    let crew : Crew Machine := ⟨Machine.plannedMaker, Machine.kernel⟩
    let desk : Desk (Planned Machine) :=
      ⟨.empty, [], ⟨.initial "/",
        ⟨[.ok ⟨"/tmp/first", none⟩, .error (.channel "busy" none), .ok ⟨"/tmp/second", none⟩],
          [.process ⟨1001, 0⟩], []⟩⟩⟩
    let later := (crew.planned.recorded.start halfStarted desk.watched).2.2
    ∃ entries : List Entry,
      crew.planned.start halfStarted desk = (.ok false, ⟨entries⟩, later.plain) ∧
      later.machine.deeds =
        [.made ⟨"/tmp/first", none⟩,
          .started ["/extcap/sniffer", "--capture", "--extcap-interface", "wlan0",
            "--fifo", "/tmp/first"] ⟨1001, 0⟩,
          .notMade (.host (.channel "busy" none))] ∧
      entries.map (fun entry => (entry.stage, entry.pid, entry.channel)) =
        [(.configured, noProcess, none), (.processSpawned, 1001, some "/tmp/first"),
          (.processSpawned, 1000, some "/tmp/old"), (.configured, noProcess, none)] := by
  intro crew desk later
  obtain ⟨entries, answer, -, deeds, -, size, each⟩ := crew.start_fully_told halfStarted desk
  have native := (each 0 halfStarted.entries[0] rfl).1 rfl
  have started := (each 1 halfStarted.entries[1] rfl).2.2 ⟨"/tmp/first", none⟩ rfl rfl
  have earlier := (each 2 halfStarted.entries[2] rfl).1 rfl
  have bare := (each 3 halfStarted.entries[3] rfl).2.1 rfl rfl
  refine ⟨entries, answer, deeds, ?_⟩
  match entries, size with
  | [_, _, _, _], _ =>
      cases native
      cases started
      cases earlier
      cases bare
      rfl

end Crew

end ExtcapHost
