/-
Module: ExtcapHost.Proofs.Session.Lifecycle
Purpose: The stage of an entry agrees with what is recorded in it.
Main exports:
  Entry.Consistent, Turn.consistent, Kept.consistent, Kept.whileConsistent
-/
import ExtcapHost.Proofs.Session.Invariant

/-!
An entry gains its channel and its process in three steps and loses them in one.  A
pass that ends early leaves some entries between two steps, so each stage is tied to
what is recorded at that stage, and not to the steps that led there.
-/

namespace ExtcapHost

/-- The stage of an entry agrees with its channel and its process. -/
structure Entry.Consistent (entry : Entry) : Prop where
  /-- Nothing is ever started for an interface of the system. -/
  native : entry.source = .native → entry.stage = .configured
  configured : entry.stage = .configured →
    entry.channel = none ∧ entry.handle = none ∧ entry.pid = noProcess
  channelCreated : entry.stage = .channelCreated →
    entry.channel.isSome ∧ entry.pid = noProcess
  /-- The process may have failed to start. -/
  processSpawned : entry.stage = .processSpawned → entry.channel.isSome
  running : entry.stage = .running → entry.channel.isSome ∧ entry.pid ≠ noProcess
  /-- The channel may have failed to go away. -/
  stopped : entry.stage = .stopped → entry.pid = noProcess

namespace Entry

variable {entry : Entry}

theorem isBacked_iff : entry.isBacked = true ↔ entry.source = .helper := by
  simp [isBacked]

/-- An entry that a helper backs does not come from the system. -/
theorem source_ne_native (backed : entry.isBacked = true) : entry.source ≠ .native := by
  rw [isBacked_iff.mp backed]
  nofun

theorem waiting_iff :
    entry.waiting = true ↔ entry.isBacked = true ∧ entry.stage = .configured := by
  simp [waiting]

/-! ### Every revision is one that `advance` allows -/

/-- A stage that is not behind can be entered, by any change that leaves the helper
alone. -/
theorem advance_of_forward {stage : Stage} {change : Revision → Revision} {next : Entry}
    (forward : entry.stage.rank ≤ stage.rank)
    (changed : next.toRevision = { change entry.toRevision with stage }) :
    entry.advance stage change = .ok next := by
  have named : (change entry.toRevision).source = .helper →
      (change entry.toRevision).helper.getD "" ≠ "" := by
    have proper := next.helperNamed
    rw [changed] at proper
    exact proper
  obtain ⟨revision, proper⟩ := next
  simp only at changed
  subst changed
  rw [advance, if_neg (Nat.not_lt.mpr forward), ofRevision, dif_pos named]

theorem advance_opened (waiting : entry.waiting = true) (channel : Channel) :
    entry.advance .channelCreated (fun revision =>
      { revision with channel := some channel.path, handle := channel.handle }) =
      .ok (entry.opened channel) := by
  apply advance_of_forward
  · rw [(waiting_iff.mp waiting).2]
    decide
  · rfl

theorem advance_spawned (entry : Entry) (channel : Channel) (pid : Int) :
    (entry.opened channel).advance .processSpawned (fun revision => { revision with pid }) =
      .ok ((entry.opened channel).spawned pid) := by
  apply advance_of_forward
  · exact (by decide : Stage.channelCreated.rank ≤ Stage.processSpawned.rank)
  · rfl

theorem advance_promoted
    (started : entry.isBacked ∧ entry.stage = .processSpawned ∧ entry.hasProcess) :
    entry.advance .running (fun revision => revision) = .ok entry.promoted := by
  apply advance_of_forward
  · rw [started.2.1]
    decide
  · rw [promoted, if_pos started]

/-- An entry can be closed at any stage, also once more. -/
theorem advance_closed (entry : Entry) :
    entry.advance .stopped (fun revision => { revision with pid := noProcess }) =
      .ok entry.closed := by
  apply advance_of_forward
  · cases entry.stage <;> decide
  · rfl

namespace Consistent

theorem ofNew (new : entry.IsNew) : entry.Consistent where
  native _ := new.stage
  configured _ := ⟨new.channel, new.handle, new.pid⟩
  channelCreated stage := by rw [new.stage] at stage; cases stage
  processSpawned stage := by rw [new.stage] at stage; cases stage
  running stage := by rw [new.stage] at stage; cases stage
  stopped stage := by rw [new.stage] at stage; cases stage

/-- An entry that waits for its start has nothing yet. -/
theorem ofWaiting (consistent : entry.Consistent) (waiting : entry.waiting = true) :
    entry.channel = none ∧ entry.handle = none ∧ entry.pid = noProcess :=
  consistent.configured (waiting_iff.mp waiting).2

theorem opened (consistent : entry.Consistent) (waiting : entry.waiting = true)
    (channel : Channel) : (entry.opened channel).Consistent where
  native native := absurd native (source_ne_native (waiting_iff.mp waiting).1)
  configured := nofun
  channelCreated _ := ⟨rfl, (consistent.ofWaiting waiting).2.2⟩
  processSpawned := nofun
  running := nofun
  stopped := nofun

theorem spawned (waiting : entry.waiting = true) (channel : Channel) (pid : Int) :
    ((entry.opened channel).spawned pid).Consistent where
  native native := absurd native (source_ne_native (waiting_iff.mp waiting).1)
  configured := nofun
  channelCreated := nofun
  processSpawned _ := rfl
  running := nofun
  stopped := nofun

theorem promoted (consistent : entry.Consistent) : entry.promoted.Consistent := by
  unfold Entry.promoted
  split
  · rename_i started
    obtain ⟨backed, stage, process⟩ := started
    constructor
    · intro native
      exact absurd native (source_ne_native backed)
    · intro stage
      cases stage
    · intro stage
      cases stage
    · intro stage
      cases stage
    · intro _
      exact ⟨consistent.processSpawned stage, by simpa [hasProcess] using process⟩
    · intro stage
      cases stage
  · exact consistent

/-- A closed entry is consistent, whether or not it kept its channel. -/
theorem closed (backed : entry.isBacked = true) : entry.closed.Consistent where
  native native := absurd native (source_ne_native backed)
  configured := nofun
  channelCreated := nofun
  processSpawned := nofun
  running := nofun
  stopped _ := rfl

end Consistent

end Entry

/-- A consistent entry stays so in its turn. -/
theorem Turn.consistent {entry next : Entry} {books last : Books}
    (turn : Turn entry books next last) (consistent : entry.Consistent) : next.Consistent := by
  cases turn with
  | refused => exact consistent
  | stranded waiting channel => exact consistent.opened waiting channel
  | unmanned waiting channel => exact .spawned waiting channel noProcess
  | manned waiting channel child => exact .spawned waiting channel child.pid
  | promoted => exact consistent.promoted
  | stuck => exact consistent
  | retained backed => exact .closed backed
  | cleared backed => exact .closed backed
  | bare backed => exact .closed backed

/-- All entries are consistent, whatever the books say. -/
theorem Kept.consistent : Kept fun entries _ => ∀ entry ∈ entries, entry.Consistent where
  turn before after {entry next books last} turn holds := by
    intro other member
    simp only [List.mem_append, List.mem_cons] at member
    rcases member with earlier | moved | later
    · exact holds other (by simp [earlier])
    · rw [moved]
      exact turn.consistent (holds entry (by simp))
    · exact holds other (by simp [later])
  added before after {entry books} new holds := by
    intro other member
    simp only [List.mem_append, List.mem_cons] at member
    rcases member with earlier | moved | later
    · exact holds other (by simp [earlier])
    · rw [moved]
      exact .ofNew new
    · exact holds other (by simp [later])

/-- A statement may be kept only as long as the entries are consistent, which they
always are. -/
theorem Kept.whileConsistent {kept : List Entry → Books → Prop}
    (turn : ∀ (before after : List Entry) {entry next : Entry} {books last : Books},
      entry.Consistent → Turn entry books next last → kept (before ++ entry :: after) books →
        kept (before ++ next :: after) last)
    (added : ∀ (before after : List Entry) {entry : Entry} {books : Books}, entry.IsNew →
      kept (before ++ after) books → kept (before ++ entry :: after) books) :
    Kept fun entries books => (∀ entry ∈ entries, entry.Consistent) ∧ kept entries books where
  turn before after {entry next books last} moved holds :=
    ⟨Kept.consistent.turn before after moved holds.1,
      turn before after (holds.1 entry (by simp)) moved holds.2⟩
  added before after {_ books} new holds := by
    have consistent : ∀ entry ∈ before ++ after, entry.Consistent := holds.1
    constructor
    · exact @Kept.added _ Kept.consistent before after _ books new consistent
    · exact added before after new holds.2

end ExtcapHost
