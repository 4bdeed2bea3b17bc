/-
Module: ExtcapHost.Proofs.Session.ChannelConservation
Purpose: No channel is forgotten, and none is removed twice.
Main exports:
  Entry.records, Turn.balance, Hall.channels_conserved
-/
import ExtcapHost.Proofs.Session.Lifecycle
import ExtcapHost.Proofs.Session.Recording

/-!
A channel that was made is either recorded in an entry or was removed.  Each turn moves
it from one side of that account to the other at most, so the account stays balanced over
every run, also where a pass ends early or a removal is tried again.
-/

namespace ExtcapHost

variable {σ : Type}

/-- The entry has that channel. -/
def Entry.records (entry : Entry) (channel : Channel) : Bool :=
  entry.channel = some channel.path ∧ entry.handle = channel.handle

namespace Entry

theorem records_of_none {entry : Entry} (absent : entry.channel = none) (channel : Channel) :
    entry.records channel = false := by
  simp [records, absent]

/-- How often an entry records a channel, which is once at most. -/
def recordCount (entry : Entry) (channel : Channel) : Nat :=
  if entry.records channel then 1 else 0

theorem recordCount_of_none {entry : Entry} (absent : entry.channel = none)
    (channel : Channel) : entry.recordCount channel = 0 := by
  simp [recordCount, records_of_none absent]

theorem recordCount_opened (entry : Entry) (made channel : Channel) :
    (entry.opened made).recordCount channel = [Call.made made].count (.made channel) := by
  obtain ⟨path, handle⟩ := made
  obtain ⟨path', handle'⟩ := channel
  simp [recordCount, records, opened, List.count_cons]

theorem recordCount_promoted (entry : Entry) (channel : Channel) :
    entry.promoted.recordCount channel = entry.recordCount channel := by
  unfold promoted
  split <;> rfl

theorem recordCount_removed (entry : Entry) (channel : Channel) :
    entry.recordCount channel =
      [Call.removed entry.channel entry.handle].count (.removed (some channel.path) channel.handle) := by
  simp [recordCount, records, List.count_cons]

end Entry

namespace Books

/-- How often a channel was made. -/
def made (books : Books) (channel : Channel) : Nat :=
  books.deeds.count (.made channel)

/-- How often a channel was removed. -/
def removed (books : Books) (channel : Channel) : Nat :=
  books.deeds.count (.removed (some channel.path) channel.handle)

end Books

/-- In one turn, what was made more often is recorded more often or was removed more
often. -/
theorem Turn.balance {entry next : Entry} {books last : Books}
    (turn : Turn entry books next last) (consistent : entry.Consistent) (channel : Channel) :
    last.made channel + entry.recordCount channel + books.removed channel =
      books.made channel + next.recordCount channel + last.removed channel := by
  -- An entry that waits has no channel, so the one that it gains does not replace another.
  have blank : entry.waiting = true → entry.recordCount channel = 0 := by
    intro waiting
    exact Entry.recordCount_of_none (consistent.ofWaiting waiting).1 channel
  have gains : ∀ made : Channel, ∀ pid : Int,
      ((entry.opened made).spawned pid).recordCount channel =
        [Call.made made].count (.made channel) := by
    intro made pid
    exact entry.recordCount_opened made channel
  cases turn with
  | refused => simp [Books.made, Books.removed]
  | stranded waiting made =>
      rw [blank waiting, entry.recordCount_opened]
      simp [Books.made, Books.removed, List.count_cons]
  | unmanned waiting made =>
      rw [blank waiting, gains]
      simp [Books.made, Books.removed, List.count_cons]
  | manned waiting made child =>
      rw [blank waiting, gains]
      simp [Books.made, Books.removed, List.count_cons]
  | promoted => rw [entry.recordCount_promoted]
  | stuck => simp [Books.made, Books.removed]
  | retained =>
      have keeps : entry.closed.recordCount channel = entry.recordCount channel := rfl
      rw [keeps]
      simp [Books.made, Books.removed]
  | cleared =>
      have loses : entry.unlinked.closed.recordCount channel = 0 :=
        Entry.recordCount_of_none rfl channel
      rw [loses, entry.recordCount_removed]
      simp [Books.made, Books.removed]
      omega
  | bare =>
      have keeps : entry.closed.recordCount channel = entry.recordCount channel := rfl
      rw [keeps]
      simp [Books.made, Books.removed]

/-- As often as a channel was made, it is recorded or was removed. -/
def Balanced (channel : Channel) (entries : List Entry) (books : Books) : Prop :=
  books.made channel =
    entries.countP (fun entry => entry.records channel) + books.removed channel

/-- The account of a channel stays balanced. -/
theorem Kept.balanced (channel : Channel) :
    Kept fun entries books => (∀ entry ∈ entries, entry.Consistent) ∧
      Balanced channel entries books := by
  apply Kept.whileConsistent
  · intro before after entry next books last consistent turn balanced
    have moved := turn.balance consistent channel
    simp only [Entry.recordCount] at moved
    simp only [Balanced, List.countP_append, List.countP_cons] at balanced ⊢
    omega
  · intro before after entry books new balanced
    have blank := Entry.records_of_none new.channel channel
    simp only [Balanced, List.countP_append, List.countP_cons, blank] at balanced ⊢
    simpa using balanced

namespace Hall

/-- After every run, in whatever way its moves have ended, a channel was made as often as
it is recorded in an entry and was removed, both taken together. -/
theorem channels_conserved (crew : Crew σ) (count : Nat) (launcher : Launcher)
    (journal : List Note) (machine : σ) (moves : List (Nat × Move σ)) (channel : Channel) :
    let hall := (opened count ⟨launcher, journal, .blank machine⟩).run crew.recorded
      (recordedMoves moves)
    let calls := hall.desk.machine.calls
    hall.plain = (opened count ⟨launcher, journal, machine⟩).run crew moves ∧
      calls.count (.made channel) =
        hall.entries.countP (fun entry => entry.records channel) +
          calls.count (.removed (some channel.path) channel.handle) := by
  intro hall calls
  have kept := (Kept.balanced channel).run_opened crew count launcher journal machine moves
    ⟨nofun, rfl⟩
  have balanced : Balanced channel hall.entries hall.desk.books := kept.2
  have plain := run_recorded crew (opened count ⟨launcher, journal, .blank machine⟩) moves
  refine ⟨plain.symm, ?_⟩
  rw [Balanced, Books.made, Books.removed] at balanced
  have made := hall.desk.machine.count_deeds (.made channel) rfl
  have removed := hall.desk.machine.count_deeds
    (.removed (some channel.path) channel.handle) rfl
  rw [Desk.books, made, removed] at balanced
  exact balanced

end Hall

end ExtcapHost
