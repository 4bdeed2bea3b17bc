/-
Module: ExtcapHost.Proofs.Session.Turn
Purpose: Everything that can become of an entry, with the calls that it takes.
Main exports:
  Books, Turn, Round, Crew.start_round, Crew.cleanup_round
-/
import ExtcapHost.Proofs.Ordered
import ExtcapHost.Proofs.Session.Outcome
import ExtcapHost.Proofs.Session.Hall

/-!
A pass over the entries of a session is a round of turns.  One turn concerns one entry,
the deeds of the machine and the processes that the launcher tracks, and nothing else;
asking a process whether it has ended is not even seen.  So whatever each turn keeps
is kept by a start and by a cleanup, in whatever way they end.
-/

namespace ExtcapHost

variable {σ : Type}

/-- The deeds so far, and the processes that are tracked by their number. -/
structure Books where
  deeds : List Call
  tracked : List (Int × Child)

namespace Books

/-- Deeds are entered at the end. -/
def enter (books : Books) (deeds : List Call) : Books :=
  { books with deeds := books.deeds ++ deeds }

/-- A process is tracked from now on. -/
def track (books : Books) (child : Child) : Books :=
  { books with tracked := Ordered.put child.pid child books.tracked }

/-- A process is tracked no more. -/
def letGo (books : Books) (pid : Int) : Books :=
  if pid = noProcess then books
  else { books with tracked := Ordered.erase pid books.tracked }

/-- The numbers of the tracked processes. -/
def pids (books : Books) : List Int :=
  books.tracked.map fun process => process.1

@[simp] theorem enter_deeds (books : Books) (deeds : List Call) :
    (books.enter deeds).deeds = books.deeds ++ deeds := rfl

@[simp] theorem enter_tracked (books : Books) (deeds : List Call) :
    (books.enter deeds).tracked = books.tracked := rfl

theorem enter_enter (books : Books) (first second : List Call) :
    (books.enter first).enter second = books.enter (first ++ second) := by
  rw [enter, enter, enter, List.append_assoc]

@[simp] theorem track_deeds (books : Books) (child : Child) :
    (books.track child).deeds = books.deeds := rfl

@[simp] theorem letGo_deeds (books : Books) (pid : Int) :
    (books.letGo pid).deeds = books.deeds := by
  unfold letGo
  split <;> rfl

end Books

/-- What stands in the books of a desk. -/
def Desk.books (desk : Desk (Recorded σ)) : Books :=
  ⟨desk.machine.deeds, desk.launcher.tracked⟩

theorem Desk.books_eq {desk : Desk (Recorded σ)} {books : Books}
    (deeds : desk.machine.deeds = books.deeds) (tracked : desk.launcher.tracked = books.tracked) :
    desk.books = books := by
  rw [Desk.books, deeds, tracked]

@[simp] theorem Desk.note_books (desk : Desk (Recorded σ)) (level : Level) (text : String) :
    (desk.note level text).books = desk.books := rfl

/-- What can become of one entry at a time. -/
inductive Turn : Entry → Books → Entry → Books → Prop where
  /-- No channel could be made. -/
  | refused {entry : Entry} {books : Books} (waiting : entry.waiting = true)
      (fault : Fault) :
      Turn entry books entry (books.enter [.notMade fault])
  /-- There is a channel, but the start of the process ended in a fault. -/
  | stranded {entry : Entry} {books : Books} (waiting : entry.waiting = true)
      (channel : Channel) (fault : Fault) :
      Turn entry books (entry.opened channel)
        (books.enter [.made channel, .notStarted ((entry.opened channel).command channel.path) fault])
  /-- There is a channel, and no process. -/
  | unmanned {entry : Entry} {books : Books} (waiting : entry.waiting = true)
      (channel : Channel) (fault : Fault) :
      Turn entry books ((entry.opened channel).spawned noProcess)
        (books.enter [.made channel, .notStarted ((entry.opened channel).command channel.path) fault])
  /-- There is a channel and a process. -/
  | manned {entry : Entry} {books : Books} (waiting : entry.waiting = true)
      (channel : Channel) (child : Child) :
      Turn entry books ((entry.opened channel).spawned child.pid)
        ((books.enter [.made channel, .started ((entry.opened channel).command channel.path) child]).track
          child)
  /-- The start is over. -/
  | promoted {entry : Entry} {books : Books} :
      Turn entry books entry.promoted books
  /-- Removing the channel ended in a fault that nobody handles. -/
  | stuck {entry : Entry} {books : Books} (backed : entry.isBacked = true)
      (has : entry.hasChannel = true) (fault : Fault) :
      Turn entry books entry (books.enter [.notRemoved entry.channel entry.handle fault])
  /-- The entry is closed, but its channel could not be removed. -/
  | retained {entry : Entry} {books : Books} (backed : entry.isBacked = true)
      (has : entry.hasChannel = true) (fault : Fault) :
      Turn entry books entry.closed
        ((books.enter [.notRemoved entry.channel entry.handle fault]).letGo entry.pid)
  /-- The entry is closed, and its channel is removed. -/
  | cleared {entry : Entry} {books : Books} (backed : entry.isBacked = true)
      (has : entry.hasChannel = true) :
      Turn entry books entry.unlinked.closed
        ((books.enter [.removed entry.channel entry.handle]).letGo entry.pid)
  /-- The entry is closed; it had no channel. -/
  | bare {entry : Entry} {books : Books} (backed : entry.isBacked = true)
      (hasNot : entry.hasChannel = false) :
      Turn entry books entry.closed (books.letGo entry.pid)

/-- Turns of the entries of a session, one after the other. -/
inductive Round : List Entry → Books → List Entry → Books → Prop where
  | done (entries : List Entry) (books : Books) : Round entries books entries books
  | turn (before after : List Entry) {entries : List Entry} {entry next : Entry}
      {books middle last : Books} (head : Turn entry books next middle)
      (tail : Round (before ++ next :: after) middle entries last) :
      Round (before ++ entry :: after) books entries last

namespace Round

/-- Rounds compose. -/
theorem trans {first second third : List Entry} {books middle last : Books}
    (one : Round first books second middle) (two : Round second middle third last) :
    Round first books third last := by
  induction one with
  | done => exact two
  | turn before after head _ inductionHypothesis =>
      exact .turn before after head (inductionHypothesis two)

/-- The entries of a round may stand behind another one. -/
theorem behind (front : Entry) {first second : List Entry} {books last : Books}
    (round : Round first books second last) :
    Round (front :: first) books (front :: second) last := by
  induction round with
  | done => exact .done _ _
  | turn before after head _ inductionHypothesis =>
      exact .turn (front :: before) after head inductionHypothesis

/-- A turn of the front entry, and then turns of the others. -/
theorem front {entry next : Entry} {rest entries : List Entry} {books middle last : Books}
    (head : Turn entry books next middle) (tail : Round rest middle entries last) :
    Round (entry :: rest) books (next :: entries) last :=
  .turn [] rest head (tail.behind next)

/-- Only the front entry has a turn. -/
theorem single {entry next : Entry} {books last : Books} (head : Turn entry books next last)
    (rest : List Entry) :
    Round (entry :: rest) books (next :: rest) last :=
  front head (.done rest last)

/-- What every turn keeps, wherever it happens, is kept by a round. -/
theorem keeps (kept : List Entry → Books → Prop)
    (turn : ∀ (before after : List Entry) {entry next : Entry} {books last : Books},
      Turn entry books next last → kept (before ++ entry :: after) books →
        kept (before ++ next :: after) last)
    {first second : List Entry} {books last : Books}
    (round : Round first books second last) (start : kept first books) :
    kept second last := by
  induction round with
  | done => exact start
  | turn before after head _ inductionHypothesis =>
      exact inductionHypothesis (turn before after head start)

end Round

/-! ### Calls on processes -/

namespace Launcher

theorem pollAll_deeds (kernel : Kernel σ) (children : List Child) (machine : Recorded σ) :
    (pollAll kernel.recorded children machine).2.deeds = machine.deeds := by
  induction children generalizing machine with
  | nil => rfl
  | cons child rest ih =>
      rw [pollAll_of_poll (Kernel.recorded_poll kernel child machine), ih]
      simp

variable {kernel : Kernel σ} {launcher kept : Launcher} {machine next : Recorded σ}

/-- Reaping is not seen in the books. -/
theorem reap_deeds (reaped : launcher.reap kernel.recorded machine = (kept, next)) :
    next.deeds = machine.deeds := by
  have polled := pollAll_deeds kernel launcher.released machine
  simp only [reap, Prod.mk.injEq] at reaped
  rw [← reaped.2, polled]

theorem reap_tracked (reaped : launcher.reap kernel.recorded machine = (kept, next)) :
    kept.tracked = launcher.tracked := by
  simp only [reap, Prod.mk.injEq] at reaped
  rw [← reaped.1]

/-- A start either succeeds, and the process is tracked, or fails, and it is answered by
the number for no process or by the fault. -/
theorem spawn_books (kernel : Kernel σ) (launcher : Launcher) (command : List String)
    (machine : Recorded σ) :
    let spawned := launcher.spawn kernel.recorded command machine
    (∃ child, spawned.result = .ok child.pid ∧
        spawned.machine.deeds = machine.deeds ++ [.started command child] ∧
        spawned.launcher.tracked = Ordered.put child.pid child launcher.tracked) ∨
      (∃ fault, (spawned.result = .ok noProcess ∨ spawned.result = .error fault) ∧
        spawned.machine.deeds = machine.deeds ++ [.notStarted command fault] ∧
        spawned.launcher.tracked = launcher.tracked) := by
  rcases reaped : launcher.reap kernel.recorded machine with ⟨kept, next⟩
  rcases started : kernel.spawn command next.machine with ⟨outcome, last⟩
  have startedToo : kernel.recorded.spawn command next =
      (outcome, next.after last (.ofStart command outcome)) := by
    rw [Kernel.recorded_spawn, started]
  cases outcome with
  | ok child =>
      left
      rw [spawn_of_started reaped startedToo]
      refine ⟨child, rfl, ?_, ?_⟩
      · rw [← reap_deeds reaped]
        exact next.after_deeds_of_deed last _ rfl
      · rw [← reap_tracked reaped]
  | error fault =>
      right
      obtain ⟨result, journal, failed, answer⟩ := spawn_of_failed reaped startedToo
      rw [failed]
      refine ⟨fault, answer, ?_, reap_tracked reaped⟩
      rw [← reap_deeds reaped]
      exact next.after_deeds_of_deed last _ rfl

/-- Letting go of a process is no deed.  It is tracked no more. -/
theorem release_books {pid : Int} (present : pid ≠ noProcess) (kernel : Kernel σ)
    (launcher : Launcher) (machine : Recorded σ) :
    (launcher.release kernel.recorded pid machine).2.2.deeds = machine.deeds ∧
      (launcher.release kernel.recorded pid machine).2.1.tracked =
        Ordered.erase pid launcher.tracked := by
  rcases reaped : launcher.reap kernel.recorded machine with ⟨kept, next⟩
  cases tracked : Ordered.get? pid kept.tracked with
  | none =>
      rw [release_of_untracked present reaped tracked]
      refine ⟨reap_deeds reaped, ?_⟩
      rw [← reap_tracked reaped, Ordered.erase_of_absent (Ordered.get?_eq_none_iff.mp tracked)]
  | some child =>
      rw [release_of_poll present reaped tracked (Kernel.recorded_poll kernel child next)]
      constructor
      · rw [Recorded.after_deeds_of_poll, reap_deeds reaped]
      · rw [← reap_tracked reaped]

/-- Asking whether a process lives is not seen in the books. -/
theorem isRunning_books (kernel : Kernel σ) (launcher : Launcher) (pid : Int)
    (machine : Recorded σ) :
    (launcher.isRunning kernel.recorded pid machine).2.2.deeds = machine.deeds ∧
      (launcher.isRunning kernel.recorded pid machine).2.1.tracked = launcher.tracked := by
  rcases reaped : launcher.reap kernel.recorded machine with ⟨kept, next⟩
  by_cases absent : pid = noProcess
  · rw [absent, isRunning_noProcess reaped]
    exact ⟨reap_deeds reaped, reap_tracked reaped⟩
  · cases tracked : Ordered.get? pid kept.tracked with
    | none =>
        rw [isRunning_of_untracked absent reaped tracked]
        exact ⟨reap_deeds reaped, reap_tracked reaped⟩
    | some child =>
        rw [isRunning_of_poll absent reaped tracked (Kernel.recorded_poll kernel child next)]
        refine ⟨?_, reap_tracked reaped⟩
        rw [Recorded.after_deeds_of_poll, reap_deeds reaped]

end Launcher

/-! ### Passes are rounds of turns -/

namespace Crew

variable (crew : Crew σ)

theorem letGo_books (pid : Int) (desk : Desk (Recorded σ)) :
    (crew.recorded.letGo pid desk).books = desk.books.letGo pid := by
  by_cases absent : pid = noProcess
  · rw [absent, letGo_noProcess, Books.letGo, if_pos rfl]
  · have kept := Launcher.release_books absent crew.kernel desk.launcher desk.machine
    rcases released : desk.launcher.release crew.recorded.kernel pid desk.machine with
      ⟨tracked, launcher, next⟩
    rw [← recorded_kernel, released] at kept
    rw [letGo_of_release absent released, Books.letGo, if_neg absent]
    exact Desk.books_eq kept.1 kept.2

/-- An entry with a new channel has its process started.  If that ends in a fault, the
entry has its channel; else it has a process, or none if it did not start. -/
theorem launch_books (entry : Entry) (channel : Channel) (desk : Desk (Recorded σ)) :
    let command := entry.command channel.path
    ∃ later, (∃ child, crew.recorded.launch entry channel desk =
          (.ok (entry.spawned child.pid), later) ∧
          later.books = (desk.books.enter [.started command child]).track child) ∨
      (∃ fault, (crew.recorded.launch entry channel desk =
            (.ok (entry.spawned noProcess), later) ∨
          crew.recorded.launch entry channel desk = (.error fault, later)) ∧
        later.books = desk.books.enter [.notStarted command fault]) := by
  intro command
  have started := Launcher.spawn_books crew.kernel desk.launcher command desk.machine
  rcases spawned : desk.launcher.spawn crew.recorded.kernel command desk.machine with
    ⟨result, launcher, notes, machine⟩
  rw [← recorded_kernel, spawned] at started
  rcases started with ⟨child, answer, deeds, tracked⟩ | ⟨fault, answer, deeds, tracked⟩
  · cases answer
    rw [launch_of_spawned spawned]
    refine ⟨_, Or.inl ⟨child, rfl, ?_⟩⟩
    split <;> exact Desk.books_eq deeds tracked
  · rcases answer with answer | answer
    · cases answer
      rw [launch_of_spawned spawned]
      refine ⟨_, Or.inr ⟨fault, Or.inl rfl, ?_⟩⟩
      split <;> exact Desk.books_eq deeds tracked
    · cases answer
      rw [launch_of_raised spawned]
      exact ⟨_, Or.inr ⟨fault, Or.inr rfl, Desk.books_eq deeds tracked⟩⟩

/-- The channel of an entry is made and its process is started, in one turn. -/
theorem startEach_round (entries : List Entry) (desk : Desk (Recorded σ)) :
    Round entries desk.books (crew.recorded.startEach entries desk).entries
      (crew.recorded.startEach entries desk).desk.books := by
  induction entries generalizing desk with
  | nil => exact .done [] desk.books
  | cons entry rest ih =>
      cases waiting : entry.waiting with
      | false =>
          rw [startEach_of_idle waiting]
          exact (ih desk).behind entry
      | true =>
          rcases made : crew.maker.create desk.machine.machine with ⟨outcome, next⟩
          have madeToo : crew.recorded.maker.create desk.machine =
              (outcome, desk.machine.after next (.ofCreation outcome)) := by
            rw [recorded_maker, ChannelMaker.recorded_create, made]
          cases outcome with
          | error fault =>
              have books : Turn entry desk.books entry
                  { desk with machine := desk.machine.after next (.notMade fault) }.books := by
                have deeds := desk.machine.after_deeds_of_deed next (.notMade fault) rfl
                simp only [Desk.books, deeds]
                exact .refused waiting fault
              rcases fault.foreign_or_own with foreign | ⟨error, rfl⟩
              · rw [startEach_of_failed waiting foreign madeToo]
                exact .single books rest
              · rw [startEach_of_refused waiting madeToo]
                exact .single books rest
          | ok channel =>
              let opened : Desk (Recorded σ) :=
                { desk with machine := desk.machine.after next (.made channel) }
              have books : opened.books = desk.books.enter [.made channel] :=
                Desk.books_eq (desk.machine.after_deeds_of_deed next _ rfl) rfl
              obtain ⟨later, launched⟩ :=
                launch_books crew (entry.opened channel) channel opened
              simp only [books, Books.enter_enter] at launched
              rcases launched with ⟨child, launched, booked⟩ | ⟨fault, launched, booked⟩
              · rw [startEach_of_launched waiting madeToo launched]
                apply Round.front (.manned waiting channel child)
                have round := ih later
                rw [booked] at round
                exact round
              · rcases launched with launched | stranded
                · rw [startEach_of_launched waiting madeToo launched]
                  apply Round.front (.unmanned waiting channel fault)
                  have round := ih later
                  rw [booked] at round
                  exact round
                · rw [startEach_of_stranded waiting madeToo stranded]
                  have turn : Turn entry desk.books (entry.opened channel) later.books := by
                    rw [booked]
                    exact .stranded waiting channel fault
                  exact .single turn rest

/-- All entries whose process has started count as running. -/
theorem promote_round (entries : List Entry) (books : Books) :
    Round entries books (entries.map Entry.promoted) books := by
  induction entries with
  | nil => exact .done [] books
  | cons entry rest ih => exact .front .promoted ih

/-- A start is a round of turns, however it ends. -/
theorem start_round (session : Session) (desk : Desk (Recorded σ)) :
    Round session.entries desk.books (crew.recorded.start session desk).2.1.entries
      (crew.recorded.start session desk).2.2.books := by
  have round := startEach_round crew session.entries desk
  by_cases completed : (crew.recorded.startEach session.entries desk).result = .ok true
  · rw [start_of_completed completed]
    exact round.trans (promote_round _ _)
  · rw [start_of_ended completed]
    exact round

/-- The channel of an entry is removed and its process let go of, in one turn. -/
theorem closeEach_round (entries : List Entry) (desk : Desk (Recorded σ)) :
    Round entries desk.books (crew.recorded.closeEach entries desk).entries
      (crew.recorded.closeEach entries desk).desk.books := by
  induction entries generalizing desk with
  | nil => exact .done [] desk.books
  | cons entry rest ih =>
      cases backed : entry.isBacked with
      | false =>
          rw [closeEach_of_native backed]
          exact (ih desk).behind entry
      | true =>
          cases has : entry.hasChannel with
          | false =>
              rw [closeEach_of_unlinked backed (unlink_of_bare has)]
              apply Round.front (.bare backed has)
              rw [← letGo_books]
              exact ih _
          | true =>
              rcases removed :
                crew.maker.release entry.channel entry.handle desk.machine.machine with
                ⟨outcome, next⟩
              let asked : Recorded σ :=
                desk.machine.after next (.ofRemoval entry.channel entry.handle outcome)
              have removedToo : crew.recorded.maker.release entry.channel entry.handle
                  desk.machine = (outcome, asked) := by
                rw [recorded_maker, ChannelMaker.recorded_release, removed]
              have books : { desk with machine := asked }.books =
                  desk.books.enter [.ofRemoval entry.channel entry.handle outcome] := by
                refine Desk.books_eq (desk.machine.after_deeds_of_deed next _ ?_) rfl
                cases outcome <;> rfl
              cases outcome with
              | ok _ =>
                  rw [closeEach_of_unlinked backed (unlink_of_removed has removedToo)]
                  apply Round.front (.cleared backed has)
                  rw [Call.ofRemoval] at books
                  rw [← books, ← letGo_books]
                  exact ih _
              | error fault =>
                  rw [Call.ofRemoval] at books
                  rcases fault.foreign_or_own with foreign | ⟨error, rfl⟩
                  · rw [closeEach_of_stuck backed (unlink_of_failed has foreign removedToo)]
                    have turn : Turn entry desk.books entry
                        { desk with machine := asked }.books := by
                      rw [books]
                      exact .stuck backed has fault
                    exact .single turn rest
                  · rw [closeEach_of_unlinked backed (unlink_of_refused has removedToo)]
                    apply Round.front (.retained backed has (.host error))
                    rw [← books, ← Desk.note_books _ .warning (entry.remark error.text),
                      ← letGo_books]
                    exact ih _

/-- A cleanup is a round of turns, however it ends. -/
theorem cleanup_round (session : Session) (desk : Desk (Recorded σ)) :
    Round session.entries desk.books (crew.recorded.cleanup session desk).2.1.entries
      (crew.recorded.cleanup session desk).2.2.books :=
  closeEach_round crew session.entries desk

/-- Asking which entries are running is not seen in the books. -/
theorem runningEach_books (entries : List Entry) (desk : Desk (Recorded σ)) :
    (crew.recorded.runningEach entries desk).2.books = desk.books := by
  induction entries generalizing desk with
  | nil => rfl
  | cons entry rest ih =>
      cases watched : entry.isBacked && entry.hasProcess with
      | false => rw [runningEach_of_idle watched, ih]
      | true =>
          have kept :=
            Launcher.isRunning_books crew.kernel desk.launcher entry.pid desk.machine
          rcases asked : desk.launcher.isRunning crew.recorded.kernel entry.pid desk.machine with
            ⟨lives, launcher, next⟩
          rw [← recorded_kernel, asked] at kept
          rw [runningEach_of_asked watched asked, ih]
          exact Desk.books_eq kept.1 kept.2

end Crew

end ExtcapHost
