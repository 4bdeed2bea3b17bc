/-
Module: ExtcapHost.Proofs.Session.Forgetting
Purpose: Which channels a cleanup forgets, and whether they are gone.
Main exports:
  Crew.Honest, Entry.ForgetsOnly, Crew.Honest.cleanup, Crew.closeEach_pipes,
  Crew.removals_and_what_is_forgotten, Crew.refused_closing_is_forgotten
-/
import ExtcapHost.Machine.Platform
import ExtcapHost.Proofs.Channel.Removal
import ExtcapHost.Proofs.Session.Closing
import Mathlib.Data.List.Forall2

/-!
A cleanup forgets the channel of an entry when the maker of channels says that it was
removed.  So it forgets only channels that are gone if the maker can be relied on.  That is
so for FIFOs.  For named pipes it is not: every removal is said to have succeeded, so that
every handle is forgotten, also one that could not be closed.
-/

namespace ExtcapHost

variable {σ : Type}

/-! ### Makers that can be relied on -/

/-- What is said to be removed is gone, what is not removed is refused with a failure of
channels, and nothing that is gone comes back by a removal or a poll. -/
structure Crew.Honest (crew : Crew σ) (gone : Option String → Option String → σ → Prop) :
    Prop where
  removed : ∀ {path handle machine next},
    crew.maker.release path handle machine = (.ok (), next) → gone path handle next
  refused : ∀ {path handle machine fault next},
    crew.maker.release path handle machine = (.error fault, next) →
      ∃ message details, fault = .host (.channel message details)
  stays : ∀ {path handle} (other : Option String × Option String) {machine},
    gone path handle machine → gone path handle (crew.maker.release other.1 other.2 machine).2
  polls : ∀ path handle, crew.kernel.PollsKeep (gone path handle)

/-- The entry has its channel still, or it has forgotten it, and then it is gone. -/
def Entry.ForgetsOnly (gone : Option String → Option String → Prop) (before after : Entry) :
    Prop :=
  (after.channel = before.channel ∧ after.handle = before.handle) ∨
    (after.channel = none ∧ after.handle = none ∧ gone before.channel before.handle)

theorem Entry.ForgetsOnly.imp {first second : Option String → Option String → Prop}
    {before after : Entry} (forgets : before.ForgetsOnly first after)
    (weaker : ∀ path handle, first path handle → second path handle) :
    before.ForgetsOnly second after :=
  Or.imp_right (fun cleared => ⟨cleared.1, cleared.2.1, weaker _ _ cleared.2.2⟩) forgets

/-- Letting go of a process does no more to the machine than polling. -/
theorem Crew.letGo_keeps (crew : Crew σ) {kept : σ → Prop} (polls : crew.kernel.PollsKeep kept)
    (pid : Int) {desk : Desk σ} (start : kept desk.machine) :
    kept (crew.letGo pid desk).machine := by
  unfold Crew.letGo
  split
  · exact start
  · exact polls.release desk.launcher pid start

namespace Crew.Honest

variable {crew : Crew σ} {gone : Option String → Option String → σ → Prop}
  (honest : crew.Honest gone)

include honest

/-- The channel of one entry is gone if it is forgotten. -/
theorem unlink (entry : Entry) (desk : Desk σ) :
    ∃ unlinked later, crew.unlink entry desk = (.ok unlinked, later) ∧
      entry.ForgetsOnly (gone · · later.machine) unlinked ∧
      ∀ path handle, gone path handle desk.machine → gone path handle later.machine := by
  cases has : entry.hasChannel with
  | false => exact ⟨entry, desk, unlink_of_bare has, .inl ⟨rfl, rfl⟩, fun _ _ => id⟩
  | true =>
      have stays : ∀ path handle, gone path handle desk.machine →
          gone path handle (crew.maker.release entry.channel entry.handle desk.machine).2 :=
        fun _ _ => honest.stays (entry.channel, entry.handle)
      rcases answer : crew.maker.release entry.channel entry.handle desk.machine with
        ⟨outcome, next⟩
      rw [answer] at stays
      cases outcome with
      | ok _ =>
          refine ⟨_, _, unlink_of_removed has answer, .inr ⟨rfl, rfl, ?_⟩, stays⟩
          exact honest.removed answer
      | error fault =>
          obtain ⟨message, details, rfl⟩ := honest.refused answer
          exact ⟨_, _, unlink_of_refused has answer, .inl ⟨rfl, rfl⟩, stays⟩

theorem closeEach (entries : List Entry) (desk : Desk σ) :
    ∃ closed later, crew.closeEach entries desk = ⟨.ok (), closed, later⟩ ∧
      List.Forall₂ (Entry.ForgetsOnly (gone · · later.machine)) entries closed ∧
      ∀ path handle, gone path handle desk.machine → gone path handle later.machine := by
  induction entries generalizing desk with
  | nil => exact ⟨[], desk, rfl, .nil, fun _ _ => id⟩
  | cons entry rest ih =>
      cases backed : entry.isBacked with
      | false =>
          obtain ⟨closed, later, passed, forgets, stays⟩ := ih desk
          refine ⟨entry :: closed, later, ?_, .cons (.inl ⟨rfl, rfl⟩) forgets, stays⟩
          rw [closeEach_of_native backed, passed]
          rfl
      | true =>
          obtain ⟨unlinked, between, done, head, staysFirst⟩ := honest.unlink entry desk
          have staysNext : ∀ path handle, gone path handle between.machine →
              gone path handle (crew.letGo entry.pid between).machine :=
            fun path handle => crew.letGo_keeps (honest.polls path handle) entry.pid
          obtain ⟨closed, later, passed, forgets, staysLast⟩ :=
            ih (crew.letGo entry.pid between)
          refine ⟨unlinked.closed :: closed, later, ?_, .cons ?_ forgets, ?_⟩
          · rw [closeEach_of_unlinked backed done, passed]
            rfl
          · have still : entry.ForgetsOnly (gone · · between.machine) unlinked.closed := head
            exact still.imp fun path handle isGone =>
              staysLast path handle (staysNext path handle isGone)
          · intro path handle isGone
            exact staysLast path handle (staysNext path handle (staysFirst path handle isGone))

/-- A cleanup returns, and each entry forgets its channel only if that is gone. -/
theorem cleanup (session : Session) (desk : Desk σ) :
    ∃ closed later, crew.cleanup session desk = (.ok (), ⟨closed⟩, later) ∧
      List.Forall₂ (Entry.ForgetsOnly (gone · · later.machine)) session.entries closed := by
  obtain ⟨closed, later, passed, forgets, -⟩ := honest.closeEach session.entries desk
  refine ⟨closed, later, ?_, forgets⟩
  rw [Crew.cleanup, passed]

end Crew.Honest

/-- Makers of FIFOs can be relied on. -/
theorem RemovalLaws.honest {files : FileCalls σ} {kernel : Kernel σ}
    (laws : RemovalLaws files kernel) (names : NameSource σ) (settings : FifoSettings) :
    Crew.Honest ⟨fifoMaker files names settings, kernel⟩ (fun path _ => files.Gone path) where
  removed := by
    intro path handle machine next answer
    obtain ⟨_, ⟨done, gone⟩ | ⟨name, error, -, refused⟩⟩ := removeFifo_outcome laws path machine
    · have same := answer.symm.trans done
      cases same
      exact gone
    · have same := answer.symm.trans refused
      cases same
  refused := by
    intro path handle machine fault next answer
    obtain ⟨_, ⟨done, -⟩ | ⟨name, error, -, refused⟩⟩ := removeFifo_outcome laws path machine
    · have same := answer.symm.trans done
      cases same
    · have same := answer.symm.trans refused
      cases same
      exact ⟨_, _, rfl⟩
  stays other _ gone := removeFifo_stays laws other.1 gone
  polls _ _ child machine gone := fun name same => laws.polled child machine (gone name same)

/-! ### Named pipes -/

/-- The handles that stand with entries that a helper backs, in order. -/
def heldHandles (entries : List Entry) : List String :=
  (entries.filter Entry.isBacked).filterMap fun entry => entry.handle

theorem heldHandles_cons_of_native {entry : Entry} (native : entry.isBacked = false)
    (rest : List Entry) : heldHandles (entry :: rest) = heldHandles rest := by
  simp [heldHandles, native]

theorem heldHandles_cons_of_backed {entry : Entry} (backed : entry.isBacked = true)
    (rest : List Entry) :
    heldHandles (entry :: rest) = entry.handle.toList ++ heldHandles rest := by
  cases handle : entry.handle <;> simp [heldHandles, backed, handle]

namespace Crew

section

variable {pipes : PipeCalls σ} {kernel : Kernel σ} {closings : σ → List Closing}
  (laws : PipeLaws pipes kernel closings) (names : NameSource σ) (settings : PipeSettings)

include laws

/-- The channel of an entry is forgotten, whatever closing its handle came to. -/
theorem unlink_pipe {entry : Entry} (backed : entry.isBacked = true) (desk : Desk σ) :
    ∃ unlinked later refusal,
      Crew.unlink ⟨pipeMaker pipes names settings, kernel⟩ entry desk = (.ok unlinked, later) ∧
      unlinked.closed = entry.closedWith none ∧
      closings later.machine =
        closings desk.machine ++ entry.handle.toList.map (Closing.mk · refusal) := by
  cases has : entry.hasChannel with
  | false =>
      have bare : entry.handle = none := by
        simp only [Entry.hasChannel, Bool.or_eq_false_iff, Option.isSome_eq_false_iff,
          Option.isNone_iff_eq_none] at has
        exact has.2
      refine ⟨entry, desk, none, unlink_of_bare has, ?_, ?_⟩
      · exact (Entry.closedWith_of_bare backed has).symm
      · rw [bare]
        exact (List.append_nil _).symm
  | true =>
      obtain ⟨next, refusal, answer, noted⟩ :=
        closePipe_outcome laws entry.handle desk.machine
      refine ⟨_, _, refusal, unlink_of_removed has answer, ?_, noted⟩
      exact (Entry.closedWith_of_removed backed).symm

/-- Every handle is handed over to be closed, once and in order, and every entry forgets
its channel. -/
theorem closeEach_pipes (entries : List Entry) (desk : Desk σ) :
    ∃ later, ∃ refusals : List (Option Fault),
      Crew.closeEach ⟨pipeMaker pipes names settings, kernel⟩ entries desk =
        ⟨.ok (), entries.map (Entry.closedWith · none), later⟩ ∧
      refusals.length = (heldHandles entries).length ∧
      closings later.machine =
        closings desk.machine ++ List.zipWith Closing.mk (heldHandles entries) refusals := by
  induction entries generalizing desk with
  | nil => exact ⟨desk, [], rfl, rfl, (List.append_nil _).symm⟩
  | cons entry rest ih =>
      cases backed : entry.isBacked with
      | false =>
          obtain ⟨later, refusals, passed, length, noted⟩ := ih desk
          refine ⟨later, refusals, ?_, ?_, ?_⟩
          · rw [closeEach_of_native backed, passed, List.map_cons,
              Entry.closedWith_of_native backed]
            rfl
          · rw [heldHandles_cons_of_native backed, length]
          · rw [heldHandles_cons_of_native backed, noted]
      | true =>
          obtain ⟨unlinked, between, refusal, done, closed, first⟩ :=
            unlink_pipe laws names settings backed desk
          let crew : Crew σ := ⟨pipeMaker pipes names settings, kernel⟩
          have polls : kernel.PollsKeep (closings · = closings between.machine) :=
            fun child machine same => (laws.polled child machine).trans same
          have kept : closings (crew.letGo entry.pid between).machine =
              closings between.machine :=
            crew.letGo_keeps polls entry.pid rfl
          obtain ⟨later, refusals, passed, length, noted⟩ := ih (crew.letGo entry.pid between)
          refine ⟨later, entry.handle.toList.map (fun _ => refusal) ++ refusals, ?_, ?_, ?_⟩
          · rw [closeEach_of_unlinked backed done, passed, List.map_cons, ← closed]
            rfl
          · rw [heldHandles_cons_of_backed backed, List.length_append, List.length_append,
              List.length_map, length]
          · rw [heldHandles_cons_of_backed backed, noted, kept, first, List.append_assoc]
            cases entry.handle <;> rfl

end

/-- Removing a FIFO succeeds only if its file is gone, and is refused with a failure of
channels otherwise; so a cleanup forgets only FIFOs that are gone.  Removing a named pipe
always succeeds: its handle was handed over to be closed, once, but what came of that has
no bearing.  A cleanup hands over the handles of all entries that a helper backs, and
forgets every one of them. -/
theorem removals_and_what_is_forgotten {files : FileCalls σ} {pipes : PipeCalls σ}
    {kernel : Kernel σ} {closings : σ → List Closing} (fileLaws : RemovalLaws files kernel)
    (pipeLaws : PipeLaws pipes kernel closings) (names : NameSource σ) (fifo : FifoSettings)
    (pipe : PipeSettings) :
    let fifos : Crew σ := ⟨fifoMaker files names fifo, kernel⟩
    let namedPipes : Crew σ := ⟨pipeMaker pipes names pipe, kernel⟩
    (∀ path handle machine, ∃ next,
      (fifos.maker.release path handle machine = (.ok (), next) ∧ files.Gone path next) ∨
        ∃ message details, fifos.maker.release path handle machine =
          (.error (.host (.channel message details)), next)) ∧
    (∀ session desk, ∃ closed later, fifos.cleanup session desk = (.ok (), ⟨closed⟩, later) ∧
      List.Forall₂ (Entry.ForgetsOnly fun path _ => files.Gone path later.machine)
        session.entries closed) ∧
    (∀ path handle machine, ∃ next refusal,
      namedPipes.maker.release path (some handle) machine = (.ok (), next) ∧
        closings next = closings machine ++ [⟨handle, refusal⟩]) ∧
    (∀ session desk, ∃ later, ∃ refusals : List (Option Fault),
      namedPipes.cleanup session desk =
        (.ok (), ⟨session.entries.map (Entry.closedWith · none)⟩, later) ∧
      refusals.length = (heldHandles session.entries).length ∧
      closings later.machine = closings desk.machine ++
        List.zipWith Closing.mk (heldHandles session.entries) refusals) := by
  intro fifos namedPipes
  refine ⟨?_, ?_, ?_, ?_⟩
  · intro path handle machine
    obtain ⟨next, done | ⟨name, error, -, refused⟩⟩ := removeFifo_outcome fileLaws path machine
    · exact ⟨next, .inl done⟩
    · exact ⟨next, .inr ⟨_, _, refused⟩⟩
  · exact (fileLaws.honest names fifo).cleanup
  · intro path handle machine
    exact closePipe_outcome pipeLaws (some handle) machine
  · intro session desk
    obtain ⟨later, refusals, passed, length, noted⟩ :=
      closeEach_pipes pipeLaws names pipe session.entries desk
    refine ⟨later, refusals, ?_, length, noted⟩
    rw [Crew.cleanup, passed]

end Crew

/-- A machine with files and handles, of which some can be neither removed nor closed. -/
structure Depot where
  files : List String
  stuck : List String
  closings : List Closing

namespace Depot

/-- The files of the machine. -/
def fileCalls : FileCalls Depot where
  reserve _ _ depot := (.ok "/tmp/fifo", depot)
  close _ depot := (.ok (), depot)
  present depot path := path ≠ "" && depot.files.contains path
  remove path depot :=
    if depot.stuck.contains path then (.error (.system (.permissionDenied path)), depot)
    else if depot.files.contains path then
      (.ok (), { depot with files := depot.files.filter fun file => file ≠ path })
    else (.error (.system (.noEntry path)), depot)
  makeFifo _ path depot := (.ok (), { depot with files := path :: depot.files })

/-- The handles of the machine.  Nobody has ever read from a pipe. -/
def pipeCalls : PipeCalls Depot where
  create _ depot := (.ok "H1", depot)
  flush _ depot := (.error (.pipe "No process is on the other end of the pipe."), depot)
  disconnect _ depot := (.error (.pipe "No process is on the other end of the pipe."), depot)
  close handle depot :=
    let outcome : Except Fault Unit :=
      if depot.stuck.contains handle then .error (.pipe "The handle is invalid.") else .ok ()
    (outcome, { depot with closings := depot.closings ++ [.of handle outcome] })

/-- Processes never end. -/
def kernel : Kernel Depot where
  spawn _ depot := (.ok ⟨1001, 0⟩, depot)
  poll _ depot := (none, depot)
  status _ _ := .alive

theorem removalLaws : RemovalLaws fileCalls kernel where
  removed := by
    intro path depot next done
    simp only [fileCalls] at done
    split at done
    · cases done
    · split at done
      · cases done
        simp [fileCalls]
      · cases done
  missing := by
    intro path depot error next done missing
    simp only [fileCalls] at done
    split at done
    · cases done
      cases missing
    · split at done
      · cases done
      · rename_i absent
        cases done
        simpa [fileCalls] using fun _ => by simpa using absent
  polled _ _ absent := absent
  unnamed _ := rfl
  others := by
    intro path other depot absent
    simp only [fileCalls] at absent ⊢
    split
    · exact absent
    · split
      · simp only [ne_eq, List.contains_eq_mem, decide_not, Bool.and_eq_false_imp,
          Bool.not_eq_eq_eq_not, Bool.not_true, decide_eq_false_iff_not, List.mem_filter,
          not_and] at absent ⊢
        exact fun named member => absurd member (absent named)
      · exact absent
  refusals := by
    intro path depot fault next refused
    simp only [fileCalls] at refused
    split at refused
    · cases refused
      exact ⟨_, rfl⟩
    · split at refused
      · cases refused
      · cases refused
        exact ⟨_, rfl⟩

theorem pipeLaws : PipeLaws pipeCalls kernel Depot.closings where
  flushed _ _ := rfl
  disconnected _ _ := rfl
  closed _ _ := rfl
  polled _ _ := rfl
  flushRefuses := by
    intro handle depot fault next refused
    cases refused
    exact ⟨_, rfl⟩
  disconnectRefuses := by
    intro handle depot fault next refused
    cases refused
    exact ⟨_, rfl⟩
  closeRefuses := by
    intro handle depot fault next refused
    simp only [pipeCalls] at refused
    split at refused
    · cases refused
      exact ⟨_, rfl⟩
    · cases refused

end Depot

namespace Crew

/-- An entry of a session that was started on the machine. -/
def startedOn (name path : String) (handle : Option String) : Entry where
  name := name
  source := .helper
  helper := some "/extcap/radio"
  channel := some path
  handle := handle
  pid := 1001
  arguments := []
  stage := .running
  helperNamed := by decide

/-- Of two FIFOs the first one cannot be removed, and its entry keeps it.  Of two handles
the first one cannot be closed, and its entry forgets it all the same. -/
theorem stuck_fifo_kept_stuck_handle_forgotten :
    let depot : Depot := ⟨["/tmp/one", "/tmp/two"], ["/tmp/one", "H1"], []⟩
    let desk : Desk Depot := ⟨.empty, [], depot⟩
    let settings := Settings.initial "/home" "/tmp"
    let names : NameSource Depot := ⟨fun _ => "0", fun depot => ("1", depot)⟩
    let fifos : Crew Depot := ⟨fifoMaker Depot.fileCalls names settings.fifo, Depot.kernel⟩
    let pipes : Crew Depot := ⟨pipeMaker Depot.pipeCalls names settings.pipe, Depot.kernel⟩
    RemovalLaws Depot.fileCalls Depot.kernel ∧
      PipeLaws Depot.pipeCalls Depot.kernel Depot.closings ∧
      (∃ closed later,
        fifos.cleanup ⟨[startedOn "lo0" "/tmp/one" none, startedOn "lo1" "/tmp/two" none]⟩ desk =
          (.ok (), ⟨closed⟩, later) ∧
        closed.map (fun entry => entry.channel) = [some "/tmp/one", none] ∧
        Depot.fileCalls.Gone (some "/tmp/two") later.machine) ∧
      ∃ closed later,
        pipes.cleanup ⟨[startedOn "lo0" "p" (some "H1"), startedOn "lo1" "q" (some "H2")]⟩ desk =
          (.ok (), ⟨closed⟩, later) ∧
        closed.map (fun entry => entry.handle) = [none, none] ∧
        later.machine.closings =
          [⟨"H1", some (.pipe "The handle is invalid.")⟩, ⟨"H2", none⟩] := by
  intro depot desk settings names fifos pipes
  obtain ⟨-, files, -, handles⟩ := removals_and_what_is_forgotten Depot.removalLaws
    Depot.pipeLaws names settings.fifo settings.pipe
  obtain ⟨closed, later, answer, forgets⟩ :=
    files ⟨[startedOn "lo0" "/tmp/one" none, startedOn "lo1" "/tmp/two" none]⟩ desk
  obtain ⟨laterToo, refusals, answerToo, length, noted⟩ :=
    handles ⟨[startedOn "lo0" "p" (some "H1"), startedOn "lo1" "q" (some "H2")]⟩ desk
  have channels : closed.map (fun entry => entry.channel) = [some "/tmp/one", none] := by
    have same := congrArg (fun answer => answer.2.1.entries.map fun entry => entry.channel) answer
    exact same.symm
  refine ⟨Depot.removalLaws, Depot.pipeLaws, ⟨closed, later, answer, channels, ?_⟩,
    ⟨_, laterToo, answerToo, rfl, ?_⟩⟩
  · cases forgets with
    | cons _ others =>
        cases others with
        | cons second none =>
            cases none
            rcases second with ⟨kept, -⟩ | ⟨-, -, gone⟩
            · rw [List.map_cons, List.map_cons, kept] at channels
              exact absurd (List.cons.inj (List.cons.inj channels).2).1 nofun
            · exact gone
  · exact (congrArg (fun answer => answer.2.2.machine.closings) answerToo).symm

/-- A machine that refuses to close the first handle that is to be closed. -/
def closingRefused : Machine :=
  { Machine.initial "/" with
    failures := [(.closePipe, [some (.pipe "The handle is invalid.")])] }

/-- The pipe was made, and closing it was refused.  Still the removal succeeds, and when a
session with that pipe is cleaned up, nothing of it is left in the entry. -/
theorem refused_closing_is_forgotten :
    let crew : Crew Machine :=
      ⟨pipeMaker Machine.pipeCalls Machine.names (Settings.initial "/home" "/tmp").pipe,
        Machine.kernel⟩
    let path := "\\\\.\\pipe\\netextcap_extcap_20240102030405_00000001"
    let made := crew.maker.create closingRefused
    let flushed := (Machine.pipeCalls.flush "H1" made.2).2
    let disconnected := (Machine.pipeCalls.disconnect "H1" flushed).2
    let closed := Machine.pipeCalls.close "H1" disconnected
    let ended := crew.cleanup ⟨[startedOn "lo0" path (some "H1")]⟩ ⟨.empty, [], made.2⟩
    made.1 = .ok ⟨path, some "H1"⟩ ∧ closed.1 = .error (.pipe "The handle is invalid.") ∧
      crew.maker.release (some path) (some "H1") made.2 = (.ok (), closed.2) ∧
      ended.1 = .ok () ∧
      ended.2.1.entries.map (fun entry => (entry.channel, entry.handle)) = [(none, none)] := by
  intro crew path made flushed disconnected closed ended
  have madePipe : made.1 = .ok ⟨path, some "H1"⟩ := by decide +kernel
  exact ⟨madePipe, rfl, rfl, rfl, rfl⟩

end Crew

end ExtcapHost
