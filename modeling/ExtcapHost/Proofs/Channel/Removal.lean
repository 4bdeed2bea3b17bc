/-
Module: ExtcapHost.Proofs.Channel.Removal
Purpose: What is left of a channel once it was handed over to be removed.
Main exports:
  Kernel.PollsKeep, FileLaws, RemovalLaws, PipeLaws, removeFifo_refused, removeFifo_outcome,
  closePipe_outcome, ChannelCalls.RefusalLaws, platformMaker_refusesOwn
-/
import ExtcapHost.Channel.Platform
import ExtcapHost.Proofs.Session.Outcome

/-!
The two kinds of channels are removed in opposite ways.  A FIFO is removed by one call, and
what that call comes to is told.  A named pipe takes three calls, and of none of them it is
told that it was refused; whether the handle is closed is known from a list of closings
only.
-/

namespace ExtcapHost

variable {σ : Type}

/-! ### What polls keep -/

/-- Asking whether a process has ended does not break a statement on the machine. -/
def Kernel.PollsKeep (kernel : Kernel σ) (kept : σ → Prop) : Prop :=
  ∀ child machine, kept machine → kept (kernel.poll child machine).2

namespace Kernel.PollsKeep

variable {kernel : Kernel σ} {kept : σ → Prop} (keeps : kernel.PollsKeep kept)

include keeps

theorem pollAll (children : List Child) {machine : σ} (start : kept machine) :
    kept (Launcher.pollAll kernel children machine).2 := by
  induction children generalizing machine with
  | nil => exact start
  | cons child rest ih =>
      rcases polled : kernel.poll child machine with ⟨status, next⟩
      rw [Launcher.pollAll_of_poll polled]
      have stays := keeps child machine start
      rw [polled] at stays
      exact ih stays

/-- Letting go of a process does no more than polling. -/
theorem release (launcher : Launcher) (pid : Int) {machine : σ} (start : kept machine) :
    kept (launcher.release kernel pid machine).2.2 := by
  rcases reaped : launcher.reap kernel machine with ⟨reaping, after⟩
  have stays : kept after := by
    have all := keeps.pollAll launcher.released start
    simp only [Launcher.reap, Prod.mk.injEq] at reaped
    rw [← reaped.2]
    exact all
  by_cases absent : pid = noProcess
  · simp only [Launcher.release, reaped, absent, if_true]
    exact stays
  · cases found : Ordered.get? pid reaping.tracked with
    | none =>
        rw [Launcher.release_of_untracked absent reaped found]
        exact stays
    | some child =>
        rcases polled : kernel.poll child after with ⟨status, last⟩
        rw [Launcher.release_of_poll absent reaped found polled]
        have still := keeps child after stays
        rw [polled] at still
        exact still

end Kernel.PollsKeep

/-! ### Files -/

/-- What files do: a file that was removed is absent, and so is one that was absent when
it was to be removed; no file is made by asking whether a process has ended; and no file
has an empty path. -/
structure FileLaws (files : FileCalls σ) (kernel : Kernel σ) : Prop where
  removed : ∀ {path machine next}, files.remove path machine = (.ok (), next) →
    files.present next path = false
  missing : ∀ {path machine error next},
    files.remove path machine = (.error (.system error), next) → error.isNoEntry = true →
      files.present next path = false
  polled : ∀ {path} child machine, files.present machine path = false →
    files.present (kernel.poll child machine).2 path = false
  unnamed : ∀ machine, files.present machine "" = false

/-- No file is made by removing another one, and a file that is not removed is told by a
refusal of the system. -/
structure RemovalLaws (files : FileCalls σ) (kernel : Kernel σ) : Prop
    extends FileLaws files kernel where
  others : ∀ {path} other machine, files.present machine path = false →
    files.present (files.remove other machine).2 path = false
  refusals : ∀ {path machine fault next}, files.remove path machine = (.error fault, next) →
    ∃ error, fault = .system error

section

variable {files : FileCalls σ} {kernel : Kernel σ} {path : String}

/-- Letting go of a process makes no file. -/
theorem FileLaws.release (laws : FileLaws files kernel) {launcher kept : Launcher} {pid : Int}
    {machine next : σ} {tracked : Bool}
    (released : launcher.release kernel pid machine = (tracked, kept, next))
    (absent : files.present machine path = false) : files.present next path = false := by
  have polls : kernel.PollsKeep fun machine => files.present machine path = false :=
    fun child machine => laws.polled child machine
  have stays := polls.release launcher pid absent
  rw [released] at stays
  exact stays

theorem removeFifo_of_named (named : path ≠ "") (machine : σ) :
    removeFifo files (some path) machine =
      match files.remove path machine with
      | (.error (.system error), machine) =>
          if error.isNoEntry then (.ok (), machine)
          else (.error (.host (cannotRemoveFifo path (.system error))), machine)
      | (removed, machine) => (removed, machine) := by
  unfold ExtcapHost.removeFifo
  split
  · contradiction
  · rename_i empty
    cases empty
    exact absurd rfl named
  · rename_i same
    cases same
    rfl

/-- A FIFO that was removed is absent. -/
theorem FileLaws.removeFifo (laws : FileLaws files kernel) {machine next : σ}
    (done : ExtcapHost.removeFifo files (some path) machine = (.ok (), next)) :
    files.present next path = false := by
  by_cases unnamed : path = ""
  · rw [unnamed]
    exact laws.unnamed next
  · rcases removed : files.remove path machine with ⟨result, after⟩
    rw [removeFifo_of_named unnamed, removed] at done
    cases result with
    | ok _ =>
        cases done
        exact laws.removed removed
    | error fault =>
        cases fault with
        | system error =>
            cases missing : error.isNoEntry with
            | true =>
                simp only [missing, if_true, Prod.mk.injEq, true_and] at done
                exact done ▸ laws.missing removed missing
            | false => simp [missing] at done
        | _ => cases done

end

/-- Where files that are not removed are told by refusals of the system, a FIFO that is not
removed is told by a failure of channels that names it. -/
theorem removeFifo_refused {files : FileCalls σ}
    (refusals : ∀ {path machine fault next}, files.remove path machine = (.error fault, next) →
      ∃ error, fault = .system error)
    {path : Option String} {machine next : σ} {fault : Fault}
    (refused : removeFifo files path machine = (.error fault, next)) :
    ∃ name error, path = some name ∧ fault = .host (cannotRemoveFifo name (.system error)) := by
  cases path with
  | none => cases refused
  | some name =>
      have named : name ≠ "" := by
        rintro rfl
        cases refused
      rcases called : files.remove name machine with ⟨outcome, after⟩
      rw [removeFifo_of_named named, called] at refused
      cases outcome with
      | ok _ => cases refused
      | error cause =>
          obtain ⟨error, rfl⟩ := refusals called
          cases missing : error.isNoEntry with
          | true => simp [missing] at refused
          | false =>
              simp only [missing, Bool.false_eq_true, if_false, Prod.mk.injEq,
                Except.error.injEq] at refused
              exact ⟨name, error, rfl, refused.1.symm⟩

/-- The file of a channel is absent. -/
def FileCalls.Gone (files : FileCalls σ) (path : Option String) (machine : σ) : Prop :=
  ∀ name, path = some name → files.present machine name = false

section

variable {files : FileCalls σ} {kernel : Kernel σ} (laws : RemovalLaws files kernel)

include laws

/-- Removing a FIFO ends well, and then its file is absent, or it is refused with a failure
of channels that names it. -/
theorem removeFifo_outcome (path : Option String) (machine : σ) :
    ∃ next, (removeFifo files path machine = (.ok (), next) ∧ files.Gone path next) ∨
      ∃ name error, path = some name ∧ removeFifo files path machine =
        (.error (.host (cannotRemoveFifo name (.system error))), next) := by
  rcases removed : removeFifo files path machine with ⟨result, next⟩
  refine ⟨next, ?_⟩
  cases result with
  | ok _ =>
      left
      refine ⟨rfl, ?_⟩
      rintro name rfl
      exact laws.removeFifo removed
  | error fault =>
      right
      obtain ⟨name, error, rfl, rfl⟩ := removeFifo_refused laws.refusals removed
      exact ⟨name, error, rfl, rfl⟩

/-- What is absent stays absent when another FIFO is removed. -/
theorem removeFifo_stays {path : Option String} (other : Option String) {machine : σ}
    (gone : files.Gone path machine) : files.Gone path (removeFifo files other machine).2 := by
  intro name same
  have absent := gone name same
  cases other with
  | none => exact absent
  | some other =>
      by_cases unnamed : other = ""
      · rw [unnamed]
        exact absent
      · have stays := laws.others other machine absent
        rcases called : files.remove other machine with ⟨outcome, next⟩
        rw [called] at stays
        rw [removeFifo_of_named unnamed, called]
        cases outcome with
        | ok _ => exact stays
        | error fault =>
            obtain ⟨error, rfl⟩ := laws.refusals called
            cases missing : error.isNoEntry <;> simpa [missing] using stays

end

/-! ### Named pipes -/

/-- A handle that was handed over to be closed, and why that was refused, if it was. -/
structure Closing where
  handle : String
  refusal : Option Fault
deriving DecidableEq, Repr

/-- The closing that an outcome tells. -/
def Closing.of (handle : String) : Except Fault Unit → Closing
  | .ok _ => ⟨handle, none⟩
  | .error fault => ⟨handle, some fault⟩

/-- A call on a handle that fails only by a refusal of the pipe. -/
def RefusesOnly (step : String → σ → Except Fault Unit × σ) : Prop :=
  ∀ handle machine fault next, step handle machine = (.error fault, next) →
    ∃ message, fault = .pipe message

/-- The machine keeps a list of closings.  Nothing but closing a handle adds to it, and the
calls on handles fail only by refusals. -/
structure PipeLaws (pipes : PipeCalls σ) (kernel : Kernel σ) (closings : σ → List Closing) :
    Prop where
  flushed : ∀ handle machine, closings (pipes.flush handle machine).2 = closings machine
  disconnected : ∀ handle machine,
    closings (pipes.disconnect handle machine).2 = closings machine
  closed : ∀ handle machine, closings (pipes.close handle machine).2 =
    closings machine ++ [.of handle (pipes.close handle machine).1]
  polled : ∀ child machine, closings (kernel.poll child machine).2 = closings machine
  flushRefuses : RefusesOnly pipes.flush
  disconnectRefuses : RefusesOnly pipes.disconnect
  closeRefuses : RefusesOnly pipes.close

/-- A step that fails only by refusals is passed over, whatever it comes to. -/
theorem takeSteps_cons {step : String → σ → Except Fault Unit × σ} (refuses : RefusesOnly step)
    (handle : String) (rest : List (σ → Except Fault Unit × σ)) (machine : σ) :
    takeSteps (step handle :: rest) machine = takeSteps rest (step handle machine).2 := by
  rcases taken : step handle machine with ⟨outcome, next⟩
  cases outcome with
  | ok _ => simp only [takeSteps, taken]
  | error fault =>
      obtain ⟨message, rfl⟩ := refuses handle machine fault next taken
      simp only [takeSteps, taken]

/-- Where calls on handles fail only by refusals, closing a pipe always ends well. -/
theorem closePipe_of_handle {pipes : PipeCalls σ} (flush : RefusesOnly pipes.flush)
    (disconnect : RefusesOnly pipes.disconnect) (close : RefusesOnly pipes.close)
    (handle : String) (machine : σ) :
    let flushed := (pipes.flush handle machine).2
    let disconnected := (pipes.disconnect handle flushed).2
    closePipe pipes (some handle) machine =
      (.ok (), (pipes.close handle disconnected).2) := by
  intro flushed disconnected
  rw [closePipe, takeSteps_cons flush, takeSteps_cons disconnect, takeSteps_cons close]
  rfl

/-- Closing a pipe always ends well.  If there is a handle, it was handed over to be closed,
once; what that came to is not told. -/
theorem closePipe_outcome {pipes : PipeCalls σ} {kernel : Kernel σ}
    {closings : σ → List Closing} (laws : PipeLaws pipes kernel closings)
    (handle : Option String) (machine : σ) :
    ∃ next refusal, closePipe pipes handle machine = (.ok (), next) ∧
      closings next = closings machine ++ handle.toList.map (Closing.mk · refusal) := by
  cases handle with
  | none => exact ⟨machine, none, rfl, (List.append_nil _).symm⟩
  | some handle =>
      let flushed := (pipes.flush handle machine).2
      let disconnected := (pipes.disconnect handle flushed).2
      refine ⟨(pipes.close handle disconnected).2,
        (Closing.of handle (pipes.close handle disconnected).1).refusal, ?_, ?_⟩
      · exact closePipe_of_handle laws.flushRefuses laws.disconnectRefuses laws.closeRefuses
          handle machine
      · rw [laws.closed, laws.disconnected, laws.flushed]
        cases (pipes.close handle disconnected).1 <;> rfl

/-! ### Channels of a platform -/

/-- A channel that is not removed is told by a failure that the host itself reports. -/
def ChannelMaker.RefusesOwn (maker : ChannelMaker σ) : Prop :=
  ∀ {path handle machine fault next}, maker.release path handle machine = (.error fault, next) →
    ∃ error, fault = .host error

/-- How the calls that remove channels fail: a file that is not removed is told by a refusal of
the system, and a call on a handle fails only by a refusal of the pipe. -/
structure ChannelCalls.RefusalLaws (calls : ChannelCalls σ) : Prop where
  removal : ∀ {path machine fault next},
    calls.files.remove path machine = (.error fault, next) → ∃ error, fault = .system error
  flush : ∀ pipes ∈ calls.pipes, RefusesOnly pipes.flush
  disconnect : ∀ pipes ∈ calls.pipes, RefusesOnly pipes.disconnect
  close : ∀ pipes ∈ calls.pipes, RefusesOnly pipes.close

/-- Whichever channels the platform prefers, and even if it can make none, what cannot be
removed is told by the host. -/
theorem platformMaker_refusesOwn {calls : ChannelCalls σ} (laws : calls.RefusalLaws)
    (settings : Settings) : (platformMaker calls settings).RefusesOwn := by
  intro path handle machine fault next refused
  -- Makers that can make nothing remove channels like those that can.
  have told : ∀ (kind : ChannelKind) (maker : ChannelMaker σ),
      (if kind.isTold calls.wordDepth settings then maker
        else maker.unable .tooDeep).release = maker.release := by
    intro kind maker
    split <;> rfl
  cases kind : platformKind calls with
  | fifo =>
      simp only [platformMaker, kind, ChannelKind.maker, told, fifoMaker] at refused
      obtain ⟨name, error, -, rfl⟩ := removeFifo_refused laws.removal refused
      exact ⟨_, rfl⟩
  | namedPipe =>
      cases found : calls.pipes with
      | none =>
          simp only [platformMaker, kind, ChannelKind.maker, found, ChannelMaker.lacking,
            Prod.mk.injEq, Except.error.injEq] at refused
          exact ⟨_, refused.1.symm⟩
      | some pipes =>
          simp only [platformMaker, kind, ChannelKind.maker, found, told, pipeMaker] at refused
          cases handle with
          | none => cases refused
          | some handle =>
              rw [closePipe_of_handle (laws.flush pipes found) (laws.disconnect pipes found)
                (laws.close pipes found)] at refused
              cases refused

end ExtcapHost
