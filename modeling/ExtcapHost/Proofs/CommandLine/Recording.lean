/-
Module: ExtcapHost.Proofs.CommandLine.Recording
Purpose: Recording the calls of a capture changes nothing.
Main exports:
  Platform.recorded, Platform.RefusedLast, Course.plain, Stand.plain, watch_recorded,
  runCapture_recorded, finishCapture_recorded
-/
import ExtcapHost.CommandLine.Capture
import ExtcapHost.Proofs.Session.Recording

/-!
A capture watches the clock and the operator, and shows things on the console, besides its
channels and its processes.  These leave no call behind, so a platform is recorded by lifting
them as they are; the calls that matter are recorded with the crew.
-/

namespace ExtcapHost

variable {σ : Type}

namespace Recorded

variable {α : Type}

/-- Do something of which no call is recorded. -/
def unseen (action : σ → α × σ) (recorded : Recorded σ) : α × Recorded σ :=
  ((action recorded.machine).1, recorded.drift fun machine => (action machine).2)

end Recorded

/-- What channels are made with, on a recorded machine. -/
def ChannelCalls.unseen (calls : ChannelCalls σ) : ChannelCalls (Recorded σ) where
  names :=
    { stamp := fun recorded => calls.names.stamp recorded.machine
      token := Recorded.unseen calls.names.token }
  files :=
    { reserve := fun word directory => Recorded.unseen (calls.files.reserve word directory)
      close := fun path => Recorded.unseen (calls.files.close path)
      present := fun recorded path => calls.files.present recorded.machine path
      remove := fun path => Recorded.unseen (calls.files.remove path)
      makeFifo := fun mode path => Recorded.unseen (calls.files.makeFifo mode path) }
  pipes := calls.pipes.map fun pipes =>
    { create := fun request => Recorded.unseen (pipes.create request)
      flush := fun handle => Recorded.unseen (pipes.flush handle)
      disconnect := fun handle => Recorded.unseen (pipes.disconnect handle)
      close := fun handle => Recorded.unseen (pipes.close handle) }
  prefersPipes := calls.prefersPipes
  wordDepth := calls.wordDepth

/-- A platform whose machine is recorded. -/
def Platform.recorded (platform : Platform σ) : Platform (Recorded σ) where
  helpers := platform.helpers.recorded
  kernel := platform.kernel.recorded
  channels := platform.channels.unseen
  settingsText recorded path := platform.settingsText recorded.machine path
  realPath recorded path := platform.realPath recorded.machine path
  standing recorded path := platform.standing recorded.machine path
  save path text := Recorded.unseen (platform.save path text)
  now recorded := platform.now recorded.machine
  nap := Recorded.drift platform.nap
  patience recorded := platform.patience recorded.machine
  consoleFault recorded := platform.consoleFault recorded.machine

/-- A course without the record of its machine. -/
def Course.plain (course : Course (Recorded σ)) : Course σ :=
  ⟨course.ending, course.session, course.shown, course.desk.plain⟩

/-- Where a command stands, without the record of its machine. -/
def Stand.plain (stand : Stand (Recorded σ)) : Stand σ :=
  ⟨stand.shown, stand.journal, stand.machine.machine⟩

/-! ### What telling comes to, by what the console takes -/

/-- The console has refused the last thing that it was given. -/
def Platform.RefusedLast (platform : Platform σ) (machine : σ) (shown : List Display)
    (fault : Fault) : Prop :=
  ∃ before display, shown = before ++ [display] ∧
    platform.consoleFault machine before display = some fault

namespace Platform

variable (platform : Platform σ)

theorem tell_of_fault {machine : σ} {shown : List Display} {display : Display} {fault : Fault}
    (refused : platform.consoleFault machine shown display = some fault) (rest : List Display) :
    platform.tell machine shown (display :: rest) = (.error fault, shown ++ [display]) := by
  simp only [tell, refused]

theorem tell_of_shown {machine : σ} {shown : List Display} {display : Display}
    (taken : platform.consoleFault machine shown display = none) (rest : List Display) :
    platform.tell machine shown (display :: rest) =
      platform.tell machine (shown ++ [display]) rest := by
  simp only [tell, taken]

/-- Telling ends early only because the console has refused what it was given last. -/
theorem refusedLast_of_tell {machine : σ} {shown displays said : List Display} {fault : Fault}
    (told : platform.tell machine shown displays = (.error fault, said)) :
    platform.RefusedLast machine said fault := by
  induction displays generalizing shown with
  | nil => cases told
  | cons display rest ih =>
      cases taken : platform.consoleFault machine shown display with
      | none =>
          rw [tell_of_shown platform taken] at told
          exact ih told
      | some refusal =>
          rw [tell_of_fault platform taken] at told
          cases told
          exact ⟨shown, display, rfl, taken⟩

theorem tell_recorded (machine : Recorded σ) (shown displays : List Display) :
    platform.recorded.tell machine shown displays =
      platform.tell machine.machine shown displays := by
  induction displays generalizing shown with
  | nil => rfl
  | cons display rest ih =>
      cases taken : platform.consoleFault machine.machine shown display with
      | none =>
          rw [tell_of_shown platform taken, tell_of_shown platform.recorded taken, ih]
      | some refusal =>
          rw [tell_of_fault platform taken, tell_of_fault platform.recorded taken]

end Platform

namespace Stand

variable (platform : Platform σ)

theorem conclude_of_told {stand : Stand σ} {display : Display} {told : Except Fault Unit}
    {said : List Display}
    (telling : platform.tell stand.machine stand.shown [display] = (told, said))
    (ending : Ending) :
    stand.conclude platform display ending = (ending.after told, { stand with shown := said }) := by
  simp only [conclude, tell, telling]

end Stand

/-! ### What watching comes to, by what is seen -/

section

variable {platform : Platform σ} {crew : Crew σ} {isDue : σ → Bool} {session : Session}
  {desk later : Desk σ} {alive : List Entry}

/-- Watching ends once no helper lives or the time is up. -/
theorem watch_of_over (asked : crew.running session desk = (alive, later))
    (finished : (alive.isEmpty || isDue later.machine) = true) (patience : Nat) :
    watch platform crew isDue session patience desk = (false, later) := by
  cases patience <;> rw [watch, asked] <;> simp only [finished, if_true]

/-- Watching ends in the last wait. -/
theorem watch_of_interrupted (asked : crew.running session desk = (alive, later))
    (goesOn : (alive.isEmpty || isDue later.machine) = false) :
    watch platform crew isDue session 0 desk =
      (true, { later with machine := platform.nap later.machine }) := by
  rw [watch, asked]
  simp only [goesOn, Bool.false_eq_true, if_false]

/-- Watching goes on after any other wait. -/
theorem watch_of_waited (asked : crew.running session desk = (alive, later))
    (goesOn : (alive.isEmpty || isDue later.machine) = false) (patience : Nat) :
    watch platform crew isDue session (patience + 1) desk =
      watch platform crew isDue session patience
        { later with machine := platform.nap later.machine } := by
  rw [watch, asked]
  simp only [goesOn, Bool.false_eq_true, if_false]

/-! ### What a capture comes to, by its start, its watch and its cleanup -/

variable {interface : String} {duration : Option Binary64} {shown said : List Display}
  {started : Session} {fault : Fault}

theorem runCapture_of_raised (start : crew.start session desk = (.error fault, started, later)) :
    runCapture platform crew interface duration shown session desk =
      ⟨.escaped fault, started, shown, later⟩ := by
  simp only [runCapture, start]

theorem runCapture_of_refused {told : Except Fault Unit}
    (start : crew.start session desk = (.ok false, started, later))
    (telling : platform.tell later.machine shown
      [errorDisplay ("Could not create capture channel for " ++ interface)] = (told, said)) :
    runCapture platform crew interface duration shown session desk =
      ⟨(Ending.exit 1).after told, started, said, later⟩ := by
  simp only [runCapture, start, telling]

theorem runCapture_of_unshown (start : crew.start session desk = (.ok true, started, later))
    (telling : platform.tell later.machine shown (started.entries.flatMap entryDisplays) =
      (.error fault, said)) :
    runCapture platform crew interface duration shown session desk =
      ⟨.escaped fault, started, said, later⟩ := by
  simp only [runCapture, start, telling]

theorem runCapture_of_watched {told : Except Fault Unit} {saidToo : List Display}
    {interrupted : Bool} {last : Desk σ}
    (start : crew.start session desk = (.ok true, started, later))
    (telling : platform.tell later.machine shown (started.entries.flatMap entryDisplays) =
      (.ok (), said))
    (watched : watch platform crew (dueAfter platform later.machine duration) started
      (platform.patience later.machine) later = (interrupted, last))
    (tellingToo : platform.tell last.machine said
      (if interrupted then [.line "[dim]Interrupted[/dim]"] else []) = (told, saidToo)) :
    runCapture platform crew interface duration shown session desk =
      ⟨(Ending.exit 0).after told, started, saidToo, last⟩ := by
  simp only [runCapture, start, telling, watched, tellingToo]

variable {course : Course σ}

theorem finishCapture_of_good
    (cleanup : crew.cleanup course.session course.desk = (.ok (), started, later))
    (good : course.ending = .exit 0) :
    finishCapture platform crew course =
      Stand.conclude platform ⟨course.shown, later.journal, later.machine⟩
        (successDisplay "Capture session closed") (.exit 0) := by
  simp only [finishCapture, cleanup, good]

theorem finishCapture_of_bad
    (cleanup : crew.cleanup course.session course.desk = (.ok (), started, later))
    (bad : course.ending ≠ .exit 0) :
    finishCapture platform crew course =
      (course.ending, ⟨course.shown, later.journal, later.machine⟩) := by
  simp only [finishCapture, cleanup]

end

/-! ### Recorded captures are captures -/

theorem dueAfter_recorded (platform : Platform σ) (start : Recorded σ)
    (duration : Option Binary64) (machine : Recorded σ) :
    dueAfter platform.recorded start duration machine =
      dueAfter platform start.machine duration machine.machine := by
  cases duration <;> rfl

theorem watch_recorded (platform : Platform σ) (crew : Crew σ) {isDue : σ → Bool}
    {isDueToo : Recorded σ → Bool} (same : ∀ machine, isDueToo machine = isDue machine.machine)
    (session : Session) (patience : Nat) (desk : Desk (Recorded σ)) :
    watch platform crew isDue session patience desk.plain =
      ((watch platform.recorded crew.recorded isDueToo session patience desk).1,
        (watch platform.recorded crew.recorded isDueToo session patience desk).2.plain) := by
  induction patience generalizing desk with
  | zero =>
      rcases asked : crew.recorded.running session desk with ⟨alive, later⟩
      have plain := crew.running_recorded session desk
      rw [asked] at plain
      have due : isDueToo later.machine = isDue later.plain.machine := same later.machine
      cases goes : alive.isEmpty || isDueToo later.machine with
      | true =>
          rw [watch_of_over asked goes, watch_of_over plain (due ▸ goes)]
      | false =>
          rw [watch_of_interrupted asked goes, watch_of_interrupted plain (due ▸ goes)]
          rfl
  | succ patience ih =>
      rcases asked : crew.recorded.running session desk with ⟨alive, later⟩
      have plain := crew.running_recorded session desk
      rw [asked] at plain
      have due : isDueToo later.machine = isDue later.plain.machine := same later.machine
      cases goes : alive.isEmpty || isDueToo later.machine with
      | true =>
          rw [watch_of_over asked goes, watch_of_over plain (due ▸ goes)]
      | false =>
          rw [watch_of_waited asked goes, watch_of_waited plain (due ▸ goes), ← ih]
          rfl

theorem runCapture_recorded (platform : Platform σ) (crew : Crew σ) (interface : String)
    (duration : Option Binary64) (shown : List Display) (session : Session)
    (desk : Desk (Recorded σ)) :
    runCapture platform crew interface duration shown session desk.plain =
      (runCapture platform.recorded crew.recorded interface duration shown session
        desk).plain := by
  rcases started : crew.recorded.start session desk with ⟨result, session', later⟩
  have plain := crew.start_recorded session desk
  rw [started] at plain
  cases result with
  | error fault =>
      rw [runCapture_of_raised plain, runCapture_of_raised started]
      rfl
  | ok complete =>
      cases complete with
      | false =>
          rcases telling : platform.tell later.machine.machine shown
            [errorDisplay ("Could not create capture channel for " ++ interface)] with
            ⟨told, said⟩
          rw [runCapture_of_refused plain telling,
            runCapture_of_refused started (platform.tell_recorded _ _ _ ▸ telling)]
          rfl
      | true =>
          rcases telling : platform.tell later.machine.machine shown
            (session'.entries.flatMap entryDisplays) with ⟨told, said⟩
          have tellingToo := platform.tell_recorded later.machine shown
            (session'.entries.flatMap entryDisplays)
          rw [telling] at tellingToo
          cases told with
          | error fault =>
              rw [runCapture_of_unshown plain telling, runCapture_of_unshown started tellingToo]
              rfl
          | ok _ =>
              have same := dueAfter_recorded platform later.machine duration
              have watched := watch_recorded platform crew same session'
                (platform.patience later.machine.machine) later
              rcases watchedToo : watch platform.recorded crew.recorded
                (dueAfter platform.recorded later.machine duration) session'
                (platform.patience later.machine.machine) later with ⟨interrupted, last⟩
              rw [watchedToo] at watched
              rw [runCapture_of_watched plain telling watched rfl,
                runCapture_of_watched started tellingToo watchedToo rfl, platform.tell_recorded]
              rfl

end ExtcapHost
