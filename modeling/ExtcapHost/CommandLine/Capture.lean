/-
Module: ExtcapHost.CommandLine.Capture
Purpose: Running a capture until its helper ends, its time is up, or the operator
  interrupts it.
Main exports:
  Ending, Stand, Stand.tell, watch, runCapture, finishCapture, capture
-/
import ExtcapHost.CommandLine.Platform
import ExtcapHost.Discovery
import ExtcapHost.OperatorArgument
import ExtcapHost.Session.Manager

namespace ExtcapHost

variable {σ : Type}

/-- How a command ends: with a status, or with a fault that nobody handled. -/
inductive Ending where
  | exit (status : Nat)
  | escaped (fault : Fault)
deriving DecidableEq, Repr, Inhabited

/-- The same ending, unless the console refused what was to be told before. -/
def Ending.after (told : Except Fault Unit) (ending : Ending) : Ending :=
  match told with
  | .ok _ => ending
  | .error fault => .escaped fault

/-- Where a command stands: what it has given the console to show, its messages, and the
machine. -/
structure Stand (σ : Type) where
  shown : List Display
  journal : List Note
  machine : σ

/-- Tell the operator something. -/
def Stand.tell (platform : Platform σ) (stand : Stand σ) (display : Display) :
    Except Fault Unit × Stand σ :=
  let (told, shown) := platform.tell stand.machine stand.shown [display]
  (told, { stand with shown })

/-- Tell the operator something, and end. -/
def Stand.conclude (platform : Platform σ) (stand : Stand σ) (display : Display)
    (ending : Ending) : Ending × Stand σ :=
  let (told, stand) := stand.tell platform display
  (ending.after told, stand)

/-- A command that found and told of a failure. -/
def Stand.fail (platform : Platform σ) (stand : Stand σ) (message : String) :
    Ending × Stand σ :=
  stand.conclude platform (errorDisplay message) (.exit 1)

/-- Search a place for interfaces.  Where nothing can stand, nothing is found. -/
def surveyPlace (platform : Platform σ) (place : Place) (stand : Stand σ) :
    Except Fault (List Discovered) × Registry × Stand σ :=
  match place.target platform.helpers.workingDirectory with
  | .error fault => (.error fault, .empty, stand)
  | .ok none => (.ok [], .empty, stand)
  | .ok (some directory) =>
      let survey := discover platform.helpers .sentences directory .empty stand.machine
      (survey.result, survey.registry,
        { stand with journal := stand.journal ++ survey.journal, machine := survey.machine })

/-- What is shown of an entry that was started. -/
def entryDisplays (entry : Entry) : List Display :=
  .panel ("Capturing on " ++ entry.name)
      ("Channel: " ++ entry.channel.getD "None" ++
        "\nHelper:  " ++ entry.helper.getD "None" ++
        "\nPID:     " ++ String.ofList (Text.writeInteger entry.pid)) ::
    if entry.hasProcess then [] else [warningDisplay "Helper did not start"]

/-- Wait while a helper of the session lives and the time is not up.  Say whether
the operator interrupted; that happens once the patience is used up. -/
def watch (platform : Platform σ) (crew : Crew σ) (isDue : σ → Bool) (session : Session) :
    Nat → Desk σ → Bool × Desk σ
  | patience, desk =>
      let (alive, desk) := crew.running session desk
      if alive.isEmpty || isDue desk.machine then (false, desk)
      else
        let desk := { desk with machine := platform.nap desk.machine }
        match patience with
        | 0 => (true, desk)
        | patience + 1 => watch platform crew isDue session patience desk

/-- The time is up a number of seconds after a start. -/
def dueAfter (platform : Platform σ) (start : σ) (duration : Option Binary64) : σ → Bool :=
  match duration with
  | none => fun _ => false
  | some duration =>
      let deadline := (platform.now start).add duration
      fun machine => (platform.now machine).atLeast deadline

/-- What a capture that was set up came to, still to be cleaned up, and what the console was
given to show by then. -/
structure Course (σ : Type) where
  ending : Ending
  session : Session
  shown : List Display
  desk : Desk σ

/-- Start the entries of a session, show them, and wait.  Before, the console was given what
is named first. -/
def runCapture (platform : Platform σ) (crew : Crew σ) (interface : String)
    (duration : Option Binary64) (shown : List Display) (session : Session) (desk : Desk σ) :
    Course σ :=
  match crew.start session desk with
  | (.error fault, session, desk) => ⟨.escaped fault, session, shown, desk⟩
  | (.ok false, session, desk) =>
      let (told, shown) := platform.tell desk.machine shown
        [errorDisplay ("Could not create capture channel for " ++ interface)]
      ⟨(Ending.exit 1).after told, session, shown, desk⟩
  | (.ok true, session, desk) =>
      match platform.tell desk.machine shown (session.entries.flatMap entryDisplays) with
      | (.error fault, shown) => ⟨.escaped fault, session, shown, desk⟩
      | (.ok _, shown) =>
          let (interrupted, watched) :=
            watch platform crew (dueAfter platform desk.machine duration) session
              (platform.patience desk.machine) desk
          let (told, shown) := platform.tell watched.machine shown
            (if interrupted then [.line "[dim]Interrupted[/dim]"] else [])
          ⟨(Ending.exit 0).after told, session, shown, watched⟩

/-- Clean up after a capture, however it went.  A fault in cleaning up comes before
all others. -/
def finishCapture (platform : Platform σ) (crew : Crew σ) (course : Course σ) :
    Ending × Stand σ :=
  let (cleaned, _, desk) := crew.cleanup course.session course.desk
  let stand : Stand σ := ⟨course.shown, desk.journal, desk.machine⟩
  match cleaned, course.ending with
  | .error fault, _ => (.escaped fault, stand)
  | .ok _, .exit 0 =>
      stand.conclude platform (successDisplay "Capture session closed") (.exit 0)
  | .ok _, ending => (ending, stand)

/-- Capture on an interface.  Arguments are read before any helper is run; the
channel and the process are let go of in every case. -/
def capture (platform : Platform σ) (settings : Settings) (interface : String)
    (arguments : List String) (duration : Option Binary64) (stand : Stand σ) :
    Ending × Stand σ :=
  match OperatorArgument.readAll arguments with
  | .error error => stand.fail platform error.text
  | .ok arguments =>
      let (found, registry, stand) := surveyPlace platform settings.helperDirectory stand
      match found with
      | .error fault => (.escaped fault, stand)
      | .ok _ =>
          let desk : Desk σ := ⟨.empty, stand.journal, stand.machine⟩
          match addInterface registry .empty interface arguments desk with
          | (.error fault, _, desk) =>
              (.escaped fault, ⟨stand.shown, desk.journal, desk.machine⟩)
          | (.ok none, _, desk) =>
              Stand.fail platform ⟨stand.shown, desk.journal, desk.machine⟩
                ("No helper provides interface " ++ interface)
          | (.ok (some _), session, desk) =>
              let crew : Crew σ := ⟨platformMaker platform.channels settings, platform.kernel⟩
              finishCapture platform crew
                (runCapture platform crew interface duration stand.shown session desk)

end ExtcapHost
