/-
Module: ExtcapHost.Session.Manager
Purpose: Starting and stopping the helpers of capture sessions.
Main exports:
  Desk, Crew, addInterface, Crew.start, Crew.cleanup, Crew.running
-/
import ExtcapHost.Channel.Basic
import ExtcapHost.Registry
import ExtcapHost.Session.Basic

/-!
Each entry that a helper backs gets a channel and a process of its own.  A start
that meets a channel that cannot be made ends there: what was started before
stays, and a later start goes on with the entries that are still configured.
Cleaning up removes channels and lets go of processes; it can be repeated until
every channel is gone.
-/

namespace ExtcapHost

variable {σ : Type}

/-- What all sessions share: the started processes, the messages, and the
machine. -/
structure Desk (σ : Type) where
  launcher : Launcher
  journal : List Note
  machine : σ

/-- A message at the end of the journal. -/
def Desk.note (desk : Desk σ) (level : Level) (text : String) : Desk σ :=
  { desk with journal := desk.journal ++ [⟨level, text⟩] }

/-- The message about an entry. -/
def Entry.remark (entry : Entry) (text : String) : String :=
  "Extcap [" ++ entry.name ++ "] - " ++ text

/-- The entry with a channel of its own. -/
def Entry.opened (entry : Entry) (channel : Channel) : Entry :=
  { entry with channel := some channel.path, handle := channel.handle, stage := .channelCreated }

/-- The entry with a process of its own, or with none if it did not start. -/
def Entry.spawned (entry : Entry) (pid : Int) : Entry :=
  { entry with pid, stage := .processSpawned }

/-- The entry without its channel. -/
def Entry.unlinked (entry : Entry) : Entry :=
  { entry with channel := none, handle := none }

/-- The entry at its end, without a process. -/
def Entry.closed (entry : Entry) : Entry :=
  { entry with pid := noProcess, stage := .stopped }

/-- The entry counts as running once its process has started. -/
def Entry.promoted (entry : Entry) : Entry :=
  if entry.isBacked ∧ entry.stage = .processSpawned ∧ entry.hasProcess then
    { entry with stage := .running }
  else
    entry

/-- The entry still waits for its start. -/
def Entry.waiting (entry : Entry) : Bool :=
  entry.isBacked && entry.stage = .configured

/-- The command that starts the helper of an entry. -/
def Entry.command (entry : Entry) (channel : String) : List String :=
  captureCommand entry.helperPath entry.name channel entry.arguments

/-- Those who do the work: one makes channels, one keeps processes. -/
structure Crew (σ : Type) where
  maker : ChannelMaker σ
  kernel : Kernel σ

/-- Add the interface of a registered helper to a session; say at which index.
Without a registered helper nothing is added. -/
def addInterface (registry : Registry) (session : Session) (name : String)
    (arguments : CaptureArguments) (desk : Desk σ) :
    Except Fault (Option Nat) × Session × Desk σ :=
  match registry.lookup (some name) with
  | none =>
      (.ok none, session,
        desk.note .warning ("Extcap interface " ++ name ++ " is not provided by any helper"))
  | some helper =>
      let (added, session) := session.addBacked name helper arguments
      (added.map some, session, desk)

/-- What a pass over the entries of a session came to. -/
structure Pass (σ α : Type) where
  result : Except Fault α
  entries : List Entry
  desk : Desk σ

/-- A pass that had begun with one more entry. -/
def Pass.after {α : Type} (entry : Entry) (later : Pass σ α) : Pass σ α :=
  { later with entries := entry :: later.entries }

namespace Crew

/-- Let go of a process. -/
def letGo (crew : Crew σ) (pid : Int) (desk : Desk σ) : Desk σ :=
  if pid = noProcess then desk
  else
    let (_, launcher, machine) := desk.launcher.release crew.kernel pid desk.machine
    { desk with launcher, machine }

/-- Start the process of an entry that has its channel. -/
def launch (crew : Crew σ) (entry : Entry) (channel : Channel) (desk : Desk σ) :
    Except Fault Entry × Desk σ :=
  let spawned := desk.launcher.spawn crew.kernel (entry.command channel.path) desk.machine
  let desk : Desk σ := ⟨spawned.launcher, desk.journal ++ spawned.journal, spawned.machine⟩
  match spawned.result with
  | .error fault => (.error fault, desk)
  | .ok pid =>
      ((.ok (entry.spawned pid) : Except Fault Entry),
        if pid = noProcess then
          desk.note .warning (entry.remark ("helper " ++ entry.helperPath ++ " did not start"))
        else
          desk)

/-- Start the waiting entries in order.  The answer is false if a channel could
not be made; the entries from there on stay as they are. -/
def startEach (crew : Crew σ) : List Entry → Desk σ → Pass σ Bool
  | [], desk => ⟨.ok true, [], desk⟩
  | entry :: rest, desk =>
      if entry.waiting then
        match crew.maker.create desk.machine with
        | (.error (.host error), machine) =>
            ⟨.ok false, entry :: rest,
              { desk with machine }.note .error (entry.remark error.text)⟩
        | (.error fault, machine) => ⟨.error fault, entry :: rest, { desk with machine }⟩
        | (.ok channel, machine) =>
            let opened := entry.opened channel
            match crew.launch opened channel { desk with machine } with
            | (.error fault, desk) => ⟨.error fault, opened :: rest, desk⟩
            | (.ok spawned, desk) => (crew.startEach rest desk).after spawned
      else
        (crew.startEach rest desk).after entry

/-- Start a session.  If every channel could be made, all entries whose process
has started are running, also those of an earlier start. -/
def start (crew : Crew σ) (session : Session) (desk : Desk σ) :
    Except Fault Bool × Session × Desk σ :=
  let pass := crew.startEach session.entries desk
  match pass.result with
  | .ok true => (.ok true, ⟨pass.entries.map Entry.promoted⟩, pass.desk)
  | result => (result, ⟨pass.entries⟩, pass.desk)

/-- Remove the channel of an entry, if it has one.  If it cannot be removed, it
stays recorded. -/
def unlink (crew : Crew σ) (entry : Entry) (desk : Desk σ) : Except Fault Entry × Desk σ :=
  if entry.hasChannel then
    match crew.maker.release entry.channel entry.handle desk.machine with
    | (.ok _, machine) => ((.ok entry.unlinked : Except Fault Entry), { desk with machine })
    | (.error (.host error), machine) =>
        ((.ok entry : Except Fault Entry),
          { desk with machine }.note .warning (entry.remark error.text))
    | (.error fault, machine) => (.error fault, { desk with machine })
  else
    ((.ok entry : Except Fault Entry), desk)

/-- Close the entries that a helper backs, in order. -/
def closeEach (crew : Crew σ) : List Entry → Desk σ → Pass σ Unit
  | [], desk => ⟨.ok (), [], desk⟩
  | entry :: rest, desk =>
      if entry.isBacked then
        match crew.unlink entry desk with
        | (.error fault, desk) => ⟨.error fault, entry :: rest, desk⟩
        | (.ok unlinked, desk) =>
            (crew.closeEach rest (crew.letGo entry.pid desk)).after unlinked.closed
      else
        (crew.closeEach rest desk).after entry

/-- Clean up a session.  Processes are not told to end; they end once their
channel is gone. -/
def cleanup (crew : Crew σ) (session : Session) (desk : Desk σ) :
    Except Fault Unit × Session × Desk σ :=
  let pass := crew.closeEach session.entries desk
  (pass.result, ⟨pass.entries⟩, pass.desk)

/-- The entries whose process lives, in order. -/
def runningEach (crew : Crew σ) : List Entry → Desk σ → List Entry × Desk σ
  | [], desk => ([], desk)
  | entry :: rest, desk =>
      if entry.isBacked && entry.hasProcess then
        let (lives, launcher, machine) :=
          desk.launcher.isRunning crew.kernel entry.pid desk.machine
        let (later, desk) := crew.runningEach rest { desk with launcher, machine }
        if lives then (entry :: later, desk) else (later, desk)
      else
        crew.runningEach rest desk

/-- The entries of a session whose process lives. -/
def running (crew : Crew σ) (session : Session) (desk : Desk σ) : List Entry × Desk σ :=
  crew.runningEach session.entries desk

end Crew

end ExtcapHost
