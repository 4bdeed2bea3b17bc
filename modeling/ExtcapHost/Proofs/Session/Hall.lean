/-
Module: ExtcapHost.Proofs.Session.Hall
Purpose: Any number of sessions that share one crew, served in any order.
Main exports:
  Move, Crew.serve, Hall, Hall.opened, Hall.step, Hall.run
-/
import ExtcapHost.Proofs.Record

/-!
The sessions of a program share one crew, one launcher and one machine.  Each move
serves one session; an answer that is a fault ends the move and not the run.
-/

namespace ExtcapHost

variable {σ : Type}

/-- What is asked for a session.  An interface is added by the registry as it stands
at that time.  Between two requests the machine may change by itself, as it does when
a child ends. -/
inductive Move (σ : Type) where
  | addNative (name : String)
  | addBacked (name helper : String) (arguments : CaptureArguments)
  | addInterface (registry : Registry) (name : String) (arguments : CaptureArguments)
  | start
  | cleanup
  | running
  | elapse (change : σ → σ)

/-- The same move on a recorded machine. -/
def Move.recorded : Move σ → Move (Recorded σ)
  | .addNative name => .addNative name
  | .addBacked name helper arguments => .addBacked name helper arguments
  | .addInterface registry name arguments => .addInterface registry name arguments
  | .start => .start
  | .cleanup => .cleanup
  | .running => .running
  | .elapse change => .elapse (Recorded.drift change)

/-- Serve a session.  Whatever the answer is, session and desk are left as they are
then. -/
def Crew.serve (crew : Crew σ) (session : Session) (desk : Desk σ) :
    Move σ → Session × Desk σ
  | .addNative name => ((session.addNative name).2, desk)
  | .addBacked name helper arguments => ((session.addBacked name helper arguments).2, desk)
  | .addInterface registry name arguments =>
      (addInterface registry session name arguments desk).2
  | .start => (crew.start session desk).2
  | .cleanup => (crew.cleanup session desk).2
  | .running => (session, (crew.running session desk).2)
  | .elapse change => (session, { desk with machine := change desk.machine })

/-- Sessions, by number, and the desk that they share. -/
structure Hall (σ : Type) where
  sessions : List Session
  desk : Desk σ

namespace Hall

/-- A number of sessions to which nothing was added yet. -/
def opened (count : Nat) (desk : Desk σ) : Hall σ :=
  ⟨List.replicate count .empty, desk⟩

/-- The entries of all sessions. -/
def entries (hall : Hall σ) : List Entry :=
  hall.sessions.flatMap fun session => session.entries

/-- A new hall has no entries. -/
theorem opened_entries (count : Nat) (desk : Desk σ) : (opened count desk).entries = [] := by
  simp [entries, opened, Session.empty]

/-- The session of a number is served.  Without a session of that number nothing
happens. -/
def step (crew : Crew σ) (hall : Hall σ) (number : Nat) (move : Move σ) : Hall σ :=
  match hall.sessions[number]? with
  | none => hall
  | some session =>
      let served := crew.serve session hall.desk move
      ⟨hall.sessions.set number served.1, served.2⟩

/-- Sessions are served one after the other. -/
def run (crew : Crew σ) (hall : Hall σ) : List (Nat × Move σ) → Hall σ
  | [] => hall
  | (number, move) :: rest => run crew (hall.step crew number move) rest

/-- The moves of a run on a recorded machine. -/
def recordedMoves (moves : List (Nat × Move σ)) : List (Nat × Move (Recorded σ)) :=
  moves.map fun move => (move.1, move.2.recorded)

end Hall

end ExtcapHost
