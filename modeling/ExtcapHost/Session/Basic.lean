/-
Module: ExtcapHost.Session.Basic
Purpose: The interfaces of one capture, and how far each of them is.
Main exports:
  Stage, Source, Revision, Entry, Entry.ofRevision, Entry.advance, Session
-/
import ExtcapHost.Command
import ExtcapHost.Fault
import ExtcapHost.Launcher

namespace ExtcapHost

/-- How far an entry is. -/
inductive Stage where
  | configured
  | channelCreated
  | processSpawned
  | running
  | stopped
deriving DecidableEq, Repr, Inhabited

namespace Stage

/-- The place of a stage in the course of an entry. -/
def rank : Stage → Nat
  | .configured => 0
  | .channelCreated => 1
  | .processSpawned => 2
  | .running => 3
  | .stopped => 4

/-- The word for a stage. -/
def word : Stage → String
  | .configured => "configured"
  | .channelCreated => "channel_created"
  | .processSpawned => "process_spawned"
  | .running => "running"
  | .stopped => "stopped"

end Stage

/-- Where the frames of an entry come from: the system itself, or a helper. -/
inductive Source where
  | native
  | helper
deriving DecidableEq, Repr, Inhabited

/-- The options of an entry at one time, whether or not they make sense. -/
structure Revision where
  name : String
  source : Source
  helper : Option String
  channel : Option String
  handle : Option String
  pid : Int
  arguments : CaptureArguments
  stage : Stage
deriving DecidableEq, Repr, Inhabited

/-- The options of a new entry of that name. -/
def Revision.named (name : String) : Revision where
  name := name
  source := .native
  helper := none
  channel := none
  handle := none
  pid := noProcess
  arguments := []
  stage := .configured

/-- An entry of a session.  If a helper delivers its frames, that helper has a
path. -/
structure Entry extends Revision where
  helperNamed : source = .helper → helper.getD "" ≠ ""
deriving DecidableEq, Repr

namespace Entry

/-- The entry with the given options. -/
def ofRevision (revision : Revision) : Except Fault Entry :=
  if named : revision.source = .helper → revision.helper.getD "" ≠ "" then
    .ok { toRevision := revision, helperNamed := named }
  else
    .error (.value ("Helper-backed interface " ++ revision.name ++ " needs a helper path"))

/-- A new entry for an interface of the system. -/
def native (name : String) : Entry where
  toRevision := .named name
  helperNamed := by simp [Revision.named]

/-- A new entry for an interface of a helper. -/
def backed (name helper : String) (arguments : CaptureArguments) : Except Fault Entry :=
  ofRevision { Revision.named name with source := .helper, helper := some helper, arguments }

/-- A helper delivers the frames. -/
def isBacked (entry : Entry) : Bool :=
  entry.source = .helper

/-- A process is recorded. -/
def hasProcess (entry : Entry) : Bool :=
  entry.pid ≠ noProcess

/-- A channel or its handle is recorded. -/
def hasChannel (entry : Entry) : Bool :=
  entry.channel.isSome || entry.handle.isSome

/-- The path of the helper. -/
def helperPath (entry : Entry) : String :=
  entry.helper.getD ""

/-- The entry at another stage, with other options.  Stages never go back. -/
def advance (entry : Entry) (stage : Stage) (change : Revision → Revision) :
    Except Fault Entry :=
  if stage.rank < entry.stage.rank then
    .error (.value (entry.name ++ ": cannot go from " ++ entry.stage.word ++ " to " ++
      stage.word))
  else
    ofRevision { change entry.toRevision with stage }

end Entry

/-- The entries of one capture, in the order in which they were added. -/
structure Session where
  entries : List Entry
deriving DecidableEq, Repr

namespace Session

/-- Nothing was added yet. -/
def empty : Session := ⟨[]⟩

/-- How many entries there are. -/
def size (session : Session) : Nat :=
  session.entries.length

/-- Add an entry; its index is the number of entries before. -/
def add (session : Session) (entry : Entry) : Nat × Session :=
  (session.size, ⟨session.entries ++ [entry]⟩)

/-- Add an interface of the system. -/
def addNative (session : Session) (name : String) : Nat × Session :=
  session.add (.native name)

/-- Add an interface of a helper. -/
def addBacked (session : Session) (name helper : String) (arguments : CaptureArguments) :
    Except Fault Nat × Session :=
  match Entry.backed name helper arguments with
  | .ok entry => ((.ok session.size : Except Fault Nat), (session.add entry).2)
  | .error fault => (.error fault, session)

/-- The position of an index. -/
def position? (session : Session) (index : Int) : Option Nat :=
  if 0 ≤ index ∧ index.toNat < session.size then some index.toNat else none

/-- The entry at an index. -/
def get (session : Session) (index : Int) : Except Fault Entry :=
  match (session.position? index).bind fun position => session.entries[position]? with
  | some entry => .ok entry
  | none => .error (.missing index)

/-- Put another entry at an index that is taken. -/
def replace (session : Session) (index : Int) (entry : Entry) : Except Fault Unit × Session :=
  match session.position? index with
  | some position => (.ok (), ⟨session.entries.set position entry⟩)
  | none => (.error (.missing index), session)

/-- All entries with their indexes. -/
def items (session : Session) : List (Nat × Entry) :=
  session.entries.zipIdx.map fun item => (item.2, item.1)

/-- The entries whose frames a helper delivers, with their indexes. -/
def backedItems (session : Session) : List (Nat × Entry) :=
  session.items.filter fun item => item.2.isBacked

end Session

end ExtcapHost
