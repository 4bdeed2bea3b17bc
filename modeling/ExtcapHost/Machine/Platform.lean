/-
Module: ExtcapHost.Machine.Platform
Purpose: A machine in memory as the program sees it.
Main exports:
  Machine.initial, Machine.nap, Machine.platform
-/
import ExtcapHost.CommandLine.Platform
import ExtcapHost.Machine.Basic
import ExtcapHost.Machine.RealPath
import ExtcapHost.Machine.Saving

namespace ExtcapHost.Machine

/-- A machine without files and processes, on which nothing fails. -/
def initial (workingDirectory : String) : Machine where
  tree := FileTree.empty.set (.ofPath workingDirectory) .emptyDirectory
  directory := .present (.ofPath workingDirectory)
  helperCalls := []
  stamp := "20240102030405"
  tokens := 0
  temporaryDirectories := ["/tmp"]
  present := []
  reservations := 0
  reservedFileStays := true
  failures := []
  hasPipes := true
  prefersPipes := false
  pipes := 0
  wordDepth := 985
  processes := .planned []
  channelPlan := []
  releasePlan := []
  events := []
  naps := 0
  clock := .zero
  exitPlan := []
  interruptedNap := 50

/-- The seconds of one wait. -/
def napLength : Binary64 :=
  .ofDecimal false 2 (-1)

/-- The processes end that are planned to end in this wait. -/
def endPlanned (machine : Machine) : Machine :=
  { machine with
    processes :=
      (machine.exitPlan.filter fun plan => plan.1 = machine.naps).foldl
        (fun processes plan => processes.finish plan.2.1 plan.2.2) machine.processes }

/-- Wait. -/
def nap (machine : Machine) : Machine :=
  endPlanned
    { machine with naps := machine.naps + 1, clock := machine.clock.add napLength }

/-- The text of a settings file.  What leads nowhere is not there; a directory, and
what may not be read or not even looked up, is refused. -/
def settingsText (machine : Machine) (path : String) : Except Fault (Option String) :=
  let path := normalizePath path
  if holdsZero path then .ok none
  else
    match machine.tree.find .follow machine.directory path with
    | .existing _ node =>
        if !node.permits .read then .error (.system (.permissionDenied path))
        else
          match node with
          | .directory _ _ => .error (.system (.isDirectory path))
          | .file text _ => .ok (some text)
          | _ => .ok (some "#!")
    | .tooLong => .error (.system (.nameTooLong path))
    | .denied => .error (.system (.permissionDenied path))
    | _ => .ok none

/-- The absolute path without links.  A path that leads back to itself has none. -/
def realPath (machine : Machine) (path : String) : Except Fault String :=
  if holdsZero path then .error zeroFault
  else
    match machine.tree.realPath machine.directory path with
    | .error fault => .error fault
    | .ok path =>
        match machine.tree.find .follow machine.directory path with
        | .loop => .error (.runtime ("Symlink loop from " ++ Text.quoteString path))
        | _ => .ok path

/-- What a path leads to. -/
def standing (machine : Machine) (path : String) : Standing :=
  match machine.tree.find .follow machine.directory path with
  | .existing _ node =>
      if !node.permits .read then .unreadable
      else if node.isRegular then .file
      else .directory
  | _ => .absent

/-- Save a text in a file. -/
def save (path text : String) (machine : Machine) : Except Fault Unit × Machine :=
  let (saved, tree) := machine.tree.save machine.directory path text
  (saved, { machine with tree })

/-- The machine as the program sees it.  Its console shows whatever it is given. -/
def platform (machine : Machine) : Platform Machine where
  helpers := machine.helperHost
  kernel := kernel
  channels := machine.channelCalls
  settingsText := settingsText
  realPath := realPath
  standing := standing
  save := save
  now machine := machine.clock
  nap := nap
  patience machine := machine.interruptedNap - 1 - machine.naps
  consoleFault _ _ _ := none

end ExtcapHost.Machine
