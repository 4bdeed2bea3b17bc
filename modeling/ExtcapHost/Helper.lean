/-
Module: ExtcapHost.Helper
Purpose: Finding helper programs and running them to their end.
Main exports:
  HelperHost, HelperHost.absolute, HelperHost.isExecutable, listHelpers, runHelper
-/
import ExtcapHost.Fault
import ExtcapHost.Path
import ExtcapHost.Text.Utf8

namespace ExtcapHost

/-- A helper to be run in its own directory. -/
structure Invocation where
  helper : String
  directory : String
  arguments : List String
deriving DecidableEq, Repr, Inhabited

/-- What a helper left when it ended: its exit status, negative for a signal,
and what it wrote. -/
structure Finished where
  status : Int
  output : List UInt8
deriving DecidableEq, Repr, Inhabited

/-- The machine on which helpers are found and run. -/
structure HelperHost (σ : Type) where
  /-- The path of the directory that relative paths start from.  There is none once
  that directory is gone. -/
  workingDirectory : Except Fault String
  /-- The names in a directory, in any order. -/
  entries : σ → String → Except Fault (List String)
  /-- Whether a path leads to a regular file.  The system may refuse to tell. -/
  isFile : σ → String → Except SystemError Bool
  /-- Whether the user may execute what a path leads to.  The system may refuse to tell. -/
  mayExecute : σ → String → Except SystemError Bool
  /-- Run a helper to its end. -/
  run : Invocation → σ → Except Fault Finished × σ

variable {σ : Type}

/-- The absolute form of a path.  Only a path that does not begin with a slash needs
the working directory. -/
def HelperHost.absolute (host : HelperHost σ) (path : String) : Except Fault String :=
  if path.toList.head? = some '/' then .ok (absolutePath "/" path)
  else host.workingDirectory.map fun directory => absolutePath directory path

/-- A path leads to a regular file that the user may execute.  What the system refuses to
tell does not count. -/
def HelperHost.isExecutable (host : HelperHost σ) (machine : σ) (path : String) : Bool :=
  let checked : Except SystemError Bool := do
    if ← host.isFile machine path then host.mayExecute machine path else return false
  match checked with
  | .ok executable => executable
  | .error _ => false

/-- Names in their order. -/
def sortNames (names : List String) : List String :=
  names.mergeSort fun one two => decide (one ≤ two)

/-- The paths of the helpers in a directory, in the order of their names: those of its
entries that can be executed.  A directory that cannot be read has none. -/
def listHelpers (host : HelperHost σ) (directory : String) (machine : σ) :
    Except Fault (List String) :=
  match host.entries machine directory with
  | .ok names =>
      let paths := (sortNames names).map fun name => normalizePath (joinPath directory name)
      .ok (paths.filter fun path => host.isExecutable machine path)
  | .error (.system _) => .ok []
  | .error fault => .error fault

/-- Run a helper in its own directory and read what it wrote.  A helper that
cannot be started, or whose status is not zero, is a failed probe; one whose path
cannot be told is not run. -/
def runHelper (host : HelperHost σ) (helper : String) (arguments : List String) (machine : σ) :
    Except Fault String × σ :=
  match host.absolute helper with
  | .error fault => (.error fault, machine)
  | .ok path =>
      match host.run ⟨path, directoryPath path, arguments⟩ machine with
      | (.ok finished, machine) =>
          if finished.status = 0 then
            (.ok (Text.decodeOutput finished.output), machine)
          else
            (.error (.host (.probe path
              (some ("exited with status " ++
                String.ofList (Text.writeInteger finished.status))))),
              machine)
      | (.error (.system error), machine) =>
          (.error (.host (.probe path (some error.text))), machine)
      | (.error fault, machine) => (.error fault, machine)

end ExtcapHost
