/-
Module: ExtcapHost.Main
Purpose: The program on the command line.
Main exports:
  main
-/
import ExtcapHost.CommandLine.Program
import ExtcapHost.CommandLine.Rendering
import ExtcapHost.Machine.Platform
import ExtcapHost.Machine.Upkeep

/-!
A command runs on a machine in memory that holds the operator's settings file.
Helper programs are not started from here, so a directory that is not in memory is
reported as missing.
-/

namespace ExtcapHost

/-- The text of a file, or nothing if it cannot be read. -/
def readText (path : String) : IO (Option String) :=
  try
    return some (← IO.FS.readFile path)
  catch _ =>
    return none

/-- The variables of the environment that matter, as far as they are set. -/
def readVariables : IO (List (String × String)) := do
  let mut found := []
  for name in ["NETEXTCAP_CONFIG", "NETEXTCAP_HELPER_DIR"] do
    if let some value ← IO.getEnv name then
      found := found ++ [(name, value)]
  return found

/-- What the program finds when it is started. -/
def readSurroundings : IO Surroundings := do
  return {
    home := (← IO.getEnv "HOME").getD "/"
    temporary := (← IO.getEnv "TMPDIR").getD "/tmp"
    environment := ← readVariables }

/-- A machine that holds the settings file. -/
def readMachine (surroundings : Surroundings) : IO Machine := do
  let directory := (← IO.getEnv "PWD").getD "/"
  let machine := Machine.initial directory
  let name := settingsFile surroundings
  match ← readText name with
  | none => return machine
  | some text => return (machine.lay name (.file text fileMode)).2

/-- Print what a command showed, wrote and told. -/
def report {σ : Type} (result : Result σ) : IO UInt32 := do
  IO.print result.written
  for display in result.stand.shown do
    for line in display.lines do
      IO.println line
  for note in result.stand.journal do
    IO.eprintln note.line
  match result.ending with
  | .exit status => return status.toUInt32
  | .escaped fault =>
      IO.eprintln fault.text
      return 1

end ExtcapHost

open ExtcapHost in
/-- Run the program on the words after its name. -/
def main (words : List String) : IO UInt32 := do
  let surroundings ← readSurroundings
  let machine ← readMachine surroundings
  report (run machine.platform surroundings .fresh words machine)
