/-
Module: ExtcapHost.CommandLine.Display
Purpose: What the program shows to its operator.
Main exports:
  Display, errorDisplay, successDisplay, warningDisplay
-/

namespace ExtcapHost

/-- Something shown to the operator: a line with markup, a table, or a panel. -/
inductive Display where
  | line (markup : String)
  | table (title : String) (columns : List String) (rows : List (List String))
  | panel (title : String) (body : String)
deriving DecidableEq, Repr, Inhabited

/-- A failure. -/
def errorDisplay (message : String) : Display :=
  .line ("[red]Error:[/red] " ++ message)

/-- A success. -/
def successDisplay (message : String) : Display :=
  .line ("[green]✓[/green] " ++ message)

/-- A warning. -/
def warningDisplay (message : String) : Display :=
  .line ("[yellow]Warning:[/yellow] " ++ message)

end ExtcapHost
