/-
Module: ExtcapHost.Machine.Upkeep
Purpose: What others do to the files of a machine.
Main exports:
  WorkingDirectory.after, Machine.lay, Machine.remove, Machine.chmod
-/
import ExtcapHost.Machine.Basic
import ExtcapHost.Machine.Layout
import ExtcapHost.Machine.Removal

/-!
Files are put into place, removed and given modes while a program stands in its working
directory.  When that directory is removed, the program stays in what is left of it:
something new at the same place is another directory.
-/

namespace ExtcapHost

/-- The working directory once a tree has become another. -/
def WorkingDirectory.after (directory : WorkingDirectory) (old new : FileTree) :
    WorkingDirectory :=
  match directory with
  | .removed place mode => .removed place mode
  | .present place =>
      match old.node? place, new.node? place with
      | some node, none => .removed place node.mode
      | _, _ => .present place

namespace Machine

/-- Put something into place. -/
def lay (path : String) (node : Node) (machine : Machine) : Except Fault Unit × Machine :=
  let (laid, tree) := machine.tree.lay machine.directory path node
  (laid, { machine with tree })

/-- Remove what stands under a path. -/
def remove (path : String) (machine : Machine) : Except Fault Unit × Machine :=
  let (removed, tree) := machine.tree.remove machine.directory path
  (removed, { machine with tree, directory := machine.directory.after machine.tree tree })

/-- Change the mode of what stands under a path, also that of a working directory that
was removed. -/
def chmod (path : String) (mode : Nat) (machine : Machine) : Except Fault Unit × Machine :=
  match machine.tree.chmod machine.directory path mode with
  | .error fault => (.error fault, machine)
  | .ok tree =>
      let directory :=
        match machine.tree.find .follow machine.directory path with
        | .existing none _ => .removed machine.directory.place mode
        | _ => machine.directory
      (.ok (), { machine with tree, directory })

end Machine

end ExtcapHost
