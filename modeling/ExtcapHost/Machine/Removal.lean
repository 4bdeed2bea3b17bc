/-
Module: ExtcapHost.Machine.Removal
Purpose: Removing files, and directories with all that is in them.
Main exports:
  Node.clear, FileTree.remove
-/
import ExtcapHost.Machine.FileTree

/-!
A directory is removed entry by entry, each one after what is in it.  The first entry
that may not be removed ends the removal; what is gone by then stays away.
-/

namespace ExtcapHost

namespace Node

mutual

/-- What is left of a node when all that is in it is removed as far as possible. -/
def clear : Node → Node
  | .directory mode entries => .directory mode (clearEntries mode entries)
  | .file text mode => .file text mode
  | .program script mode => .program script mode
  | .link target => .link target

/-- What is left of the entries of a directory that is opened.  To remove an entry takes
the permissions to write and to search; to open a directory takes that to read it. -/
def clearEntries (mode : Nat) : List (String × Node) → List (String × Node)
  | [] => []
  | (name, .directory inner entries) :: rest =>
      let here : Node := .directory mode []
      let below : Node := .directory inner (clearEntries inner entries)
      if !(here.permits .execute && below.permits .read) then
        (name, .directory inner entries) :: rest
      else if below.entries = [] ∧ here.permits .write then clearEntries mode rest
      else (name, below) :: rest
  | (name, other) :: rest =>
      let here : Node := .directory mode []
      if here.permits .execute && here.permits .write then clearEntries mode rest
      else (name, other) :: rest

end

end Node

namespace FileTree

/-- What stands under the last name of a path, whatever slashes are behind it. -/
def findNamed (tree : FileTree) (directory : WorkingDirectory) (path : String) : Arrival :=
  tree.find .keep directory ("/".intercalate (namesUp path).reverse)

/-- Remove what stands under a name that is not that of a directory.  A slash behind the
name asks for one. -/
def removeFile (tree : FileTree) (directory : WorkingDirectory) (path : String) :
    Except SystemError FileTree :=
  match tree.findNamed directory path with
  | .existing (some place) _ =>
      if path.endsWith "/" then .error (.notDirectory path)
      else if tree.permits place.dropLast .write then .ok ⟨tree.root.erase place⟩
      else .error (.permissionDenied path)
  | arrival => .error (arrival.refusal path)

/-- Remove a directory that is empty.  The path has to end with its name. -/
def removeDirectory (tree : FileTree) (directory : WorkingDirectory) (path : String) :
    Except SystemError FileTree :=
  match tree.findNamed directory path with
  | .existing place? node =>
      if (namesUp path).head? = some "." then .error (.invalidArgument path)
      else if (namesUp path).head? = some ".." then .error (.notEmpty path)
      else if !node.isDirectory then .error (.notDirectory path)
      else
        match place? with
        | none => .error (.noEntry path)
        | some place =>
            if tree.permits place.dropLast .write then .ok ⟨tree.root.erase place⟩
            else .error (.permissionDenied path)
  | arrival => .error (arrival.refusal path)

/-- Remove what stands under a path, and with a directory all that is in it. -/
def remove (tree : FileTree) (directory : WorkingDirectory) (path : String) :
    Except Fault Unit × FileTree :=
  if holdsZero path then (.error zeroFault, tree)
  else
    let ended (tree : FileTree) (removed : Except SystemError FileTree) :
        Except Fault Unit × FileTree :=
      match removed with
      | .ok tree => (.ok (), tree)
      | .error error => (.error (.system error), tree)
    match tree.find .keep directory path, tree.find .follow directory path with
    | .existing _ (.link _), _ => ended tree (tree.removeFile directory path)
    | _, .existing (some place) (.directory mode entries) =>
        let opened : Node := .directory mode entries
        if !opened.permits .read then ended tree (.error (.permissionDenied path))
        else
          let left := opened.clear
          let tree := tree.set place left
          if left.entries = [] then ended tree (tree.removeDirectory directory path)
          else ended tree (.error (.permissionDenied path))
    | _, _ => ended tree (tree.removeFile directory path)

end FileTree

end ExtcapHost
