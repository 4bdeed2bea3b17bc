/-
Module: ExtcapHost.Machine.Layout
Purpose: Files, directories and links put into place.
Main exports:
  pathsUp, FileTree.makeOne, FileTree.makeAll, FileTree.makeLink, FileTree.lay
-/
import ExtcapHost.Machine.Saving

/-!
What is laid out gets the directories above it first, from the outside in.  A file
takes the place of one that is there and gets a mode of its own; a link needs a free
name.
-/

namespace ExtcapHost

/-- The paths of a row of pieces and of what is above, the longest first.  The pieces
are given from the last one up. -/
def pathsUp : List String → List String
  | [] => []
  | piece :: above =>
      if piece = "" then pathsUp above
      else "/".intercalate (piece :: above).reverse :: pathsUp above

namespace FileTree

/-- A path leads to something of a kind. -/
def leadsTo (tree : FileTree) (directory : WorkingDirectory) (path : String)
    (kind : Node → Bool) : Bool :=
  match tree.find .follow directory path with
  | .existing _ node => kind node
  | _ => false

/-- Make a directory, unless one is there already. -/
def makeOne (tree : FileTree) (directory : WorkingDirectory) (path : String) :
    Except Fault FileTree :=
  if holdsZero path then .error zeroFault
  else
    match tree.makeDirectory directory path with
    | .ok tree => .ok tree
    | .error error =>
        if tree.leadsTo directory path Node.isDirectory then .ok tree
        else .error (.system error)

/-- Make sure that the first one of some directories is there; each of the others is
above the one before it.  That something is already there above does not count as a
failure, and a dot below what had to be made is not made itself.  The number bounds the
directories that are tried. -/
def makeAll (tree : FileTree) (directory : WorkingDirectory) :
    Nat → List String → Except Fault Unit × FileTree
  | _, [] => (.ok (), tree)
  | 0, _ => (.error .tooDeep, tree)
  | depth + 1, path :: above =>
      let ended (tree : FileTree) : Except Fault Unit × FileTree :=
        match tree.makeOne directory path with
        | .ok tree => (.ok (), tree)
        | .error fault => (.error fault, tree)
      if above.head?.all fun path => tree.leadsTo directory path fun _ => true then ended tree
      else
        let (made, tree) := tree.makeAll directory depth above
        let refused : Option Fault :=
          match made with
          | .ok _ => none
          | .error (.system error) =>
              if error.isAlreadyThere then none else some (.system error)
          | .error fault => some fault
        match refused with
        | some fault => (.error fault, tree)
        | none => if (namesUp path).head? = some "." then (.ok (), tree) else ended tree

/-- How many directories above one another are laid out. -/
def layoutDepth : Nat := 991

/-- Make a link under a free name.  Errors name the target as well. -/
def makeLink (tree : FileTree) (directory : WorkingDirectory) (path target : String) :
    Except Fault FileTree :=
  if holdsZero target || holdsZero path then .error zeroFault
  else
    let refuse (error : SystemError) : Except Fault FileTree :=
      .error (.system { error with files := target :: error.files })
    if target = "" then refuse (.noEntry path)
    else if pathLimit < target.utf8ByteSize then refuse (.nameTooLong path)
    else
      match tree.find .keep directory path with
      | .free place =>
          if tree.permits place.dropLast .write then .ok (tree.set place (.link target))
          else refuse (.permissionDenied path)
      | .existing _ _ => refuse (.alreadyExists path)
      | arrival => refuse (arrival.refusal path)

/-- Put a file into place, with its own mode. -/
def layFile (tree : FileTree) (directory : WorkingDirectory) (path : String) (file : Node) :
    Except Fault FileTree :=
  if holdsZero path then .error zeroFault
  else
    match tree.write directory path file with
    | .error error => .error (.system error)
    | .ok tree => tree.chmod directory path file.mode

/-- Put something into place.  The directories that were made stay, even if it cannot
be put there in the end. -/
def lay (tree : FileTree) (directory : WorkingDirectory) (path : String) (node : Node) :
    Except Fault Unit × FileTree :=
  match tree.makeAll directory layoutDepth (pathsUp ((pathPieces path).reverse.drop 1)) with
  | (.error fault, tree) => (.error fault, tree)
  | (.ok _, tree) =>
      let ended (laid : Except Fault FileTree) : Except Fault Unit × FileTree :=
        match laid with
        | .ok tree => (.ok (), tree)
        | .error fault => (.error fault, tree)
      match node with
      | .directory _ _ =>
          tree.makeAll directory layoutDepth (path :: pathsUp ((namesUp path).drop 1))
      | .link target => ended (tree.makeLink directory path target)
      | file => ended (tree.layFile directory path file)

end FileTree

end ExtcapHost
