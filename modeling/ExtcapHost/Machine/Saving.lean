/-
Module: ExtcapHost.Machine.Saving
Purpose: Writing text into a file, and making the directories above it.
Main exports:
  FileTree.makeDirectory, FileTree.ensure, FileTree.write, FileTree.save
-/
import ExtcapHost.Machine.FileTree

/-!
The directories above a file are made from the inside out: only where a directory
cannot be made because the one above it is missing is that one made first.  What was
made stays, even if the file cannot be written in the end.
-/

namespace ExtcapHost.FileTree

/-- Make a directory whose name is free. -/
def makeDirectory (tree : FileTree) (directory : WorkingDirectory) (path : String) :
    Except SystemError FileTree :=
  match tree.find .keep directory path with
  | .free place =>
      if tree.permits place.dropLast .write then .ok (tree.set place .emptyDirectory)
      else .error (.permissionDenied path)
  | .existing _ _ => .error (.alreadyExists path)
  | arrival => .error (arrival.refusal path)

/-- A directory that could not be made may be there already.  If that cannot be told,
the reason is told instead. -/
def settle (tree : FileTree) (directory : WorkingDirectory) (path : String) (error : SystemError) :
    Except Fault Unit :=
  match tree.find .follow directory path with
  | .existing _ (.directory _ _) => .ok ()
  | .tooLong => .error (.system (.nameTooLong path))
  | .denied => .error (.system (.permissionDenied path))
  | _ => .error (.system error)

/-- How many directories above one another are tried. -/
def makingDepth : Nat := 983

/-- Make sure that a directory is there.  Its names are given from the last one up, and
the number bounds the directories that are tried. -/
def ensure (tree : FileTree) (directory : WorkingDirectory) (slashes : Nat) :
    Nat → List (List Char) → Except Fault Unit × FileTree
  | 0, _ => (.error .tooDeep, tree)
  | _ + 1, [] =>
      let path := String.ofList (Path.mk slashes []).render
      match tree.makeDirectory directory path with
      | .ok tree => (.ok (), tree)
      | .error error => (tree.settle directory path error, tree)
  | depth + 1, name :: above =>
      let path := String.ofList (Path.mk slashes (name :: above).reverse).render
      match tree.makeDirectory directory path with
      | .ok tree => (.ok (), tree)
      | .error error =>
          if error.isNoEntry then
            match tree.ensure directory slashes depth above with
            | (.error fault, tree) => (.error fault, tree)
            | (.ok _, tree) =>
                match tree.makeDirectory directory path with
                | .ok tree => (.ok (), tree)
                | .error error =>
                    if error.isNoEntry then (.error (.system error), tree)
                    else (tree.settle directory path error, tree)
          else
            (tree.settle directory path error, tree)

/-- Write a file.  One that is there keeps its mode. -/
def write (tree : FileTree) (directory : WorkingDirectory) (path : String) (file : Node) :
    Except SystemError FileTree :=
  match tree.find .create directory path with
  | .free place =>
      if tree.permits place.dropLast .write then .ok (tree.set place (file.withMode fileMode))
      else .error (.permissionDenied path)
  | .existing _ (.directory _ _) => .error (.isDirectory path)
  | .existing (some place) node =>
      if node.permits .write then .ok (tree.set place (file.withMode node.mode))
      else .error (.permissionDenied path)
  | arrival => .error (arrival.refusal path)

/-- Save a text under a path.  Errors name the normal form of the path, or that of a
directory above it. -/
def save (tree : FileTree) (directory : WorkingDirectory) (path text : String) :
    Except Fault Unit × FileTree :=
  if holdsZero path then (.error zeroFault, tree)
  else
    let parsed := Path.parse path.toList
    match tree.ensure directory parsed.slashes makingDepth (parsed.names.reverse.drop 1) with
    | (.error fault, tree) => (.error fault, tree)
    | (.ok _, tree) =>
        match tree.write directory (normalizePath path) (.file text fileMode) with
        | .error error => (.error (.system error), tree)
        | .ok tree => ((.ok () : Except Fault Unit), tree)

end ExtcapHost.FileTree
