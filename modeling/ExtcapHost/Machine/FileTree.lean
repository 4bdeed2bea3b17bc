/-
Module: ExtcapHost.Machine.FileTree
Purpose: Files, directories and links in memory.
Main exports:
  FileTree, WorkingDirectory, Purpose, Arrival, Trail, FileTree.walk,
  FileTree.leave, FileTree.find, FileTree.entries, FileTree.chmod,
  FileTree.readText
-/
import ExtcapHost.Fault
import ExtcapHost.Helper
import ExtcapHost.Machine.Node
import ExtcapHost.Text.Utf8

/-!
A path is walked name by name.  Every name but the last has to lead to a directory
in which names may be looked up; a link is walked in its place.  Whoever walks owns
every file except the directories above the working directory.  That directory may be
removed: it is then empty for good, though the way up from it stays.
-/

namespace ExtcapHost

/-- A tree of files, which is the directory at its root. -/
structure FileTree where
  root : Node
deriving Repr, Inhabited

/-- The directory that relative paths start from. -/
inductive WorkingDirectory where
  /-- It stands at its place. -/
  | present (place : Location)
  /-- It was removed from its place with the mode it had. -/
  | removed (place : Location) (mode : Nat)
deriving DecidableEq, Repr, Inhabited

/-- Where the working directory stands, or stood. -/
def WorkingDirectory.place : WorkingDirectory → Location
  | .present place => place
  | .removed place _ => place

/-- The path of the working directory, as long as it stands. -/
def WorkingDirectory.path : WorkingDirectory → Except Fault String
  | .present place => .ok place.render
  | .removed _ _ => .error (.system .noWorkingDirectory)

/-- What a path is walked for. -/
inductive Purpose where
  /-- To find what it leads to. -/
  | follow
  /-- To find what stands under its last name, be it a link. -/
  | keep
  /-- To find a file to be written, or a free place for a new one. -/
  | create
deriving DecidableEq, Repr, Inhabited

/-- Where a path leads. -/
inductive Arrival where
  /-- To something that exists.  Only a working directory that was removed has no
  place. -/
  | existing (place : Option Location) (node : Node)
  /-- To a free name in a directory that exists. -/
  | free (place : Location)
  /-- Nowhere. -/
  | nowhere
  /-- Through something that is not a directory. -/
  | blocked
  /-- Through a directory that may not be searched. -/
  | denied
  /-- Through too many links. -/
  | loop
  /-- To a name that no file can have. -/
  | tooLong
  /-- To a name with a slash behind it, which no new file can have. -/
  | slashed
deriving Repr, Inhabited

namespace Arrival

/-- Why a path that leads to nothing is refused. -/
def refusal (path : String) : Arrival → SystemError
  | .blocked => .notDirectory path
  | .denied => .permissionDenied path
  | .loop => .tooManyLinks path
  | .tooLong => .nameTooLong path
  | .slashed => .isDirectory path
  | _ => .noEntry path

/-- It is a regular file.  A path that leads nowhere is none; where directories may not be
searched or names are too long, that cannot be told. -/
def isFile (path : String) : Arrival → Except SystemError Bool
  | .existing _ node => .ok node.isRegular
  | .denied => .error (.permissionDenied path)
  | .tooLong => .error (.nameTooLong path)
  | _ => .ok false

/-- Its owner may execute it. -/
def mayExecute : Arrival → Bool
  | .existing _ node => node.permits .execute
  | _ => false

/-- A regular file that its owner may execute. -/
def isRunnable : Arrival → Bool
  | .existing _ node => node.isExecutable
  | _ => false

end Arrival

/-- The longest name of a file, in bytes. -/
def nameLimit : Nat := 255

/-- The longest path, in bytes. -/
def pathLimit : Nat := 4095

/-- How many links a path may lead through. -/
def linkLimit : Nat := 40

/-- A way down from the root: the names with what stands under each of them, the last
one first. -/
abbrev Trail := List (String × Node)

/-- Where a trail ends. -/
def Trail.place (trail : Trail) : Location :=
  (trail.map fun step => step.1).reverse

namespace FileTree

/-- There is only the root, which belongs to someone else. -/
def empty : FileTree := ⟨.directory 0o555 []⟩

/-- What stands at a place. -/
def node? (tree : FileTree) (place : Location) : Option Node :=
  tree.root.at? place

/-- Something else stands at a place. -/
def set (tree : FileTree) (place : Location) (node : Node) : FileTree :=
  ⟨tree.root.put node place⟩

/-- The owner has a permission for what stands at a place. -/
def permits (tree : FileTree) (place : Location) (permission : Permission) : Bool :=
  (tree.node? place).any fun node => node.permits permission

/-- What stands at the end of a trail. -/
def here (tree : FileTree) : Trail → Node
  | [] => tree.root
  | (_, node) :: _ => node

/-- Go on along names that are all there. -/
def descend (tree : FileTree) (trail : Trail) : Location → Option Trail
  | [] => some trail
  | name :: rest =>
      match Ordered.get? name (tree.here trail).entries with
      | some below => tree.descend ((name, below) :: trail) rest
      | none => none

/-- Walk on along names.  A link in the middle is followed; at the end it is kept if it
is asked for.  The number bounds the links. -/
def walk (tree : FileTree) (purpose : Purpose) (links : Nat) (trail : Trail)
    (names : List String) : Arrival :=
  match names with
  | [] => .existing (some trail.place) (tree.here trail)
  | name :: rest =>
      if name = "" then walk tree purpose links trail rest
      else if !(tree.here trail).permits .execute then .denied
      else if name = "." then walk tree purpose links trail rest
      else if name = ".." then walk tree purpose links trail.tail rest
      else if purpose = .create ∧ rest ≠ [] ∧ rest.all (· = "") then .slashed
      else if nameLimit < name.utf8ByteSize then .tooLong
      else
        match Ordered.get? name (tree.here trail).entries with
        | none => if rest.all (· = "") then .free (trail.place ++ [name]) else .nowhere
        | some (.directory mode entries) =>
            walk tree purpose links ((name, .directory mode entries) :: trail) rest
        | some (.link target) =>
            if rest = [] ∧ purpose = .keep then
              .existing (some (trail.place ++ [name])) (.link target)
            else
              match links with
              | 0 => .loop
              | links + 1 =>
                  walk tree purpose links (if target.startsWith "/" then [] else trail)
                    (pathNames target ++ rest)
        | some other =>
            if rest = [] then .existing (some (trail.place ++ [name])) other else .blocked
termination_by (links, names.length)

/-- Walk on along names from a place, if it is there. -/
def walkFrom (tree : FileTree) (purpose : Purpose) (place : Location) (names : List String) :
    Arrival :=
  match tree.descend [] place with
  | some trail => tree.walk purpose linkLimit trail names
  | none => .nowhere

/-- Walk along names from a directory that was removed.  It can only be left by the way
up. -/
def leave (tree : FileTree) (purpose : Purpose) (place : Location) (mode : Nat) :
    List String → Arrival
  | [] => .existing none (.directory mode [])
  | name :: rest =>
      if name = "" then tree.leave purpose place mode rest
      else if !(Node.directory mode []).permits .execute then .denied
      else if name = "." then tree.leave purpose place mode rest
      else if name = ".." then tree.walkFrom purpose place.dropLast rest
      else .nowhere

/-- Where a path leads, as seen from a directory. -/
def find (tree : FileTree) (purpose : Purpose) (directory : WorkingDirectory) (path : String) :
    Arrival :=
  if path = "" then .nowhere
  else if pathLimit < path.utf8ByteSize then .tooLong
  else if path.startsWith "/" then tree.walkFrom purpose [] (pathNames path)
  else
    match directory with
    | .present place => tree.walkFrom purpose place (pathNames path)
    | .removed place mode => tree.leave purpose place mode (pathNames path)

/-- The names in a directory. -/
def entries (tree : FileTree) (directory : WorkingDirectory) (path : String) :
    Except Fault (List String) :=
  if holdsZero path then .error zeroFault
  else
    match tree.find .follow directory path with
    | .existing _ node =>
        if !node.isDirectory then .error (.system (.notDirectory path))
        else if node.permits .read then .ok (node.entries.map fun entry => entry.1)
        else .error (.system (.permissionDenied path))
    | arrival => .error (.system (arrival.refusal path))

/-- Something stands on the way down to the working directory. -/
def isAbove (directory : WorkingDirectory) (place : Location) : Bool :=
  place.isPrefixOf directory.place.dropLast

/-- Change the mode of a file or directory.  What was removed is not in the tree. -/
def chmod (tree : FileTree) (directory : WorkingDirectory) (path : String) (mode : Nat) :
    Except Fault FileTree :=
  if holdsZero path then .error zeroFault
  else
    match tree.find .follow directory path with
    | .existing (some place) node =>
        if isAbove directory place then .error (.system (.permissionDenied path))
        else .ok (tree.set place (node.withMode mode))
    | .existing none _ => .ok tree
    | arrival => .error (.system (arrival.refusal path))

/-- The text of a file, if a path leads to one.  Line ends are unified. -/
def readText (tree : FileTree) (directory : WorkingDirectory) (path : String) :
    Except Fault (Option String) :=
  let path := normalizePath path
  if holdsZero path then .ok none
  else
    match tree.find .follow directory path with
    | .existing _ node =>
        if !node.isRegular then .ok none
        else if !node.permits .read then .error (.system (.permissionDenied path))
        else
          match node with
          | .file text _ => .ok (some (String.ofList (Text.unifyLineEnds text.toList)))
          | _ => .ok none
    | .tooLong => .error (.system (.nameTooLong path))
    | .denied => .error (.system (.permissionDenied path))
    | _ => .ok none

end FileTree

end ExtcapHost
