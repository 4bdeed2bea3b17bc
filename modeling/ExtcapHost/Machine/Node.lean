/-
Module: ExtcapHost.Machine.Node
Purpose: What stands under a name in a tree of files.
Main exports:
  Permission, modeOf?, Node, Node.permits, Node.isRegular, Location, Node.at?,
  Node.put, Node.erase, Node.size
-/
import ExtcapHost.Machine.Script
import ExtcapHost.Ordered
import ExtcapHost.Path
import ExtcapHost.Text.Integer

namespace ExtcapHost

/-- What the owner of a file may do with it.  To execute a directory is to look up
names in it. -/
inductive Permission where
  | read
  | write
  | execute
deriving DecidableEq, Repr, Inhabited

/-- The bit of a mode that grants a permission to the owner. -/
def Permission.bit : Permission → Nat
  | .read => 0o400
  | .write => 0o200
  | .execute => 0o100

/-- The mode that octal digits write.  Blanks may stand around them, and `0o` in
front of them. -/
def modeOf? (text : String) : Option Nat :=
  let numeral :=
    match Text.trim text.toList with
    | '0' :: 'o' :: rest => rest
    | '0' :: 'O' :: rest => rest
    | rest => rest
  match Text.digits? numeral with
  | some digits =>
      if digits.all (· < 8) then some (digits.foldl (fun mode digit => 8 * mode + digit) 0)
      else none
  | none => none

/-- What stands under a name.  The entries of a directory are in the order in which
they were made. -/
inductive Node where
  | directory (mode : Nat) (entries : List (String × Node))
  | file (text : String) (mode : Nat)
  | program (script : Script) (mode : Nat)
  | link (target : String)
deriving Repr, Inhabited

namespace Node

/-- The mode of a node.  A link grants everything. -/
def mode : Node → Nat
  | .directory mode _ => mode
  | .file _ mode => mode
  | .program _ mode => mode
  | .link _ => 0o777

/-- The node with another mode.  A link keeps its own. -/
def withMode (mode : Nat) : Node → Node
  | .directory _ entries => .directory mode entries
  | .file text _ => .file text mode
  | .program script _ => .program script mode
  | .link target => .link target

/-- The owner has a permission. -/
def permits (node : Node) (permission : Permission) : Bool :=
  node.mode &&& permission.bit ≠ 0

/-- The node is a regular file. -/
def isRegular : Node → Bool
  | .file _ _ => true
  | .program _ _ => true
  | _ => false

/-- The node is a regular file that its owner may execute. -/
def isExecutable (node : Node) : Bool :=
  node.isRegular && node.permits .execute

/-- The node is a directory. -/
def isDirectory : Node → Bool
  | .directory _ _ => true
  | _ => false

/-- What stands in a directory.  Nothing stands in anything else. -/
def entries : Node → List (String × Node)
  | .directory _ entries => entries
  | _ => []

end Node

/-- The mode of a directory that is made. -/
def directoryMode : Nat := 0o755

/-- The mode of a file that is made. -/
def fileMode : Nat := 0o644

/-- The names from the root down to a place. -/
abbrev Location := List String

namespace Node

/-- A new directory. -/
def emptyDirectory : Node :=
  .directory directoryMode []

/-- What stands at a place below a node. -/
def at? (here : Node) : Location → Option Node
  | [] => some here
  | name :: rest =>
      match Ordered.get? name here.entries with
      | some below => below.at? rest
      | none => none

/-- Put something at a place below a node, and the directories above it where they
are missing.  Nothing can be put below what is not a directory. -/
def put (here node : Node) : Location → Node
  | [] => node
  | name :: rest =>
      match here with
      | .directory mode entries =>
          let below := (Ordered.get? name entries).getD emptyDirectory
          .directory mode (Ordered.put name (below.put node rest) entries)
      | other => other

/-- Take away what stands at a place below a node. -/
def erase (here : Node) : Location → Node
  | [] => here
  | name :: rest =>
      match here, Ordered.get? name here.entries with
      | .directory mode entries, some below =>
          if rest = [] then .directory mode (Ordered.erase name entries)
          else .directory mode (Ordered.put name (below.erase rest) entries)
      | other, _ => other

mutual

/-- How many nodes there are in all. -/
def size : Node → Nat
  | .directory _ entries => sizeOfEntries entries + 1
  | .file _ _ => 1
  | .program _ _ => 1
  | .link _ => 1

/-- How many nodes there are in all under a row of names. -/
def sizeOfEntries : List (String × Node) → Nat
  | [] => 0
  | (_, node) :: rest => node.size + sizeOfEntries rest

end

end Node

/-- The path of a place. -/
def Location.render (place : Location) : String :=
  "/" ++ "/".intercalate place

/-- The pieces of a path between its slashes, empty ones included. -/
def pathPieces (path : String) : List String :=
  (Path.pieces path.toList).map String.ofList

/-- The place that the names of a path lead to, one after the other. -/
def Location.ofPath (path : String) : Location :=
  (pathPieces path).filter (· ≠ "")

/-- The pieces of a path from its last name up, without the slashes at its end. -/
def namesUp (path : String) : List String :=
  (pathPieces path).reverse.dropWhile (· = "")

/-- The names of a path in order.  A slash at the end leaves an empty name there. -/
def pathNames (path : String) : List String :=
  let pieces := pathPieces path
  pieces.filter (· ≠ "") ++ if pieces.getLast? = some "" then [""] else []

end ExtcapHost
