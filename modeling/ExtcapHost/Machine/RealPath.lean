/-
Module: ExtcapHost.Machine.RealPath
Purpose: Paths without links.
Main exports:
  Route, Errand, nestedLinkLimit, FileTree.resolve, FileTree.realPath
-/
import ExtcapHost.Machine.FileTree

/-!
A path is resolved name by name.  When a name is that of a link, the names of its
target come first; once they are done, the route to which they led is remembered for
the link.  A link that comes up again while its own target is under way leads back to
itself: then the rest of the path is taken as it is written.  Unlike a walk, this
follows any number of links one after the other, and names of what does not exist are
taken as they are.
-/

namespace ExtcapHost

/-- How far a path has been followed.  One that did not begin at the root is not the
same as one that did, even where both have come to the same place. -/
structure Route where
  fromRoot : Bool
  place : Location
deriving DecidableEq, Repr, Inhabited

/-- What is still to be done for a path. -/
inductive Errand where
  /-- Go on by a name, as it is written. -/
  | name (text : String)
  /-- Remember the route for a link whose target is done. -/
  | remember (link : Route)
deriving DecidableEq, Repr, Inhabited

namespace Route

/-- The route one name further. -/
def down (route : Route) (name : String) : Route :=
  { route with place := route.place ++ [name] }

/-- The route one name back. -/
def up (route : Route) : Route :=
  { route with place := route.place.dropLast }

/-- Where a path begins, as seen from a directory.  A relative path begins nowhere if
that directory was removed. -/
def start (directory : WorkingDirectory) (path : String) : Except Fault Route :=
  if path.startsWith "/" then .ok ⟨true, []⟩
  else directory.path.map fun _ => ⟨false, directory.place⟩

/-- Where a path begins that is met on a route. -/
def toward (route : Route) (path : String) : Route :=
  if path.startsWith "/" then ⟨true, []⟩ else route

end Route

namespace Errand

/-- The errands of a path. -/
def ofPath (path : String) : List Errand :=
  (pathPieces path).map .name

/-- How many links are under way. -/
def pending (errands : List Errand) : Nat :=
  errands.countP fun errand =>
    match errand with
    | .remember _ => true
    | .name _ => false

/-- The rows of names that are left, one for each path under way. -/
def rows : List Errand → List (List String)
  | [] => [[]]
  | .remember _ :: rest => [] :: rows rest
  | .name text :: rest =>
      match rows rest with
      | [] => [[text]]
      | row :: more => (text :: row) :: more

/-- The path that takes the rows of names as they are written. -/
def asWritten (path : String) (errands : List Errand) : String :=
  (rows errands).foldl (fun path row => joinPath path ("/".intercalate row)) path

end Errand

/-- How many links may be under way at once, each met on the way of another. -/
def nestedLinkLimit : Nat := 979

namespace FileTree

/-- The target of the link at a place. -/
def linkAt? (tree : FileTree) (place : Location) : Option String :=
  match tree.walk .keep 0 [] place with
  | .existing _ (.link target) => some target
  | _ => none

/-- Do the errands of a path.  The number bounds the links that are entered; of each
link that was entered it is known where it led, unless that is still under way.  A path
that nests more links than the limit is too deep. -/
def resolve (tree : FileTree) (links : Nat) (known : List (Route × Option Route))
    (route : Route) (errands : List Errand) : Except Fault String :=
  match errands with
  | [] => .ok route.place.render
  | .remember link :: rest =>
      resolve tree links (Ordered.put link (some route) known) route rest
  | .name name :: rest =>
      if name = "" ∨ name = "." then resolve tree links known route rest
      else if name = ".." then resolve tree links known route.up rest
      else
        let next := route.down name
        match tree.linkAt? next.place, Ordered.get? next known, links with
        | some _, some (some found), links => resolve tree links known found rest
        | some _, some none, _ =>
            .ok (absolutePath "/" (Errand.asWritten next.place.render rest))
        | some target, none, links + 1 =>
            if nestedLinkLimit ≤ Errand.pending rest then
              .error .tooDeep
            else
              resolve tree links (Ordered.put next none known) (route.toward target)
                (Errand.ofPath target ++ .remember next :: rest)
        | _, _, links => resolve tree links known next rest
termination_by (links, errands.length)

/-- The absolute path without links, as seen from a directory.  Every link can be
entered by two routes. -/
def realPath (tree : FileTree) (directory : WorkingDirectory) (path : String) :
    Except Fault String :=
  let path := normalizePath path
  match Route.start directory path with
  | .error fault => .error fault
  | .ok route => tree.resolve (2 * tree.root.size) [] route (Errand.ofPath path)

end FileTree

end ExtcapHost
