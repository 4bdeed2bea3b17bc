/-
Module: ExtcapHost.Path
Purpose: File paths: normal form, parts, and absolute paths.
Main exports:
  Path, Path.parse, Path.render, Path.absolute, normalizePath, joinPath,
  absolutePath, directoryPath, baseName
-/
import ExtcapHost.Text.Letter

namespace ExtcapHost

open Text

/-- A path as its leading slashes and the names between slashes. -/
structure Path (α : Type) where
  slashes : Nat
  names : List (List α)
deriving DecidableEq, Repr

namespace Path

variable {α : Type} [DecidableEq α] [Spelling α]

/-- The slash between names. -/
def slash : α := Spelling.ofChar '/'

/-- The name of the present directory. -/
def here : List α := [Spelling.ofChar '.']

/-- The name of the directory above. -/
def up : List α := [Spelling.ofChar '.', Spelling.ofChar '.']

/-- The pieces between slashes, empty ones included. -/
def pieces : List α → List (List α)
  | [] => [[]]
  | c :: rest =>
      if c = slash then [] :: pieces rest
      else
        match pieces rest with
        | [] => [[c]]
        | piece :: more => (c :: piece) :: more

/-- Names joined by slashes. -/
def joinNames : List (List α) → List α
  | [] => []
  | [name] => name
  | name :: rest => name ++ slash :: joinNames rest

/-- How many slashes a path keeps in front: two if it begins with exactly two,
one if it begins with any other number of them. -/
def leadingSlashes (text : List α) : Nat :=
  match (text.takeWhile (· = slash)).length with
  | 0 => 0
  | 2 => 2
  | _ => 1

/-- Read a path.  Repeated slashes and names of the present directory vanish;
names of the directory above stay. -/
def parse (text : List α) : Path α where
  slashes := leadingSlashes text
  names := (pieces text).filter fun name => name ≠ [] && name ≠ here

/-- Write a path.  One without slashes and names is the present directory. -/
def render (path : Path α) : List α :=
  if path.slashes = 0 ∧ path.names = [] then here
  else List.replicate path.slashes slash ++ joinNames path.names

/-- The path of the containing directory.  A path without names contains
itself. -/
def parent (path : Path α) : Path α :=
  { path with names := path.names.dropLast }

/-- The last name of a path. -/
def lastName (path : Path α) : List α :=
  path.names.getLast?.getD []

/-- Go up one directory for every name of the directory above; there is nothing
above the root. -/
def ascend (names : List (List α)) : List (List α) :=
  (names.foldl (fun above name => if name = up then above.drop 1 else name :: above) []).reverse

/-- The absolute form of a path, as seen from a directory, by its names alone: a name
of the directory above takes away the name before it. -/
def absolute (base path : Path α) : Path α :=
  if path.slashes = 0 then { base with names := ascend (base.names ++ path.names) }
  else { path with names := ascend path.names }

end Path

/-- The normal form of a path. -/
def normalizeLetters {α : Type} [DecidableEq α] [Spelling α] (text : List α) : List α :=
  (Path.parse text).render

/-- The normal form of a path. -/
def normalizePath (text : String) : String :=
  String.ofList (normalizeLetters text.toList)

/-- A path as seen from a directory: the path itself if it begins with a slash. -/
def joinPath (base path : String) : String :=
  if path.toList.head? = some '/' then path
  else if base.toList.getLast? = some '/' then base ++ path
  else base ++ "/" ++ path

/-- The absolute form of a path, as seen from a directory. -/
def absolutePath (base path : String) : String :=
  String.ofList ((Path.parse base.toList).absolute (Path.parse path.toList)).render

/-- All of a path before its last name, without the slashes between them.  The
slashes of a root stay. -/
def directoryPath (path : String) : String :=
  let front := (path.toList.reverse.dropWhile (· ≠ '/'))
  if front.all (· = '/') then String.ofList front
  else String.ofList (front.dropWhile (· = '/')).reverse

/-- The last name of a path; empty for a root and for the present directory. -/
def baseName (path : String) : String :=
  String.ofList (Path.parse path.toList).lastName

end ExtcapHost
