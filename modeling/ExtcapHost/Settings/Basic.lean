/-
Module: ExtcapHost.Settings.Basic
Purpose: The settings of the host, and how they are written to a file.
Main exports:
  Place, Place.text, Place.target, Settings, Settings.initial, Settings.document,
  Settings.save
-/
import ExtcapHost.Fault
import ExtcapHost.Json.Display
import ExtcapHost.Json.Writer
import ExtcapHost.Path
import ExtcapHost.Text.FileName

namespace ExtcapHost

open Text

/-- Where something is: a path, or whatever value a settings file has in its
place. -/
inductive Place where
  | path (path : Path Letter)
  | other (value : Json)
deriving Repr, Inhabited

namespace Place

/-- The place that a path in a text names. -/
def ofString (text : String) : Place :=
  .path (.parse (wide text.toList))

/-- A text is a path; any other value stays what it is. -/
def ofJson : Json → Place
  | .string letters => .path (.parse letters)
  | value => .other value

/-- A place in words. -/
def letters : Place → List Letter
  | .path parsed => parsed.render
  | .other value => value.display

/-- A place in words, as text. -/
def text (place : Place) : String :=
  String.ofList (narrow place.letters)

/-- The absolute path of a place, as seen from a directory that may have no path
itself.  There is none if the place has a name that is not UTF-8; nothing stands
there.  What is not a path leads nowhere at all. -/
def target (directory : Except Fault String) : Place → Except Fault (Option String)
  | .other _ => .error .wrongType
  | .path parsed =>
      match if parsed.slashes = 0 then directory else .ok "/" with
      | .error fault => .error fault
      | .ok base =>
          match fileBytes (Path.absolute (.parse (wide base.toList)) parsed).render with
          | none => .error .notEncodable
          | some bytes => if 0 ∈ bytes then .error zeroFault else .ok (utf8Text? bytes)

/-- How deeply nested the value is that stands for a place.  A path is not nested. -/
def depth : Place → Nat
  | .path _ => 0
  | .other value => value.depth

/-- Two places are the same. -/
def same : Place → Place → Bool
  | .path one, .path two => one = two
  | .other one, .other two => one.same two
  | _, _ => false

end Place

/-- The settings.  Of most of them any value is kept, whether or not it makes
sense; only text for a directory becomes a path. -/
structure Settings where
  /-- Tell the operator more. -/
  verbose : Json
  /-- Where the helpers are. -/
  helperDirectory : Place
  /-- The word that the names of channels begin with. -/
  channelWord : Json
  /-- Where FIFOs are made. -/
  channelDirectory : Place
  /-- How many named pipes of one name there may be. -/
  pipeInstances : Json
  /-- The bytes that a named pipe holds in each direction. -/
  pipeBuffer : Json
  /-- The milliseconds to wait for a named pipe. -/
  pipeTimeout : Json
deriving Repr, Inhabited

namespace Settings

/-- The settings without a file, of an operator with the given home directory on a
machine with the given directory for temporary files. -/
def initial (home temporary : String) : Settings where
  verbose := .bool false
  helperDirectory := .ofString (joinPath home ".netextcap/extcap")
  channelWord := .ofString "netextcap_extcap"
  channelDirectory := .ofString temporary
  pipeInstances := .integer 5
  pipeBuffer := .integer 65536
  pipeTimeout := .integer 300

/-- The word that the names of channels begin with, as text. -/
def channelWordText (settings : Settings) : String :=
  String.ofList (narrow settings.channelWord.display)

/-- The settings as a value.  Places are written in words. -/
def document (settings : Settings) : Json :=
  .object
    [ (wide "verbose".toList, settings.verbose),
      (wide "extcap".toList,
        .object
          [ (wide "helper_dir".toList, .string settings.helperDirectory.letters),
            (wide "pipe_prefix".toList, settings.channelWord),
            (wide "pipe_dir".toList, .string settings.channelDirectory.letters),
            (wide "pipe_max_instances".toList, settings.pipeInstances),
            (wide "pipe_buffer_size".toList, settings.pipeBuffer),
            (wide "pipe_timeout_ms".toList, settings.pipeTimeout) ]) ]

/-- The text of a settings file. -/
def save (settings : Settings) : String :=
  settings.document.write

/-- Two settings are the same. -/
def same (one two : Settings) : Bool :=
  one.verbose.same two.verbose && one.helperDirectory.same two.helperDirectory &&
    one.channelWord.same two.channelWord && one.channelDirectory.same two.channelDirectory &&
    one.pipeInstances.same two.pipeInstances && one.pipeBuffer.same two.pipeBuffer &&
    one.pipeTimeout.same two.pipeTimeout

end Settings

end ExtcapHost
