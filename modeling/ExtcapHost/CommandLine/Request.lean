/-
Module: ExtcapHost.CommandLine.Request
Purpose: What an operator asks for on the command line.
Main exports:
  Request, Preamble, readPreamble, CommandName, readRequest
-/
import ExtcapHost.CommandLine.Grammar
import ExtcapHost.Fault
import ExtcapHost.Helper
import ExtcapHost.Number.Reading
import ExtcapHost.Text.Alphanumeric

namespace ExtcapHost

/-- The commands of the program. -/
inductive CommandName where
  | interfaces
  | dlts
  | config
  | capture
deriving DecidableEq, Repr, Inhabited

namespace CommandName

/-- All commands. -/
def all : List CommandName :=
  [.interfaces, .dlts, .config, .capture]

/-- The word for a command. -/
def word : CommandName → String
  | .interfaces => "interfaces"
  | .dlts => "dlts"
  | .config => "config"
  | .capture => "capture"

/-- The command of a word. -/
def ofWord? (word : String) : Option CommandName :=
  all.find? fun name => name.word = word

end CommandName

/-- A command with all it needs. -/
inductive Request where
  /-- List interfaces, and save the list if a file is named. -/
  | interfaces (output : Option String)
  /-- List the link-layer types of an interface. -/
  | dlts (interface : String)
  /-- List the arguments of an interface. -/
  | config (interface : String)
  /-- Capture on an interface, for as many seconds as wanted. -/
  | capture (interface : String) (arguments : List String) (duration : Option Binary64)
deriving Repr, Inhabited

/-- What becomes of a command line that is read. -/
inductive Reading (α : Type) where
  | accepted (value : α)
  /-- Only an explanation is wanted. -/
  | help
  /-- Only the version is wanted. -/
  | version
  /-- The line is not well formed. -/
  | refused
  /-- A value on the line cannot even be looked at. -/
  | failed (fault : Fault)
deriving Repr, Inhabited

/-- The options before the command. -/
inductive PreambleOption where
  | verbose
  | helperDirectory
  | version
  | help
deriving DecidableEq, Repr

/-- The grammar of the options before the command. -/
def preambleGrammar : Grammar PreambleOption where
  options :=
    [ ⟨.verbose, ["-v", "--verbose"], false⟩,
      ⟨.helperDirectory, ["--helper-dir"], true⟩,
      ⟨.version, ["--version"], false⟩,
      ⟨.help, ["--help"], false⟩ ]
  mixed := false

/-- What stands before the command, and the words from there on. -/
structure Preamble where
  verbose : Bool
  helperDirectory : Option String
  words : List String
deriving Repr, Inhabited

/-- Read a command line up to the command.  An empty line asks for help. -/
def readPreamble (line : List String) : Reading Preamble :=
  if line.isEmpty then .help
  else
    match preambleGrammar.scan line with
    | none => .refused
    | some scanned =>
        match scanned.firstOf? [.version, .help] with
        | some .version => .version
        | some _ => .help
        | none =>
            .accepted
              { verbose := scanned.has .verbose
                helperDirectory := scanned.value? .helperDirectory
                words := scanned.operands }

/-- A word in the place of a command that begins like an option only brings up the
explanation; every other unknown word is refused. -/
def readUnknown (word : String) : Reading CommandName :=
  match word.toList with
  | [] => .refused
  | c :: _ => if Text.isAlphanumeric c then .refused else .help

/-- The command that a line names. -/
def readCommand (words : List String) : Reading CommandName :=
  match words with
  | [] => .refused
  | word :: _ =>
      match CommandName.ofWord? word with
      | some name => .accepted name
      | none => readUnknown word

/-- The options after the command. -/
inductive RequestOption where
  | output
  | argument
  | duration
  | help
deriving DecidableEq, Repr

/-- The options that a command understands. -/
def CommandName.options : CommandName → List (OptionShape RequestOption)
  | .interfaces => [⟨.output, ["--output", "-o"], true⟩, ⟨.help, ["--help"], false⟩]
  | .dlts => [⟨.help, ["--help"], false⟩]
  | .config => [⟨.help, ["--help"], false⟩]
  | .capture =>
      [ ⟨.argument, ["--arg", "-a"], true⟩,
        ⟨.duration, ["--duration"], true⟩,
        ⟨.help, ["--help"], false⟩ ]

/-- The seconds that an operator wants, if any were given; what is no number is
refused. -/
def readDuration (text : Option String) : Reading (Option Binary64) :=
  match text with
  | none => .accepted none
  | some text =>
      match readBinary64 text with
      | some duration => .accepted (some duration)
      | none => .refused

/-- Read what follows the command.  It names exactly one interface, unless all
interfaces are to be listed. -/
def readRequest (name : CommandName) (words : List String) : Reading Request :=
  match (Grammar.mk name.options true).scan words with
  | none => .refused
  | some scanned =>
      if scanned.has .help then .help
      else if (scanned.value? .output).any holdsZero then .failed zeroFault
      else
        match name, scanned.operands with
        | .interfaces, [] => .accepted (.interfaces (scanned.value? .output))
        | .dlts, [interface] => .accepted (.dlts interface)
        | .config, [interface] => .accepted (.config interface)
        | .capture, [interface] =>
            match readDuration (scanned.value? .duration) with
            | .accepted duration =>
                .accepted (.capture interface (scanned.values .argument) duration)
            | _ => .refused
        | _, _ => .refused

end ExtcapHost
