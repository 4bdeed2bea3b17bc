/-
Module: ExtcapHost.CommandLine.Program
Purpose: The program: from a command line to what it shows and how it ends.
Main exports:
  Memory, loadSettings, perform, Result, run
-/
import ExtcapHost.CommandLine.Capture
import ExtcapHost.CommandLine.Request
import ExtcapHost.Query
import ExtcapHost.Settings.Loading

namespace ExtcapHost

variable {σ : Type}

/-- The name of the program. -/
def programName : String := "netextcap"

/-- The version of the program. -/
def programVersion : String := "0.1.0"

/-- What the program says when asked for its version. -/
def versionText : String :=
  programName ++ ", version " ++ programVersion ++ "\n"

/-- What stays from one command to the next: the settings once they are loaded, and
how much is told. -/
structure Memory where
  settings : Option Settings
  detailed : Bool
deriving Repr, Inhabited

/-- Nothing was loaded yet. -/
def Memory.fresh : Memory := ⟨none, false⟩

/-- The name of the settings file. -/
def settingsFile (surroundings : Surroundings) : String :=
  (surroundings.lookup "NETEXTCAP_CONFIG").getD ".netextcap.json"

/-- The settings with the helper directory that the environment names. -/
def withVariables (surroundings : Surroundings) (settings : Settings) : Settings :=
  match surroundings.lookup "NETEXTCAP_HELPER_DIR" with
  | none => settings
  | some "" => settings
  | some directory => { settings with helperDirectory := .ofString directory }

/-- How deeply values may be nested in a settings file that a command loads. -/
def settingsDepth : Nat := 981

/-- Load the settings from their file and the environment.  Values in the file may be
nested as deeply as given. -/
def loadSettings (platform : Platform σ) (surroundings : Surroundings) (depth : Nat)
    (machine : σ) : Except Fault Settings :=
  let initial := Settings.initial surroundings.home surroundings.temporary
  match platform.settingsText machine (settingsFile surroundings) with
  | .error fault => .error fault
  | .ok none => .ok (withVariables surroundings initial)
  | .ok (some text) => (initial.load depth text).map (withVariables surroundings)

/-- The settings that are remembered, or else loaded. -/
def settingsAtHand (platform : Platform σ) (surroundings : Surroundings) (memory : Memory)
    (machine : σ) : Except Fault Settings :=
  match memory.settings with
  | some settings => .ok settings
  | none => loadSettings platform surroundings settingsDepth machine

/-- The settings with the options before the command. -/
def withPreamble (settings : Settings) (verbose : Bool) (directory : Option String) :
    Settings :=
  let settings := if verbose then { settings with verbose := .bool true } else settings
  match directory with
  | none => settings
  | some directory => { settings with helperDirectory := .ofString directory }

/-- The helper directory of a command line: without links, and nothing that is a file
or may not be read. -/
def readDirectory (platform : Platform σ) (machine : σ) :
    Option String → Reading (Option String)
  | none => .accepted none
  | some directory =>
      match platform.realPath machine directory with
      | .error fault => .failed fault
      | .ok path =>
          match platform.standing machine path with
          | .file => .refused
          | .unreadable => .refused
          | _ => .accepted (some path)

/-- The interfaces that were found, as a value. -/
def surveyDocument (settings : Settings) (found : List Discovered) : Json :=
  .object
    [ (Text.wide "helper_dir".toList, .string settings.helperDirectory.letters),
      (Text.wide "interfaces".toList,
        .list (found.map fun record =>
          .object
            [ (Text.wide "name".toList, .ofString record.name),
              (Text.wide "display".toList, .ofString record.display),
              (Text.wide "extcap".toList, .ofString record.helper) ])) ]

/-- The table of the interfaces that were found. -/
def surveyTable (found : List Discovered) : Display :=
  .table ("Helper Interfaces (" ++ String.ofList (Text.writeNatural found.length) ++ ")")
    ["Interface", "Description", "Helper"]
    (found.map fun record => [record.name, record.display, baseName record.helper])

/-- Save the interfaces that were found, if the operator wants that. -/
def saveSurvey (platform : Platform σ) (settings : Settings) (found : List Discovered)
    (output : Option String) (stand : Stand σ) : Ending × Stand σ :=
  match output with
  | none => (.exit 0, stand)
  | some "" => (.exit 0, stand)
  | some path =>
      match platform.save path (surveyDocument settings found).write stand.machine with
      | (.error fault, machine) => (.escaped fault, { stand with machine })
      | (.ok _, machine) =>
          Stand.conclude platform { stand with machine }
            (successDisplay ("Results saved to " ++ normalizePath path)) (.exit 0)

/-- List the interfaces of all helpers. -/
def listInterfaces (platform : Platform σ) (settings : Settings) (output : Option String)
    (stand : Stand σ) : Ending × Stand σ :=
  match stand.tell platform
    (.line ("[bold]Probing helpers in " ++ settings.helperDirectory.text ++ "...[/bold]"))
  with
  | (.error fault, stand) => (.escaped fault, stand)
  | (.ok _, stand) =>
      let (found, _, stand) := surveyPlace platform settings.helperDirectory stand
      match found with
      | .error fault => (.escaped fault, stand)
      | .ok [] =>
          stand.conclude platform (.line "[yellow]No helper interfaces found.[/yellow]") (.exit 0)
      | .ok found =>
          match stand.tell platform (surveyTable found) with
          | (.error fault, stand) => (.escaped fault, stand)
          | (.ok _, stand) => saveSurvey platform settings found output stand

/-- The table of link-layer types. -/
def linkTypeTable (interface : String) (linkTypes : List LinkType) : Display :=
  .table ("Link Types for " ++ interface) ["DLT", "Name", "Description"]
    (linkTypes.map fun linkType =>
      [String.ofList (Text.writeInteger linkType.number), linkType.name, linkType.description])

/-- A text, or a dash for none. -/
def orDash (text : String) : String :=
  if text = "" then "-" else text

/-- A choice as it is listed: a default one is marked. -/
def choiceText (choice : Choice) : String :=
  choice.value ++ if choice.isDefault then "*" else ""

/-- The table of capture arguments. -/
def argumentTable (interface : String) (arguments : List Argument) : Display :=
  .table ("Configuration for " ++ interface)
    ["Flag", "Description", "Type", "Default", "Values"]
    (arguments.map fun argument =>
      [argument.call, argument.display, argument.kind.word, orDash (argument.default.getD ""),
        orDash (", ".intercalate (argument.choices.map choiceText))])

/-- Search for interfaces, ask about one of them, and show the answer. -/
def showAnswer {α : Type} (platform : Platform σ) (settings : Settings)
    (ask : Registry → σ → Except HostError α × σ) (table : α → Display) (stand : Stand σ) :
    Ending × Stand σ :=
  let (found, registry, stand) := surveyPlace platform settings.helperDirectory stand
  match found with
  | .error fault => (.escaped fault, stand)
  | .ok _ =>
      match ask registry stand.machine with
      | (.error error, machine) => Stand.fail platform { stand with machine } error.text
      | (.ok answer, machine) =>
          Stand.conclude platform { stand with machine } (table answer) (.exit 0)

/-- Do what is asked for. -/
def perform (platform : Platform σ) (settings : Settings) (request : Request)
    (stand : Stand σ) : Ending × Stand σ :=
  match request with
  | .interfaces output => listInterfaces platform settings output stand
  | .dlts interface =>
      showAnswer platform settings
        (fun registry => queryLinkTypes platform.helpers .sentences registry interface)
        (fun capabilities => linkTypeTable interface capabilities.linkTypes) stand
  | .config interface =>
      showAnswer platform settings
        (fun registry => queryArguments platform.helpers .sentences registry interface)
        (argumentTable interface) stand
  | .capture interface arguments duration =>
      capture platform settings interface arguments duration stand

/-- What a run of the program came to: how it ended, what it wrote besides what it
showed, what it remembers, and where it stands. -/
structure Result (σ : Type) where
  ending : Ending
  written : String
  memory : Memory
  stand : Stand σ

/-- The ending of a command line that asks for nothing to be done. -/
def endingOf {α : Type} : Reading α → Ending
  | .failed fault => .escaped fault
  | .refused => .exit 2
  | _ => .exit 0

/-- The file that a request writes, if it names one. -/
def Request.output? : Request → Option String
  | .interfaces output => output
  | _ => none

/-- Run a command whose settings are known.  A file to be written has to be readable
if it is there. -/
def runCommand (platform : Platform σ) (settings : Settings) (name : CommandName)
    (words : List String) (stand : Stand σ) : Ending × Stand σ :=
  match readRequest name words with
  | .accepted request =>
      if request.output?.any fun path => platform.standing stand.machine path = .unreadable then
        (.exit 2, stand)
      else
        perform platform settings request stand
  | other => (endingOf other, stand)

/-- Run the program on a command line. -/
def run (platform : Platform σ) (surroundings : Surroundings) (memory : Memory)
    (line : List String) (machine : σ) : Result σ :=
  let stand : Stand σ := ⟨[], [], machine⟩
  let stop (ending : Ending) : Result σ := ⟨ending, "", memory, stand⟩
  match readPreamble line with
  | .version => { stop (.exit 0) with written := versionText }
  | .accepted preamble =>
      match readDirectory platform machine preamble.helperDirectory with
      | .accepted directory =>
          match readCommand preamble.words with
          | .accepted name =>
              match settingsAtHand platform surroundings memory machine with
              | .error fault => stop (.escaped fault)
              | .ok settings =>
                  let settings := withPreamble settings preamble.verbose directory
                  let memory : Memory := ⟨some settings, settings.verbose.truthy⟩
                  let (ending, stand) :=
                    runCommand platform settings name (preamble.words.drop 1) stand
                  ⟨ending, "", memory, stand⟩
          | other => stop (endingOf other)
      | other => stop (endingOf other)
  | other => stop (endingOf other)

end ExtcapHost
