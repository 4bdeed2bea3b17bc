/-
Module: ExtcapHost.Fault
Purpose: What can go wrong, by cause, and how each cause is told.
Main exports:
  framed, HostError, HostError.message, HostError.text, SystemError, Fault,
  Fault.text, holdsZero
-/
import ExtcapHost.Text.Quoted

namespace ExtcapHost

/-- A text between two others. -/
def framed (front text back : String) : String :=
  front ++ text ++ back

/-- The failures that the host itself reports. -/
inductive HostError where
  /-- A failure without a more precise cause. -/
  | general (message : String) (details : Option String)
  /-- A helper could not be started, failed, or answered nothing usable. -/
  | probe (helper : String) (details : Option String)
  /-- A question about an interface has no answer. -/
  | query (interface : String) (details : Option String)
  /-- A capture channel could not be made or removed. -/
  | channel (message : String) (details : Option String)
  /-- An argument of the operator is not well formed. -/
  | argument (message : String) (details : Option String)
  /-- A part of the platform is missing. -/
  | dependency (name : String) (hint : Option String)
deriving DecidableEq, Repr

namespace HostError

/-- What failed. -/
def message : HostError → String
  | .general message _ => message
  | .probe helper _ => framed "Probe of " helper " failed"
  | .query interface _ => framed "Capability query for " interface " failed"
  | .channel message _ => message
  | .argument message _ => message
  | .dependency name _ => framed "Missing dependency: " name ""

/-- Why it failed. -/
def details : HostError → Option String
  | .general _ details => details
  | .probe _ details => details
  | .query _ details => details
  | .channel _ details => details
  | .argument _ details => details
  | .dependency _ hint => hint

/-- The helper, interface or dependency that the failure is about. -/
def subject : HostError → Option String
  | .general _ _ => none
  | .probe helper _ => some helper
  | .query interface _ => some interface
  | .channel _ _ => none
  | .argument _ _ => none
  | .dependency name _ => some name

/-- The message, and the details after a colon unless they are empty. -/
def text (error : HostError) : String :=
  match error.details with
  | none => error.message
  | some "" => error.message
  | some details => error.message ++ ": " ++ details

end HostError

/-- A refusal of the operating system: its number, its meaning, and the files it
is about. -/
structure SystemError where
  code : Int
  meaning : String
  files : List String
deriving DecidableEq, Repr

namespace SystemError

/-- The number in brackets, the meaning, and the quoted files after a colon, with
arrows between them. -/
def text (error : SystemError) : String :=
  let reason := "[Errno " ++ String.ofList (Text.writeInteger error.code) ++ "] " ++ error.meaning
  match error.files with
  | [] => reason
  | files => reason ++ ": " ++ " -> ".intercalate (files.map Text.quoteString)

/-- No file or directory of that name. -/
def noEntry (file : String) : SystemError :=
  ⟨2, "No such file or directory", [file]⟩

/-- The working directory was removed, so it has no path. -/
def noWorkingDirectory : SystemError :=
  ⟨2, "No such file or directory", []⟩

/-- An argument that is too long to be handed over. -/
def argumentTooLong (file : String) : SystemError :=
  ⟨7, "Argument list too long", [file]⟩

/-- A program of an unknown format. -/
def execFormat (file : String) : SystemError :=
  ⟨8, "Exec format error", [file]⟩

/-- A file that may not be used this way. -/
def permissionDenied (file : String) : SystemError :=
  ⟨13, "Permission denied", [file]⟩

/-- A path through something that is not a directory. -/
def notDirectory (file : String) : SystemError :=
  ⟨20, "Not a directory", [file]⟩

/-- A directory where a file was expected. -/
def isDirectory (file : String) : SystemError :=
  ⟨21, "Is a directory", [file]⟩

/-- Something that exists already. -/
def alreadyExists (file : String) : SystemError :=
  ⟨17, "File exists", [file]⟩

/-- A path that ends where it must not. -/
def invalidArgument (file : String) : SystemError :=
  ⟨22, "Invalid argument", [file]⟩

/-- A name that no file can have. -/
def nameTooLong (file : String) : SystemError :=
  ⟨36, "File name too long", [file]⟩

/-- A directory that is not empty. -/
def notEmpty (file : String) : SystemError :=
  ⟨39, "Directory not empty", [file]⟩

/-- A path through too many links. -/
def tooManyLinks (file : String) : SystemError :=
  ⟨40, "Too many levels of symbolic links", [file]⟩

/-- The file or process is absent. -/
def isNoEntry (error : SystemError) : Bool :=
  error.code = 2

/-- Something is there already. -/
def isAlreadyThere (error : SystemError) : Bool :=
  error.code = 17

end SystemError

/-- Everything that can end an operation early. -/
inductive Fault where
  | host (error : HostError)
  | system (error : SystemError)
  /-- A value that the operation does not admit. -/
  | value (message : String)
  /-- A position that holds nothing. -/
  | missing (position : Int)
  /-- A failure outside of every other class. -/
  | runtime (message : String)
  /-- An ability or attribute that does not exist. -/
  | unsupported (message : String)
  /-- A refusal of a named pipe. -/
  | pipe (message : String)
  /-- A value of the wrong type. -/
  | wrongType
  /-- Text that has no bytes of its own. -/
  | notEncodable
  /-- Text that is not JSON. -/
  | notJson
  /-- Values nested too deeply. -/
  | tooDeep
deriving DecidableEq, Repr

namespace Fault

/-- A failure in words. -/
def text : Fault → String
  | .host error => error.text
  | .system error => error.text
  | .value message => message
  | .missing position => String.ofList (Text.writeInteger position)
  | .runtime message => message
  | .unsupported message => message
  | .pipe message => message
  | .wrongType => "wrong type"
  | .notEncodable => "not encodable"
  | .notJson => "not JSON"
  | .tooDeep => "nested too deeply"

end Fault

/-- The text holds a zero character, so the system can take it neither for a path
nor for an argument. -/
def holdsZero (text : String) : Bool :=
  text.toList.any fun c => c.toNat = 0

/-- The refusal of a text with a zero character. -/
def zeroFault : Fault :=
  .value "embedded null byte"

end ExtcapHost
