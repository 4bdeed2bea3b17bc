/-
Module: ExtcapHost.OperatorArgument
Purpose: Capture arguments as an operator writes them.
Main exports:
  OperatorArgument.read, OperatorArgument.readAll
-/
import ExtcapHost.Command
import ExtcapHost.Fault
import ExtcapHost.Ordered
import ExtcapHost.Text.Blank

namespace ExtcapHost.OperatorArgument

/-- A key without its blanks, and with two dashes in front unless it begins with
one.  Nothing, or nothing but dashes, is no key. -/
def flag? (key : List Char) : Option String :=
  let name := Text.trim key
  if name.all (· = '-') then none
  else if name.head? = some '-' then some (String.ofList name)
  else some (String.ofList ('-' :: '-' :: name))

/-- An argument is a key, or a key and a value with an equals sign between
them. -/
def read (text : String) : Except HostError (String × Option String) :=
  match flag? (text.toList.takeWhile (· ≠ '=')) with
  | none =>
      .error (.argument ("Invalid helper argument: " ++ Text.quoteString text)
        (some "Expected KEY=VALUE"))
  | some flag =>
      match text.toList.dropWhile (· ≠ '=') with
      | [] => .ok (flag, none)
      | _ :: value => .ok (flag, some (String.ofList value))

/-- Read the rest of a list of arguments into those before. -/
def readInto (before : CaptureArguments) : List String → Except HostError CaptureArguments
  | [] => .ok before
  | text :: rest =>
      match read text with
      | .error error => .error error
      | .ok (flag, value) => readInto (Ordered.put flag value before) rest

/-- Read a list of arguments.  A flag that comes again keeps its place and takes
its last value; the first argument that cannot be read is reported. -/
def readAll (texts : List String) : Except HostError CaptureArguments :=
  readInto [] texts

end ExtcapHost.OperatorArgument
