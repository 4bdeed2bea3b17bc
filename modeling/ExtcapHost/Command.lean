/-
Module: ExtcapHost.Command
Purpose: The command lines that helper programs understand.
Main exports:
  interfacesCommand, queryCommand, captureCommand
-/

namespace ExtcapHost

/-- Arguments for a capture, each a flag and an optional value, in order. -/
abbrev CaptureArguments := List (String × Option String)

/-- The flag that asks for the interfaces of a helper. -/
def interfacesFlag : String := "--extcap-interfaces"

/-- The flag that asks for the link-layer types of an interface. -/
def linkTypesFlag : String := "--extcap-dlts"

/-- The flag that asks for the arguments of an interface. -/
def argumentsFlag : String := "--extcap-config"

/-- The flag that starts a capture. -/
def captureFlag : String := "--capture"

/-- The flag before the name of an interface. -/
def interfaceFlag : String := "--extcap-interface"

/-- The flag before the path of a channel. -/
def channelFlag : String := "--fifo"

/-- Ask a helper for its interfaces. -/
def interfacesCommand : List String :=
  [interfacesFlag]

/-- Ask a helper about one interface. -/
def queryCommand (flag interface : String) : List String :=
  [flag, interfaceFlag, interface]

/-- The words of one capture argument: its flag and its value, or the flag alone.
An argument with an empty flag has none. -/
def argumentWords : String × Option String → List String
  | ("", _) => []
  | (flag, none) => [flag]
  | (flag, some value) => [flag, value]

/-- Start a capture of an interface into a channel. -/
def captureCommand (helper interface channel : String) (arguments : CaptureArguments) :
    List String :=
  [helper, captureFlag, interfaceFlag, interface, channelFlag, channel] ++
    arguments.flatMap argumentWords

end ExtcapHost
