/-
Module: ExtcapHost.Settings.Loading
Purpose: Reading the settings from a file.
Main exports:
  Settings.Table, Settings.assign, Settings.ofTable, Settings.ofValues,
  Settings.ofDocument, Settings.load, Settings.loadTable
-/
import ExtcapHost.Fault
import ExtcapHost.Json.Reader
import ExtcapHost.Settings.Basic

/-!
A settings file is an object.  Its member for helpers and channels is an object
too, whose members are written one after the other into a table of named values.
Names that the table does not know are passed over.  Some names are reserved:
one of them replaces the whole table, two cannot be written, one spoils the table
for good, and the others are written like any name but mean nothing.
-/

namespace ExtcapHost.Settings

open Text

/-- The named values for helpers and channels. -/
abbrev Table := List (List Letter × Json)

/-- The names of the values that have a default even where the table lacks
them. -/
def plainNames : List String :=
  ["pipe_prefix", "pipe_max_instances", "pipe_buffer_size", "pipe_timeout_ms"]

/-- The reserved name that stands for the table itself. -/
def tableName : String := "__dict__"

/-- The reserved name for what completes the table after reading. -/
def completionName : String := "__post_init__"

/-- The reserved names that can be written and mean nothing. -/
def idleNames : List String :=
  [ "__annotations__", "__dataclass_fields__", "__dataclass_params__", "__delattr__",
    "__dir__", "__doc__", "__eq__", "__format__", "__ge__", "__getattribute__",
    "__getstate__", "__gt__", "__hash__", "__init__", "__init_subclass__", "__le__",
    "__lt__", "__match_args__", "__module__", "__ne__", "__new__", "__reduce__",
    "__reduce_ex__", "__repr__", "__setattr__", "__sizeof__", "__str__",
    "__subclasshook__" ]

/-- The table of settings. -/
def table (settings : Settings) : Table :=
  [ (wide "helper_dir".toList, .string settings.helperDirectory.letters),
    (wide "pipe_prefix".toList, settings.channelWord),
    (wide "pipe_dir".toList, .string settings.channelDirectory.letters),
    (wide "pipe_max_instances".toList, settings.pipeInstances),
    (wide "pipe_buffer_size".toList, settings.pipeBuffer),
    (wide "pipe_timeout_ms".toList, settings.pipeTimeout) ]

/-- The table knows a name. -/
def knows (values : Table) (name : List Letter) : Bool :=
  (Ordered.get? name values).isSome ||
    (completionName :: plainNames ++ idleNames).any fun known => wide known.toList = name

/-- Write one value into the table. -/
def assign (values : Table) (name : List Letter) (value : Json) : Except Fault Table :=
  if name = wide "__class__".toList then .error .wrongType
  else if name = wide "__weakref__".toList then .error (.unsupported "")
  else if name = wide tableName.toList then
    match value with
    | .object members => .ok members
    | _ => .error .wrongType
  else if knows values name then .ok (Ordered.put name value values)
  else .ok values

/-- Write values into the table in order. -/
def assignAll (values : Table) : List (List Letter × Json) → Except Fault Table
  | [] => .ok values
  | (name, value) :: rest =>
      match assign values name value with
      | .ok values => assignAll values rest
      | .error fault => .error fault

/-- The settings in a table.  Both directories have to be there. -/
def ofTable (base : Settings) (verbose : Json) (values : Table) : Except Fault Settings :=
  if (Json.memberOf? completionName values).isSome then .error .wrongType
  else
    match Json.memberOf? "helper_dir" values, Json.memberOf? "pipe_dir" values with
    | some helperDirectory, some channelDirectory =>
        .ok
          { verbose
            helperDirectory := .ofJson helperDirectory
            channelWord := (Json.memberOf? "pipe_prefix" values).getD base.channelWord
            channelDirectory := .ofJson channelDirectory
            pipeInstances :=
              (Json.memberOf? "pipe_max_instances" values).getD base.pipeInstances
            pipeBuffer := (Json.memberOf? "pipe_buffer_size" values).getD base.pipeBuffer
            pipeTimeout := (Json.memberOf? "pipe_timeout_ms" values).getD base.pipeTimeout }
    | _, _ => .error (.unsupported "")

/-- Settings with some values replaced.  Each of them has to be named in the table. -/
def ofValues (base : Settings) (values : Table) : Except Fault Settings :=
  if values.all fun entry => (Ordered.get? entry.1 base.table).isSome then
    match assignAll base.table values with
    | .ok table => ofTable base base.verbose table
    | .error fault => .error fault
  else
    .error .wrongType

/-- A word stands somewhere in a text. -/
def mentions (word : String) : List Letter → Bool
  | [] => word.isEmpty
  | letter :: rest =>
      (wide word.toList).isPrefixOf (letter :: rest) || mentions word rest

/-- The settings in a value, on top of given ones.  A list or text is taken for
settings without members, unless it mentions one. -/
def ofDocument (base : Settings) : Json → Except Fault Settings
  | .object members =>
      let verbose := (Json.memberOf? "verbose" members).getD base.verbose
      match Json.memberOf? "extcap" members with
      | none => .ok { base with verbose }
      | some (.object values) =>
          match assignAll base.table values with
          | .ok values => ofTable base verbose values
          | .error fault => .error fault
      | some _ => .error (.unsupported "")
  | .list items =>
      if items.any fun item =>
          item.same (.ofString "verbose") || item.same (.ofString "extcap") then
        .error .wrongType
      else
        .ok base
  | .string letters =>
      if mentions "verbose" letters || mentions "extcap" letters then .error .wrongType
      else .ok base
  | _ => .error .wrongType

/-- Why a settings file is not read. -/
def readFault : Json.ReadError → Fault
  | .malformed => .notJson
  | .tooDeep => .tooDeep
  | .tooManyDigits count =>
      .value ("Exceeds the limit (" ++ String.ofList (writeNatural digitLimit) ++
        " digits) for integer string conversion: value has " ++
        String.ofList (writeNatural count) ++
        " digits; use sys.set_int_max_str_digits() to increase the limit")

/-- The value that the text of a settings file is. -/
def readDocument (depth : Nat) (text : String) : Except Fault Json :=
  match Json.read depth text with
  | .ok value => .ok value
  | .error error => .error (readFault error)

/-- The settings in the text of a file, on top of given ones.  Values may be nested as
deeply as given. -/
def load (depth : Nat) (base : Settings) (text : String) : Except Fault Settings :=
  match readDocument depth text with
  | .ok document => ofDocument base document
  | .error fault => .error fault

/-- The table that a value leaves, from the one of given settings. -/
def tableOf (base : Settings) : Json → Except Fault Table
  | .object members =>
      match Json.memberOf? "extcap" members with
      | some (.object values) => assignAll base.table values
      | _ => .ok base.table
  | _ => .ok base.table

/-- The table that the text of a file leaves. -/
def loadTable (depth : Nat) (base : Settings) (text : String) : Except Fault Table :=
  match readDocument depth text with
  | .ok document => base.tableOf document
  | .error fault => .error fault

end ExtcapHost.Settings
