/-
Module: ExtcapHost.Channel.Platform
Purpose: Which channels a platform has.
Main exports:
  ChannelKind, ChannelCalls, Settings.nextName, ChannelKind.maker, platformKind,
  platformMaker
-/
import ExtcapHost.Channel.Fifo
import ExtcapHost.Channel.NamedPipe
import ExtcapHost.Settings.Basic

namespace ExtcapHost

variable {σ : Type}

/-- The kinds of channels. -/
inductive ChannelKind where
  | fifo
  | namedPipe
deriving DecidableEq, Repr, Inhabited

/-- What channels of all kinds are made with.  The calls on named pipes can be
missing. -/
structure ChannelCalls (σ : Type) where
  names : NameSource σ
  files : FileCalls σ
  pipes : Option (PipeCalls σ)
  /-- The platform prefers named pipes. -/
  prefersPipes : Bool
  /-- How deeply nested a value may be that is put into words. -/
  wordDepth : Nat

/-- The part of the platform that named pipes need is missing. -/
def pipesMissing : HostError :=
  .dependency "pywin32" (some "Install with: pip install pywin32")

/-- The settings for FIFOs. -/
def Settings.fifo (settings : Settings) : FifoSettings where
  word := settings.channelWordText
  directory := settings.channelDirectory.text

/-- The settings for named pipes. -/
def Settings.pipe (settings : Settings) : PipeSettings where
  word := settings.channelWordText
  instances := settings.pipeInstances
  buffer := settings.pipeBuffer
  timeout := settings.pipeTimeout

/-- A unique name that begins with the word of the settings. -/
def Settings.nextName (calls : ChannelCalls σ) (settings : Settings) (machine : σ) :
    Except Fault String × σ :=
  if settings.channelWord.depth ≤ calls.wordDepth then
    let (name, machine) := calls.names.next settings.channelWordText machine
    (.ok name, machine)
  else
    (.error .tooDeep, machine)

/-- The settings can be put into words while a channel is made.  Its name is then asked
for one level further down than by itself; named pipes are in no directory. -/
def ChannelKind.isTold (depth : Nat) (settings : Settings) (kind : ChannelKind) : Bool :=
  settings.channelWord.depth < depth &&
    (kind = .namedPipe || settings.channelDirectory.depth ≤ depth)

/-- What makes channels of a kind, if the platform can. -/
def ChannelKind.maker (calls : ChannelCalls σ) (settings : Settings) (kind : ChannelKind) :
    Except HostError (ChannelMaker σ) :=
  let told (maker : ChannelMaker σ) : ChannelMaker σ :=
    if kind.isTold calls.wordDepth settings then maker else maker.unable .tooDeep
  match kind, calls.pipes with
  | .fifo, _ => .ok (told (fifoMaker calls.files calls.names settings.fifo))
  | .namedPipe, some pipes => .ok (told (pipeMaker pipes calls.names settings.pipe))
  | .namedPipe, none => .error pipesMissing

/-- The kind of channels that the platform prefers. -/
def platformKind (calls : ChannelCalls σ) : ChannelKind :=
  if calls.prefersPipes then .namedPipe else .fifo

/-- What makes the channels of a platform.  If it cannot make any, every attempt
fails. -/
def platformMaker (calls : ChannelCalls σ) (settings : Settings) : ChannelMaker σ :=
  match (platformKind calls).maker calls settings with
  | .ok maker => maker
  | .error error => .lacking error

end ExtcapHost
