/-
Module: ExtcapHost.Channel.Basic
Purpose: Capture channels and what makes and removes them.
Main exports:
  Channel, ChannelMaker, ChannelMaker.lacking, ChannelMaker.unable, NameSource,
  NameSource.next
-/
import ExtcapHost.Fault

namespace ExtcapHost

variable {σ : Type}

/-- A channel for captured frames: the path that the helper is given, and a
handle if the channel has to be kept open. -/
structure Channel where
  path : String
  handle : Option String
deriving DecidableEq, Repr, Inhabited

/-- A way to make channels and to remove them again.  What is removed is named by
the path and the handle of a channel, either of which may be absent. -/
structure ChannelMaker (σ : Type) where
  create : σ → Except Fault Channel × σ
  release : Option String → Option String → σ → Except Fault Unit × σ

/-- A platform that lacks what channels need: nothing can be made or removed. -/
def ChannelMaker.lacking (error : HostError) : ChannelMaker σ where
  create machine := (.error (.host error), machine)
  release _ _ machine := (.error (.host error), machine)

/-- Nothing can be made, but what was made can still be removed. -/
def ChannelMaker.unable (fault : Fault) (maker : ChannelMaker σ) : ChannelMaker σ :=
  { maker with create := fun machine => (.error fault, machine) }

/-- Where unique names come from: the time, and tokens that never repeat. -/
structure NameSource (σ : Type) where
  stamp : σ → String
  token : σ → String × σ

/-- A unique name: a fixed word, the time, and a token. -/
def NameSource.next (names : NameSource σ) (word : String) (machine : σ) : String × σ :=
  let (token, machine) := names.token machine
  (word ++ "_" ++ names.stamp machine ++ "_" ++ token, machine)

end ExtcapHost
