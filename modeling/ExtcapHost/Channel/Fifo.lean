/-
Module: ExtcapHost.Channel.Fifo
Purpose: Channels that are FIFO files.
Main exports:
  FileCalls, FifoSettings, ownerOnly, fifoMaker
-/
import ExtcapHost.Channel.Basic

/-!
A name that nobody else holds is reserved by making a temporary file.  The FIFO
then takes the place of that file, so between the two calls the name is free.
-/

namespace ExtcapHost

variable {σ : Type}

/-- The calls on files that a FIFO needs. -/
structure FileCalls (σ : Type) where
  /-- Make a temporary file whose name begins with a word, in a directory. -/
  reserve : (word directory : String) → σ → Except Fault String × σ
  /-- Close a file that was reserved. -/
  close : String → σ → Except Fault Unit × σ
  /-- Whether there is a file. -/
  present : σ → String → Bool
  /-- Remove a file. -/
  remove : String → σ → Except Fault Unit × σ
  /-- Make a FIFO with the given permissions. -/
  makeFifo : (mode : Nat) → String → σ → Except Fault Unit × σ

/-- How FIFOs are named, and where they are made. -/
structure FifoSettings where
  word : String
  directory : String
deriving DecidableEq, Repr, Inhabited

/-- No name could be reserved. -/
def cannotReserve (directory : String) (cause : Fault) : HostError :=
  .channel ("Cannot reserve fifo name in " ++ directory) (some cause.text)

/-- The FIFO could not take the place of the reserved file. -/
def cannotMakeFifo (path : String) (cause : Fault) : HostError :=
  .channel ("Cannot create fifo " ++ path) (some cause.text)

/-- The FIFO could not be removed. -/
def cannotRemoveFifo (path : String) (cause : Fault) : HostError :=
  .channel ("Cannot remove fifo " ++ path) (some cause.text)

/-- Reserve a unique name. -/
def reserveFifo (files : FileCalls σ) (names : NameSource σ) (settings : FifoSettings)
    (machine : σ) : Except Fault String × σ :=
  let (name, machine) := names.next settings.word machine
  let refuse (fault : Fault) : Fault :=
    match fault with
    | .system error => .host (cannotReserve settings.directory (.system error))
    | other => other
  match files.reserve (name ++ "_") settings.directory machine with
  | (.error fault, machine) => (.error (refuse fault), machine)
  | (.ok path, machine) =>
      match files.close path machine with
      | (.error fault, machine) => (.error (refuse fault), machine)
      | (.ok _, machine) => (.ok path, machine)

/-- The permissions of a FIFO: only its owner may use it. -/
def ownerOnly : Nat := 0o600

/-- Put a FIFO in the place of a reserved file, if that file is still there. -/
def replaceByFifo (files : FileCalls σ) (path : String) (machine : σ) :
    Except Fault Channel × σ :=
  let refuse (fault : Fault) : Fault :=
    match fault with
    | .system error => .host (cannotMakeFifo path (.system error))
    | .unsupported message => .host (cannotMakeFifo path (.unsupported message))
    | other => other
  let (removed, machine) :=
    if files.present machine path then files.remove path machine else (.ok (), machine)
  match removed with
  | .error fault => (.error (refuse fault), machine)
  | .ok _ =>
      match files.makeFifo ownerOnly path machine with
      | (.error fault, machine) => (.error (refuse fault), machine)
      | (.ok _, machine) => (.ok ⟨path, none⟩, machine)

/-- Remove a FIFO.  One that is absent is as good as removed. -/
def removeFifo (files : FileCalls σ) (path : Option String) (machine : σ) :
    Except Fault Unit × σ :=
  match path with
  | none => (.ok (), machine)
  | some "" => (.ok (), machine)
  | some path =>
      match files.remove path machine with
      | (.error (.system error), machine) =>
          if error.isNoEntry then (.ok (), machine)
          else (.error (.host (cannotRemoveFifo path (.system error))), machine)
      | (removed, machine) => (removed, machine)

/-- Channels are FIFOs. -/
def fifoMaker (files : FileCalls σ) (names : NameSource σ) (settings : FifoSettings) :
    ChannelMaker σ where
  create machine :=
    match reserveFifo files names settings machine with
    | (.error fault, machine) => (.error fault, machine)
    | (.ok path, machine) => replaceByFifo files path machine
  release path _ machine := removeFifo files path machine

end ExtcapHost
