/-
Module: ExtcapHost.CommandLine.Platform
Purpose: What the program needs of the machine it runs on.
Main exports:
  Surroundings, Standing, Platform, Platform.tell
-/
import ExtcapHost.Channel.Platform
import ExtcapHost.CommandLine.Display
import ExtcapHost.Helper
import ExtcapHost.Launcher

namespace ExtcapHost

/-- What the program finds when it is started. -/
structure Surroundings where
  /-- The operator's home directory. -/
  home : String
  /-- The directory for temporary files. -/
  temporary : String
  /-- The environment variables. -/
  environment : List (String × String)
deriving DecidableEq, Repr, Inhabited

/-- The value of an environment variable. -/
def Surroundings.lookup (surroundings : Surroundings) (name : String) : Option String :=
  Ordered.get? name surroundings.environment

/-- What a path leads to, as far as it matters on a command line. -/
inductive Standing where
  | absent
  | file
  | directory
  /-- Something that may not be read. -/
  | unreadable
deriving DecidableEq, Repr, Inhabited

/-- A machine as the program sees it. -/
structure Platform (σ : Type) where
  helpers : HelperHost σ
  kernel : Kernel σ
  channels : ChannelCalls σ
  /-- The text of a settings file, if there is one. -/
  settingsText : σ → String → Except Fault (Option String)
  /-- The absolute path without links. -/
  realPath : σ → String → Except Fault String
  /-- What a path leads to. -/
  standing : σ → String → Standing
  /-- Save a text in a file; the directories above are made. -/
  save : (path text : String) → σ → Except Fault Unit × σ
  /-- The seconds since some time in the past. -/
  now : σ → Binary64
  /-- Wait for a fifth of a second. -/
  nap : σ → σ
  /-- How often the program can wait before the operator interrupts it. -/
  patience : σ → Nat
  /-- The fault with which the console refuses something, after what it was given before.  It
  may refuse anything, and what it shows leaves the machine as it is. -/
  consoleFault : σ → List Display → Display → Option Fault

/-- Tell the operator some things, after what the console was given before.  The first one
that the console refuses is the last. -/
def Platform.tell {σ : Type} (platform : Platform σ) (machine : σ) :
    List Display → List Display → Except Fault Unit × List Display
  | shown, [] => (.ok (), shown)
  | shown, display :: rest =>
      match platform.consoleFault machine shown display with
      | some fault => (.error fault, shown ++ [display])
      | none => platform.tell machine (shown ++ [display]) rest

end ExtcapHost
