/-
Module: ExtcapHost.Report
Purpose: Failures of the host told in values of any kind.
Main exports:
  ReportKind, Report, Report.message, Report.subject, Report.text?,
  HostError.kind, HostError.ofKind, HostError.report
-/
import ExtcapHost.Fault
import ExtcapHost.Json.Display

/-!
Whoever reports a failure may name any value in the place of a text.  What the host
itself reports is always text; both are told in the same words.
-/

namespace ExtcapHost

open Text

/-- What a failure is about. -/
inductive ReportKind where
  | general
  | probe
  | query
  | channel
  | argument
  | dependency
deriving DecidableEq, Repr, Inhabited

/-- A failure told in values. -/
structure Report where
  kind : ReportKind
  /-- What failed: a helper, an interface, a part of the platform, or the message
  itself. -/
  about : Json
  /-- Why it failed. -/
  details : Json
deriving Repr, Inhabited

namespace Report

/-- A report takes one or two values. -/
def ofValues (kind : ReportKind) : List Json → Option Report
  | [about] => some ⟨kind, about, .null⟩
  | [about, details] => some ⟨kind, about, details⟩
  | _ => none

/-- A value in words, between two texts. -/
def around (front : String) (value : Json) (back : String) : Json :=
  .string (wide front.toList ++ value.display ++ wide back.toList)

theorem around_ofString (front text back : String) :
    around front (.ofString text) back = .ofString (framed front text back) := by
  simp only [around, framed, Json.ofString, Json.display, String.toList_append, wide_append]

/-- What failed.  Only a helper, an interface, or a part of the platform is put into
words. -/
def message (report : Report) : Json :=
  match report.kind with
  | .probe => around "Probe of " report.about " failed"
  | .query => around "Capability query for " report.about " failed"
  | .dependency => around "Missing dependency: " report.about ""
  | _ => report.about

/-- The helper, the interface, or the part of the platform. -/
def subject (report : Report) : Json :=
  match report.kind with
  | .probe => report.about
  | .query => report.about
  | .dependency => report.about
  | _ => .null

/-- The message, and the details after a colon if there are any.  A message by itself
has to be text. -/
def text? (report : Report) : Option (List Letter) :=
  if report.details.truthy then
    some (report.message.display ++ wide ": ".toList ++ report.details.display)
  else
    match report.message with
    | .string letters => some letters
    | _ => none

end Report

namespace HostError

/-- The kind of a failure of the host. -/
def kind : HostError → ReportKind
  | .general _ _ => .general
  | .probe _ _ => .probe
  | .query _ _ => .query
  | .channel _ _ => .channel
  | .argument _ _ => .argument
  | .dependency _ _ => .dependency

/-- The failure of a kind that is about something. -/
def ofKind : ReportKind → String → Option String → HostError
  | .general => .general
  | .probe => .probe
  | .query => .query
  | .channel => .channel
  | .argument => .argument
  | .dependency => .dependency

/-- A failure of the host as a report. -/
def report (error : HostError) : Report where
  kind := error.kind
  about := .ofString (error.subject.getD error.message)
  details :=
    match error.details with
    | none => .null
    | some details => .ofString details

/-- A failure is given by its kind, by what it is about, and by its details. -/
theorem ofKind_kind (error : HostError) :
    ofKind error.kind (error.subject.getD error.message) error.details = error := by
  cases error <;> rfl

theorem message_report (error : HostError) :
    error.report.message = .ofString error.message := by
  cases error with
  | probe helper _ => exact Report.around_ofString _ helper _
  | query interface _ => exact Report.around_ofString _ interface _
  | dependency name _ => exact Report.around_ofString _ name _
  | general | channel | argument => rfl

/-- The host and a report of its failure say the same. -/
theorem text?_report (error : HostError) :
    error.report.text? = some (wide error.text.toList) := by
  rw [Report.text?, message_report, text]
  cases given : error.details with
  | none => simp [report, given, Json.truthy, Json.ofString]
  | some details =>
      by_cases empty : details = ""
      · simp [report, given, empty, Json.truthy, Json.ofString, wide]
      · have letters : details.toList ≠ [] := by simpa using empty
        simp [report, given, Json.truthy, Json.ofString, Json.display, wide, letters]

end HostError

end ExtcapHost
