/-
Module: ExtcapHost.CommandLine.Rendering
Purpose: What is shown to an operator, as lines of plain text.
Main exports:
  withoutMarkup, Display.lines, Note.line
-/
import ExtcapHost.CommandLine.Display
import ExtcapHost.Journal

namespace ExtcapHost

/-- The character can begin a tag of markup. -/
def beginsTag (c : Char) : Bool :=
  c.isLower || c = '/'

/-- The text after a tag whose bracket was just read, if it is one. -/
def afterTag? : List Char → Option (List Char)
  | [] => none
  | c :: rest =>
      if beginsTag c then
        match rest.dropWhile fun c => c ≠ ']' && c ≠ '[' with
        | ']' :: after => some after
        | _ => none
      else none

/-- What is left after a tag is shorter. -/
theorem length_afterTag? {text after : List Char} (found : afterTag? text = some after) :
    after.length < text.length := by
  cases text with
  | nil => simp [afterTag?] at found
  | cons c rest =>
      have shorter : (rest.dropWhile fun c => c ≠ ']' && c ≠ '[').length ≤ rest.length :=
        (List.dropWhile_sublist _).length_le
      simp only [afterTag?] at found
      split at found
      · split at found
        · rename_i same
          rw [same] at shorter
          simp only [Option.some.injEq] at found
          subst found
          simp only [List.length_cons] at shorter ⊢
          omega
        · simp at found
      · simp at found

/-- The text without its tags. -/
def withoutTags : List Char → List Char
  | [] => []
  | c :: rest =>
      if c = '[' then
        match found : afterTag? rest with
        | some after =>
            have := length_afterTag? found
            withoutTags after
        | none => c :: withoutTags rest
      else c :: withoutTags rest
termination_by text => text.length

/-- A line without its markup. -/
def withoutMarkup (line : String) : String :=
  String.ofList (withoutTags line.toList)

/-- The cells of a row, two blanks apart. -/
def rowLine (cells : List String) : String :=
  "  ".intercalate cells

namespace Display

/-- What is shown, line by line. -/
def lines : Display → List String
  | .line markup => [withoutMarkup markup]
  | .table title columns rows => title :: rowLine columns :: rows.map rowLine
  | .panel title body => [title, body]

end Display

/-- The name of a level. -/
def Level.word : Level → String
  | .info => "INFO"
  | .warning => "WARNING"
  | .error => "ERROR"

/-- A message with its level. -/
def Note.line (note : Note) : String :=
  note.level.word ++ ": " ++ note.text

end ExtcapHost
