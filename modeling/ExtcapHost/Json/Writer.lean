/-
Module: ExtcapHost.Json.Writer
Purpose: JSON text in ASCII, indented by two blanks a level.
Main exports:
  Json.writeLetter, Json.writeText, Json.write
-/
import ExtcapHost.Json.Value
import ExtcapHost.Number.Shortest

namespace ExtcapHost.Json

open Text

/-- The escape of a 16-bit unit. -/
def unitEscape (unit : Nat) : List Char :=
  '\\' :: 'u' :: padLeft 4 '0' (writeHex unit)

/-- The escape of a code point: one unit, or the two surrogates of a code point
beyond sixteen bits. -/
def codeEscape (code : Nat) : List Char :=
  if code < 0x10000 then unitEscape code
  else
    unitEscape (0xD800 + (code - 0x10000) / 0x400) ++
      unitEscape (0xDC00 + (code - 0x10000) % 0x400)

/-- One code point between quotes.  Only the visible characters of ASCII stand for
themselves. -/
def writeLetter (letter : Letter) : List Char :=
  match letter with
  | .scalar '"' => ['\\', '"']
  | .scalar '\\' => ['\\', '\\']
  | .scalar '\n' => ['\\', 'n']
  | .scalar '\r' => ['\\', 'r']
  | .scalar '\t' => ['\\', 't']
  | .scalar c =>
      if c.toNat = 0x08 then ['\\', 'b']
      else if c.toNat = 0x0C then ['\\', 'f']
      else if ' ' ≤ c ∧ c ≤ '~' then [c]
      else codeEscape c.toNat
  | .lone _ => codeEscape letter.code

/-- Text between quotes. -/
def writeText (letters : List Letter) : List Char :=
  '"' :: letters.flatMap writeLetter ++ ['"']

/-- The start of a line at a level. -/
def newLine (level : Nat) : List Char :=
  '\n' :: List.replicate (2 * level) ' '

mutual

/-- A value at a level, in front of the rest of a text. -/
def writeAt (level : Nat) : Json → List Char → List Char
  | .null, text => "null".toList ++ text
  | .bool true, text => "true".toList ++ text
  | .bool false, text => "false".toList ++ text
  | .integer value, text => writeInteger value ++ text
  | .float value, text => value.write "NaN" "Infinity" ++ text
  | .string letters, text => writeText letters ++ text
  | .list [], text => '[' :: ']' :: text
  | .list (item :: rest), text =>
      '[' :: newLine (level + 1) ++
        writeAt (level + 1) item (writeItems (level + 1) rest (newLine level ++ ']' :: text))
  | .object [], text => '{' :: '}' :: text
  | .object ((name, value) :: rest), text =>
      '{' :: newLine (level + 1) ++ writeText name ++ ':' :: ' ' ::
        writeAt (level + 1) value (writeMembers (level + 1) rest (newLine level ++ '}' :: text))

/-- The values after the first one, in front of the rest of a text. -/
def writeItems (level : Nat) : List Json → List Char → List Char
  | [], text => text
  | item :: rest, text =>
      ',' :: newLine level ++ writeAt level item (writeItems level rest text)

/-- The members after the first one, in front of the rest of a text. -/
def writeMembers (level : Nat) : List (List Letter × Json) → List Char → List Char
  | [], text => text
  | (name, value) :: rest, text =>
      ',' :: newLine level ++ writeText name ++ ':' :: ' ' ::
        writeAt level value (writeMembers level rest text)

end

/-- The text of a value. -/
def write (value : Json) : String :=
  String.ofList (writeAt 0 value [])

end ExtcapHost.Json
