/-
Module: ExtcapHost.Text.Quoted
Purpose: Text between quotes, with escapes for what cannot be seen.
Main exports:
  quote, quoteString
-/
import ExtcapHost.Text.Integer
import ExtcapHost.Text.Letter
import ExtcapHost.Text.Printable

namespace ExtcapHost.Text

/-- A code point in hexadecimal: two digits after an x, four after a u, or eight
after a capital U, whichever is the first that has room for it. -/
def hexEscape (code : Nat) : List Char :=
  if code < 0x100 then '\\' :: 'x' :: padLeft 2 '0' (writeHex code)
  else if code < 0x10000 then '\\' :: 'u' :: padLeft 4 '0' (writeHex code)
  else '\\' :: 'U' :: padLeft 8 '0' (writeHex code)

/-- One code point of a text between the given quotes. -/
def quoteLetter (mark : Char) (letter : Letter) : List Char :=
  match letter with
  | .lone _ => hexEscape letter.code
  | .scalar c =>
      if c = mark ∨ c = '\\' then ['\\', c]
      else if c = '\t' then ['\\', 't']
      else if c = '\n' then ['\\', 'n']
      else if c = '\r' then ['\\', 'r']
      else if isPrintable c.toNat then [c]
      else hexEscape c.toNat

/-- Text stands between single quotes, or between double quotes when it holds
single quotes and no double ones. -/
def quoteMark (letters : List Letter) : Char :=
  if .scalar '\'' ∈ letters ∧ .scalar '"' ∉ letters then '"' else '\''

/-- A row of code points between quotes. -/
def quote (letters : List Letter) : List Char :=
  let mark := quoteMark letters
  mark :: letters.flatMap (quoteLetter mark) ++ [mark]

/-- Text between quotes. -/
def quoteString (text : String) : String :=
  String.ofList (quote (wide text.toList))

end ExtcapHost.Text
