/-
Module: ExtcapHost.Number.Reading
Purpose: Reading binary numbers from text.
Main exports:
  readBinary64
-/
import ExtcapHost.Number.Binary64
import ExtcapHost.Text.Integer
import ExtcapHost.Text.Lowercase

namespace ExtcapHost

open Text

/-- The blanks that may stand around a number: those of a typewriter, and all
blanks beyond ASCII. -/
def isNumberBlank (c : Char) : Bool :=
  if c.toNat < 0x80 then (0x09 ≤ c.toNat && c.toNat ≤ 0x0D) || c == ' ' else isBlank c

/-- A part of a number as written: a digit of any script by its value, or another
character. -/
inductive NumberPart where
  | digit (value : Nat)
  | other (c : Char)
deriving DecidableEq, Repr

namespace NumberPart

/-- The part that a character is. -/
def ofChar (c : Char) : NumberPart :=
  match digitValue? c with
  | some value => .digit value
  | none => .other c

/-- The value of a digit. -/
def value? : NumberPart → Option Nat
  | .digit value => some value
  | .other _ => none

/-- The part is a digit. -/
def isDigit (part : NumberPart) : Bool :=
  part.value?.isSome

/-- The parts without the underscores between two digits.  Any other underscore
spoils the number. -/
def withoutUnderscores : List NumberPart → Option (List NumberPart)
  | [] => some []
  | .digit value :: .other '_' :: .digit value' :: rest =>
      (withoutUnderscores (.digit value' :: rest)).map (.digit value :: ·)
  | .other '_' :: _ => none
  | part :: rest => (withoutUnderscores rest).map (part :: ·)

/-- The digits at the front, and what follows. -/
def takeDigits (parts : List NumberPart) : List Nat × List NumberPart :=
  ((parts.takeWhile isDigit).filterMap value?, parts.dropWhile isDigit)

end NumberPart

/-- The exponent that ends a number, zero if nothing is left. -/
def readExponent : List NumberPart → Option Int
  | [] => some 0
  | .other mark :: rest =>
      if mark = 'e' ∨ mark = 'E' then
        let (negative, rest) :=
          match rest with
          | .other '-' :: rest => (true, rest)
          | .other '+' :: rest => (false, rest)
          | rest => (false, rest)
        match NumberPart.takeDigits rest with
        | (digit :: digits, []) =>
            let size : Int := numeral (digit :: digits)
            some (if negative then -size else size)
        | _ => none
      else
        none
  | .digit _ :: _ => none

/-- A number of digits with an optional point and exponent. -/
def readDecimal (negative : Bool) (parts : List NumberPart) : Option Binary64 :=
  let (whole, rest) := NumberPart.takeDigits parts
  let (fraction, rest) :=
    match rest with
    | .other '.' :: rest => NumberPart.takeDigits rest
    | rest => ([], rest)
  if whole.isEmpty && fraction.isEmpty then none
  else
    (readExponent rest).map fun exponent =>
      .ofDecimal negative (numeral (whole ++ fraction)) (exponent - fraction.length)

/-- A number without its sign: a word for one without digits, or a decimal. -/
def readUnsigned (negative : Bool) (text : List Char) : Option Binary64 :=
  let word := text.map Char.toLower
  if word = "nan".toList then some .nan
  else if word = "inf".toList ∨ word = "infinity".toList then some (.infinite negative)
  else
    match NumberPart.withoutUnderscores (text.map NumberPart.ofChar) with
    | some parts => readDecimal negative parts
    | none => none

/-- A number with an optional sign and blanks around it. -/
def readBinary64 (text : String) : Option Binary64 :=
  let front := text.toList.dropWhile isNumberBlank
  match (front.reverse.dropWhile isNumberBlank).reverse with
  | '-' :: rest => readUnsigned true rest
  | '+' :: rest => readUnsigned false rest
  | rest => readUnsigned false rest

end ExtcapHost
