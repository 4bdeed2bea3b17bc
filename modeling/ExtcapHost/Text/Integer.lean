/-
Module: ExtcapHost.Text.Integer
Purpose: Decimal integers as text.
Main exports:
  digitLimit, readInteger, writeNatural, writeInteger, numeral
-/
import ExtcapHost.Text.Blank
import ExtcapHost.Text.Digit

namespace ExtcapHost.Text

/-- The most digits, leading zeros included, that an integer may be read from. -/
def digitLimit : Nat := 4300

/-- The digits after the first one.  A single underscore may stand between two
digits. -/
def digitTail? : List Char → Option (List Nat)
  | [] => some []
  | '_' :: c :: rest =>
      match digitValue? c, digitTail? rest with
      | some d, some ds => some (d :: ds)
      | _, _ => none
  | c :: rest =>
      match digitValue? c, digitTail? rest with
      | some d, some ds => some (d :: ds)
      | _, _ => none

/-- The digits of an unsigned integer; there is at least one. -/
def digits? : List Char → Option (List Nat)
  | [] => none
  | c :: rest =>
      match digitValue? c, digitTail? rest with
      | some d, some ds => some (d :: ds)
      | _, _ => none

/-- The number that a row of decimal digits stands for. -/
def numeral (digits : List Nat) : Nat :=
  digits.foldl (fun value digit => 10 * value + digit) 0

/-- An unsigned integer of at most `digitLimit` digits. -/
def readNatural (text : List Char) : Option Nat :=
  match digits? text with
  | some digits => if digits.length ≤ digitLimit then some (numeral digits) else none
  | none => none

/-- An integer with an optional sign and blanks around it. -/
def readInteger (text : List Char) : Option Int :=
  match trim text with
  | '-' :: rest => (readNatural rest).map fun n => -(n : Int)
  | '+' :: rest => (readNatural rest).map Int.ofNat
  | rest => (readNatural rest).map Int.ofNat

/-- The character of a decimal digit. -/
def digitChar (digit : Nat) : Char :=
  Char.ofNat (0x30 + digit)

/-- A natural number without leading zeros. -/
def writeNatural (n : Nat) : List Char :=
  if n < 10 then [digitChar n] else writeNatural (n / 10) ++ [digitChar (n % 10)]
termination_by n
decreasing_by omega

/-- An integer without leading zeros; a negative one after a minus sign. -/
def writeInteger (n : Int) : List Char :=
  if n < 0 then '-' :: writeNatural n.natAbs else writeNatural n.natAbs

/-- A natural number in hexadecimal, without leading zeros. -/
def writeHex (n : Nat) : List Char :=
  Nat.toDigits 16 n

/-- Text filled up on the left to a width. -/
def padLeft (width : Nat) (fill : Char) (text : List Char) : List Char :=
  List.replicate (width - text.length) fill ++ text

end ExtcapHost.Text
