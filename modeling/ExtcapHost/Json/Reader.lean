/-
Module: ExtcapHost.Json.Reader
Purpose: Reading JSON text.
Main exports:
  Json.ReadError, Json.readText, Json.readMagnitude, Json.readValue, Json.read
-/
import ExtcapHost.Json.Value
import ExtcapHost.Text.Integer

/-!
The reader takes values apart from left to right and stops at the first thing it
cannot read.  Besides the values of the standard it knows three words for binary
numbers without digits.  A name that comes again in an object keeps its place and
takes its last value.
-/

namespace ExtcapHost.Json

open Text

/-- Why a text is not read. -/
inductive ReadError where
  /-- The text is not JSON. -/
  | malformed
  /-- An integer has more digits than can be read. -/
  | tooManyDigits (count : Nat)
  /-- Lists and objects are nested too deeply. -/
  | tooDeep
deriving DecidableEq, Repr

/-- The blanks between values. -/
def isSpace (c : Char) : Bool :=
  c == ' ' || c == '\t' || c == '\n' || c == '\r'

/-- Text without leading blanks. -/
def skipSpace (text : List Char) : List Char :=
  text.dropWhile isSpace

/-- The value of a hexadecimal digit. -/
def hexDigit? (c : Char) : Option Nat :=
  if '0' ≤ c ∧ c ≤ '9' then some (c.toNat - 0x30)
  else if 'a' ≤ c ∧ c ≤ 'f' then some (c.toNat - 0x61 + 10)
  else if 'A' ≤ c ∧ c ≤ 'F' then some (c.toNat - 0x41 + 10)
  else none

/-- The 16-bit unit that four hexadecimal digits stand for. -/
def unit? (a b c d : Char) : Option Nat :=
  match hexDigit? a, hexDigit? b, hexDigit? c, hexDigit? d with
  | some a, some b, some c, some d => some (((a * 16 + b) * 16 + c) * 16 + d)
  | _, _, _, _ => none

/-- What a backslash and one character stand for. -/
def simpleEscape? (c : Char) : Option Char :=
  if c = '"' ∨ c = '\\' ∨ c = '/' then some c
  else if c = 'b' then some (Char.ofNat 0x08)
  else if c = 'f' then some (Char.ofNat 0x0C)
  else if c = 'n' then some '\n'
  else if c = 'r' then some '\r'
  else if c = 't' then some '\t'
  else none

/-- The unit is the first of a surrogate pair. -/
def isHighUnit (unit : Nat) : Bool :=
  0xD800 ≤ unit && unit < 0xDC00

/-- The unit is the second of a surrogate pair. -/
def isLowUnit (unit : Nat) : Bool :=
  0xDC00 ≤ unit && unit < 0xE000

/-- A code point in front of the rest of a text. -/
def consLetter (letter : Letter) (rest : Except ReadError (List Letter × List Char)) :
    Except ReadError (List Letter × List Char) :=
  rest.map fun found => (letter :: found.1, found.2)

/-- The text up to the closing quote, and what follows.  Two escapes that form a
surrogate pair are one code point.  Control characters have to be escaped. -/
def readText : List Char → Except ReadError (List Letter × List Char)
  | [] => .error .malformed
  | '"' :: rest => .ok ([], rest)
  | '\\' :: 'u' :: a :: b :: c :: d :: '\\' :: 'u' :: a' :: b' :: c' :: d' :: rest =>
      match unit? a b c d with
      | none => .error .malformed
      | some unit =>
          match unit? a' b' c' d' with
          | none => .error .malformed
          | some unit' =>
              if isHighUnit unit && isLowUnit unit' then
                consLetter
                  (.scalar (Char.ofNat
                    (0x10000 + (unit - 0xD800) * 0x400 + (unit' - 0xDC00))))
                  (readText rest)
              else
                consLetter (Letter.ofUnit unit)
                  (readText ('\\' :: 'u' :: a' :: b' :: c' :: d' :: rest))
  | '\\' :: 'u' :: a :: b :: c :: d :: rest =>
      match unit? a b c d with
      | none => .error .malformed
      | some unit => consLetter (Letter.ofUnit unit) (readText rest)
  | '\\' :: c :: rest =>
      match simpleEscape? c with
      | none => .error .malformed
      | some c => consLetter (.scalar c) (readText rest)
  | c :: rest =>
      if c.toNat < 0x20 then .error .malformed
      else if c = '\\' then .error .malformed
      else consLetter (.scalar c) (readText rest)

/-- The character is a digit of ASCII. -/
def isDigit (c : Char) : Bool :=
  '0' ≤ c && c ≤ '9'

/-- The digits of a number's fraction, if a point and a digit follow. -/
def fractionOf : List Char → Option (List Char × List Char)
  | '.' :: text =>
      match text.takeWhile isDigit with
      | [] => none
      | digits => some (digits, text.dropWhile isDigit)
  | _ => none

/-- The exponent of a number, if its mark and a digit follow. -/
def exponentOf : List Char → Option (Int × List Char)
  | mark :: text =>
      if mark = 'e' ∨ mark = 'E' then
        let (negative, text) :=
          match text with
          | '-' :: text => (true, text)
          | '+' :: text => (false, text)
          | text => (false, text)
        match text.takeWhile isDigit with
        | [] => none
        | digits =>
            let size : Int := numeral (digits.map fun c => c.toNat - 0x30)
            some (if negative then -size else size, text.dropWhile isDigit)
      else
        none
  | [] => none

/-- A number without its sign.  It has no superfluous leading zeros. -/
def readMagnitude (negative : Bool) (text : List Char) : Except ReadError (Json × List Char) :=
  let (whole, rest) :=
    match text with
    | '0' :: rest => (['0'], rest)
    | text => (text.takeWhile isDigit, text.dropWhile isDigit)
  if whole.isEmpty then .error .malformed
  else
    let (fraction, afterFraction) := (fractionOf rest).getD ([], rest)
    let (exponent, afterExponent) := (exponentOf afterFraction).getD (0, afterFraction)
    if fraction.isEmpty && (exponentOf afterFraction).isNone then
      if digitLimit < whole.length then .error (.tooManyDigits whole.length)
      else
        let size : Int := numeral (whole.map fun c => c.toNat - 0x30)
        .ok (.integer (if negative then -size else size), rest)
    else
      let digits := numeral ((whole ++ fraction).map fun c => c.toNat - 0x30)
      .ok (.float (.ofDecimal negative digits (exponent - fraction.length)), afterExponent)

/-- A word at the front of a text, and what it stands for. -/
def readWord (word : String) (value : Json) (text : List Char) :
    Except ReadError (Json × List Char) :=
  if word.toList.isPrefixOf text then .ok (value, text.drop word.toList.length)
  else .error .malformed

/-- A value that is neither list nor object. -/
def readScalar (text : List Char) : Except ReadError (Json × List Char) :=
  match text with
  | '"' :: rest => (readText rest).map fun found => (.string found.1, found.2)
  | 'n' :: _ => readWord "null" .null text
  | 't' :: _ => readWord "true" (.bool true) text
  | 'f' :: _ => readWord "false" (.bool false) text
  | 'N' :: _ => readWord "NaN" (.float .nan) text
  | 'I' :: _ => readWord "Infinity" (.float (.infinite false)) text
  | '-' :: 'I' :: _ => readWord "-Infinity" (.float (.infinite true)) text
  | '-' :: rest => readMagnitude true rest
  | text => readMagnitude false text

mutual

/-- The value at the front of a text, and what follows.  The first number bounds
the steps, the second one counts the levels left. -/
def readValue : Nat → Nat → List Char → Except ReadError (Json × List Char)
  | 0, _, _ => .error .malformed
  | fuel + 1, depth, '[' :: text =>
      match depth with
      | 0 => .error .tooDeep
      | depth + 1 =>
          match skipSpace text with
          | ']' :: rest => .ok (.list [], rest)
          | text => (readItems fuel depth text).map fun found => (.list found.1, found.2)
  | fuel + 1, depth, '{' :: text =>
      match depth with
      | 0 => .error .tooDeep
      | depth + 1 =>
          match skipSpace text with
          | '}' :: rest => .ok (.object [], rest)
          | text =>
              (readMembers fuel depth text).map fun found =>
                (.object (Ordered.ofPairs found.1), found.2)
  | _ + 1, _, text => readScalar text

/-- The values up to the closing bracket. -/
def readItems : Nat → Nat → List Char → Except ReadError (List Json × List Char)
  | 0, _, _ => .error .malformed
  | fuel + 1, depth, text =>
      match readValue fuel depth text with
      | .error error => .error error
      | .ok (item, text) =>
          match skipSpace text with
          | ']' :: rest => .ok ([item], rest)
          | ',' :: text =>
              (readItems fuel depth (skipSpace text)).map fun found =>
                (item :: found.1, found.2)
          | _ => .error .malformed

/-- The members up to the closing brace. -/
def readMembers : Nat → Nat → List Char →
    Except ReadError (List (List Letter × Json) × List Char)
  | 0, _, _ => .error .malformed
  | fuel + 1, depth, '"' :: text =>
      match readText text with
      | .error error => .error error
      | .ok (name, text) =>
          match skipSpace text with
          | ':' :: text =>
              match readValue fuel depth (skipSpace text) with
              | .error error => .error error
              | .ok (value, text) =>
                  match skipSpace text with
                  | '}' :: rest => .ok ([(name, value)], rest)
                  | ',' :: text =>
                      (readMembers fuel depth (skipSpace text)).map fun found =>
                        ((name, value) :: found.1, found.2)
                  | _ => .error .malformed
          | _ => .error .malformed
  | _ + 1, _, _ => .error .malformed

end

/-- The value that a text is, with blanks around it.  Lists and objects in it may be
nested as deeply as given. -/
def read (depth : Nat) (text : String) : Except ReadError Json :=
  match readValue (2 * text.toList.length + 2) depth (skipSpace text.toList) with
  | .error error => .error error
  | .ok (value, rest) =>
      match skipSpace rest with
      | [] => .ok value
      | _ => .error .malformed

end ExtcapHost.Json
