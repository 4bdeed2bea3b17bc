/-
Module: ExtcapHost.Machine.Interpreter
Purpose: The program that a text file asks to be run by.
Main exports:
  headerLimit, Interpreter, interpreter?
-/
import ExtcapHost.Text.Utf8

/-!
A file that begins with a number sign and an exclamation mark names its interpreter
behind them, and may have one argument for it.  The system looks at the first bytes
only, and has to see where the name ends: at a blank, at a zero byte, or at the end of
the line.
-/

namespace ExtcapHost

/-- How many bytes of a file are looked at. -/
def headerLimit : Nat := 256

/-- The byte is a space or a tab. -/
def isBlankByte (byte : UInt8) : Bool :=
  byte = 0x20 || byte = 0x09

/-- The byte ends the name of an interpreter. -/
def endsName (byte : UInt8) : Bool :=
  isBlankByte byte || byte = 0

/-- Who a file is to be run by: a name, and an argument that comes before the name of
the file.  The argument may hold blanks. -/
structure Interpreter where
  name : String
  argument : Option String
deriving DecidableEq, Repr, Inhabited

namespace Interpreter

/-- Bytes as text, up to a zero byte. -/
def textOf (bytes : List UInt8) : String :=
  String.ofList (Text.decodeUtf8 (bytes.takeWhile (· ≠ 0)))

/-- The interpreter that a row of bytes names.  Blanks around the row do not count.  A
zero byte ends the row, but there is an argument if a blank comes before it. -/
def ofRow? (row : List UInt8) : Option Interpreter :=
  match (row.reverse.dropWhile isBlankByte).reverse.dropWhile isBlankByte with
  | [] => none
  | row =>
      let name := row.takeWhile fun byte => !endsName byte
      match row.drop name.length with
      | [] => some ⟨textOf name, none⟩
      | byte :: rest =>
          if byte = 0 then some ⟨textOf name, none⟩
          else some ⟨textOf name, some (textOf (rest.dropWhile isBlankByte))⟩

/-- The name of an interpreter in a row of bytes comes to its end. -/
def isWhole (row : List UInt8) : Bool :=
  (row.dropWhile isBlankByte).any endsName

end Interpreter

/-- The interpreter that a text asks for.  Behind the end of a short text there are
zero bytes.  A line that is longer than what is looked at loses its end. -/
def interpreter? (text : String) : Option Interpreter :=
  match text.toUTF8.toList.take headerLimit with
  | 0x23 :: 0x21 :: rest =>
      let line := rest.takeWhile fun byte => byte ≠ 0x0A && byte ≠ 0
      if (rest.drop line.length).head? = some 0x0A then Interpreter.ofRow? line
      else
        let row := rest ++ List.replicate (headerLimit - 2 - rest.length) 0
        if Interpreter.isWhole row then Interpreter.ofRow? row.dropLast else none
  | _ => none

end ExtcapHost
