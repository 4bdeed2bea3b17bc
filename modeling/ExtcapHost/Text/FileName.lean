/-
Module: ExtcapHost.Text.FileName
Purpose: The bytes of file names.
Main exports:
  letterBytes, fileBytes, utf8Text?
-/
import ExtcapHost.Text.Letter

/-!
The names of files are bytes.  A name that is not UTF-8 is held in text by lone
surrogates, one for each byte that has no character: the byte and 0xDC00 together
are the number of the surrogate.  Other lone surrogates stand for nothing.
-/

namespace ExtcapHost.Text

/-- The bytes of one code point in a file name. -/
def letterBytes : Letter → Option (List UInt8)
  | .scalar c => some (String.utf8EncodeChar c)
  | .lone offset =>
      if 0x480 ≤ offset.val ∧ offset.val < 0x500 then some [(offset.val - 0x400).toUInt8]
      else none

/-- The bytes of a file name, if every code point has some. -/
def fileBytes : List Letter → Option (List UInt8)
  | [] => some []
  | letter :: rest =>
      match letterBytes letter, fileBytes rest with
      | some bytes, some later => some (bytes ++ later)
      | _, _ => none

/-- The text that is written in UTF-8 by the given bytes, if there is one. -/
def utf8Text? (bytes : List UInt8) : Option String :=
  String.fromUTF8? ⟨bytes.toArray⟩

end ExtcapHost.Text
