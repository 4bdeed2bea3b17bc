/-
Module: ExtcapHost.Text.Utf8
Purpose: Reading the bytes that a program wrote.
Main exports:
  decodeUtf8, unifyLineEnds, decodeOutput
-/

namespace ExtcapHost.Text

/-- The character that stands for bytes which are not UTF-8. -/
def replacement : Char := Char.ofNat 0xFFFD

/-- A character whose first bytes have been read: how many are owed, the bounds
of the next one, and the bits so far. -/
structure OwedBytes where
  count : Nat
  low : Nat
  high : Nat
  bits : Nat
deriving DecidableEq, Repr

/-- What the first byte of a character opens. -/
inductive LeadByte where
  | complete (c : Char)
  | opens (owed : OwedBytes)
  | refused
deriving DecidableEq, Repr

/-- The role of a byte between two characters. -/
def leadByte (byte : Nat) : LeadByte :=
  if byte < 0x80 then .complete (Char.ofNat byte)
  else if byte < 0xC2 then .refused
  else if byte < 0xE0 then .opens ⟨1, 0x80, 0xBF, byte - 0xC0⟩
  else if byte = 0xE0 then .opens ⟨2, 0xA0, 0xBF, 0⟩
  else if byte = 0xED then .opens ⟨2, 0x80, 0x9F, 0xD⟩
  else if byte < 0xF0 then .opens ⟨2, 0x80, 0xBF, byte - 0xE0⟩
  else if byte = 0xF0 then .opens ⟨3, 0x90, 0xBF, 0⟩
  else if byte < 0xF4 then .opens ⟨3, 0x80, 0xBF, byte - 0xF0⟩
  else if byte = 0xF4 then .opens ⟨3, 0x80, 0x8F, 4⟩
  else .refused

/-- Decode the bytes that follow an open character.  A byte that cannot continue
it ends it: the part read so far becomes one replacement character, and the byte
is read anew. -/
def decodeFrom : Option OwedBytes → List UInt8 → List Char
  | none, [] => []
  | some _, [] => [replacement]
  | none, byte :: rest =>
      match leadByte byte.toNat with
      | .complete c => c :: decodeFrom none rest
      | .opens owed => decodeFrom (some owed) rest
      | .refused => replacement :: decodeFrom none rest
  | some owed, byte :: rest =>
      if owed.low ≤ byte.toNat ∧ byte.toNat ≤ owed.high then
        let bits := owed.bits * 0x40 + (byte.toNat - 0x80)
        if owed.count = 1 then Char.ofNat bits :: decodeFrom none rest
        else decodeFrom (some ⟨owed.count - 1, 0x80, 0xBF, bits⟩) rest
      else
        match leadByte byte.toNat with
        | .complete c => replacement :: c :: decodeFrom none rest
        | .opens fresh => replacement :: decodeFrom (some fresh) rest
        | .refused => replacement :: replacement :: decodeFrom none rest

/-- The text of a row of bytes. -/
def decodeUtf8 (bytes : List UInt8) : List Char :=
  decodeFrom none bytes

/-- Write every line end of one or two characters as a line feed. -/
def unifyLineEnds : List Char → List Char
  | [] => []
  | '\r' :: '\n' :: rest => '\n' :: unifyLineEnds rest
  | c :: rest => (if c = '\r' then '\n' else c) :: unifyLineEnds rest

/-- The text of a program's output. -/
def decodeOutput (bytes : List UInt8) : String :=
  String.ofList (unifyLineEnds (decodeUtf8 bytes))

end ExtcapHost.Text
