/-
Module: ExtcapHost.Text.Lowercase
Purpose: Capital letters whose small letter belongs to ASCII.
Main exports:
  lowerAscii, lower
-/

namespace ExtcapHost.Text

/-- The small letter of a capital, if that small letter belongs to ASCII.  These
capitals are the twenty-six of ASCII and the sign for kelvin.  Every other
character stays, so the result can be compared with words of ASCII letters
only. -/
def lowerAscii (c : Char) : Char :=
  if 'A' ≤ c ∧ c ≤ 'Z' then Char.ofNat (c.toNat + 0x20)
  else if c.toNat = 0x212A then 'k'
  else c

/-- Text with its capitals made small. -/
def lower (text : List Char) : List Char :=
  text.map lowerAscii

end ExtcapHost.Text
