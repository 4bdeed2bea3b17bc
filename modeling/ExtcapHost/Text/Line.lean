/-
Module: ExtcapHost.Text.Line
Purpose: Cutting text into lines.
Main exports:
  isLineBreak, lines
-/

namespace ExtcapHost.Text

/-- The characters that end a line.  A carriage return and the line feed right
after it end one line together. -/
def isLineBreak (c : Char) : Bool :=
  let n := c.toNat
  (0x0A ≤ n && n ≤ 0x0D) || (0x1C ≤ n && n ≤ 0x1E) || n == 0x85 || n == 0x2028 || n == 0x2029

/-- The lines of a text, without what ends them.  Text that ends in a line break
has no further empty line after it. -/
def lines : List Char → List (List Char)
  | [] => []
  | '\r' :: '\n' :: rest => [] :: lines rest
  | c :: rest =>
      if isLineBreak c then
        [] :: lines rest
      else
        match lines rest with
        | [] => [[c]]
        | line :: more => (c :: line) :: more

@[simp] theorem lines_nil : lines [] = [] := by
  simp [lines]

end ExtcapHost.Text
