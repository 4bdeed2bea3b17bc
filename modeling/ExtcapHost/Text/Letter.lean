/-
Module: ExtcapHost.Text.Letter
Purpose: Text that may hold unpaired surrogates.
Main exports:
  Letter, Letter.code, Letter.ofUnit, wide, narrow
-/

namespace ExtcapHost.Text

/-- A code point: a Unicode scalar value, or a surrogate that stands alone.  The
escapes of a settings file can spell both. -/
inductive Letter where
  | scalar (c : Char)
  | lone (offset : Fin 2048)
deriving DecidableEq, Repr, Inhabited

/-- The number of a code point. -/
def Letter.code : Letter → Nat
  | .scalar c => c.toNat
  | .lone offset => 0xD800 + offset.val

/-- A 16-bit number as a code point. -/
def Letter.ofUnit (unit : Nat) : Letter :=
  if h : 0xD800 ≤ unit ∧ unit < 0xE000 then
    .lone ⟨unit - 0xD800, by omega⟩
  else
    .scalar (Char.ofNat unit)

/-- Text without surrogates as a row of code points. -/
def wide (text : List Char) : List Letter :=
  text.map .scalar

/-- A row of code points as text.  A surrogate has no place there and becomes
the replacement character. -/
def narrow (letters : List Letter) : List Char :=
  letters.map fun letter =>
    match letter with
    | .scalar c => c
    | .lone _ => Char.ofNat 0xFFFD

@[simp] theorem narrow_wide (text : List Char) : narrow (wide text) = text := by
  induction text with
  | nil => rfl
  | cons c rest ih => simpa [narrow, wide] using ih

theorem wide_append (front back : List Char) :
    wide (front ++ back) = wide front ++ wide back :=
  List.map_append

/-- The characters a format prescribes, in texts of either kind. -/
class Spelling (α : Type) where
  /-- The given character. -/
  ofChar : Char → α

instance : Spelling Char where
  ofChar := id

instance : Spelling Letter where
  ofChar := .scalar

end ExtcapHost.Text
