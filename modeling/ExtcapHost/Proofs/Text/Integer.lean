/-
Module: ExtcapHost.Proofs.Text.Integer
Purpose: An integer that is written is read back.
Main exports:
  Text.writeNatural_digits, Text.readInteger_writeInteger
-/
import ExtcapHost.Proofs.Text.Blank
import ExtcapHost.Text.Integer

namespace ExtcapHost.Text

/-! ### Digits -/

theorem digitValue?_digitChar : ∀ digit < 10, digitValue? (digitChar digit) = some digit := by
  decide

theorem digitChar_ne_underscore : ∀ digit < 10, digitChar digit ≠ '_' := by
  decide

theorem digitChar_unsigned : ∀ digit < 10, digitChar digit ≠ '-' ∧ digitChar digit ≠ '+' := by
  decide

theorem digitChar_unblank : ∀ digit < 10, isBlank (digitChar digit) = false := by
  decide

theorem digitTail?_digits {digits : List Nat} (decimal : ∀ digit ∈ digits, digit < 10) :
    digitTail? (digits.map digitChar) = some digits := by
  induction digits with
  | nil => rfl
  | cons digit rest ih =>
      have small := decimal digit (.head _)
      rw [List.map_cons, digitTail?, digitValue?_digitChar digit small,
        ih fun other member => decimal other (.tail _ member)]
      intro c text isUnderscore
      exact absurd isUnderscore (digitChar_ne_underscore digit small)

theorem digits?_digits {digits : List Nat} (decimal : ∀ digit ∈ digits, digit < 10)
    (present : digits ≠ []) : digits? (digits.map digitChar) = some digits := by
  cases digits with
  | nil => exact absurd rfl present
  | cons digit rest =>
      rw [List.map_cons, digits?, digitValue?_digitChar digit (decimal digit (.head _)),
        digitTail?_digits fun other member => decimal other (.tail _ member)]

theorem numeral_snoc (digits : List Nat) (last : Nat) :
    numeral (digits ++ [last]) = 10 * numeral digits + last := by
  simp only [numeral, List.foldl_append, List.foldl_cons, List.foldl_nil]

/-- A written number is a row of decimal digits that stand for it. -/
theorem writeNatural_digits (n : Nat) :
    ∃ digits, writeNatural n = digits.map digitChar ∧ (∀ digit ∈ digits, digit < 10) ∧
      digits ≠ [] ∧ numeral digits = n := by
  induction n using writeNatural.induct with
  | case1 n small =>
      refine ⟨[n], ?_, ?_, List.cons_ne_nil _ _, ?_⟩
      · rw [writeNatural, if_pos small]
        rfl
      · intro digit member
        rw [List.mem_singleton.mp member]
        exact small
      · rw [numeral, List.foldl_cons, List.foldl_nil, Nat.mul_zero, Nat.zero_add]
  | case2 n large ih =>
      obtain ⟨digits, written, decimal, present, value⟩ := ih
      refine ⟨digits ++ [n % 10], ?_, ?_, by simp, ?_⟩
      · rw [writeNatural, if_neg large, written, List.map_append]
        rfl
      · intro digit member
        rcases List.mem_append.mp member with front | last
        · exact decimal digit front
        · rw [List.mem_singleton.mp last]
          exact Nat.mod_lt n (by decide)
      · rw [numeral_snoc, value]
        omega

theorem readNatural_writeNatural {n : Nat} (short : (writeNatural n).length ≤ digitLimit) :
    readNatural (writeNatural n) = some n := by
  obtain ⟨digits, written, decimal, present, value⟩ := writeNatural_digits n
  rw [written, List.length_map] at short
  rw [written, readNatural, digits?_digits decimal present]
  simp only [short, if_true, value]

theorem mem_writeNatural {n : Nat} {c : Char} (member : c ∈ writeNatural n) :
    ∃ digit < 10, c = digitChar digit := by
  obtain ⟨digits, written, decimal, -, -⟩ := writeNatural_digits n
  rw [written] at member
  obtain ⟨digit, present, rfl⟩ := List.mem_map.mp member
  exact ⟨digit, decimal digit present, rfl⟩

theorem mem_writeInteger {n : Int} {c : Char} (member : c ∈ writeInteger n) :
    c = '-' ∨ ∃ digit < 10, c = digitChar digit := by
  rw [writeInteger] at member
  split at member
  · exact (List.mem_cons.mp member).imp_right mem_writeNatural
  · exact .inr (mem_writeNatural member)

theorem writeInteger_unblank (n : Int) : ∀ c ∈ writeInteger n, isBlank c = false := by
  intro c member
  rcases mem_writeInteger member with rfl | ⟨digit, small, rfl⟩
  · rfl
  · exact digitChar_unblank digit small

/-- A written natural number has no sign. -/
theorem writeNatural_unsigned (n : Nat) {c : Char} {rest : List Char}
    (written : writeNatural n = c :: rest) : c ≠ '-' ∧ c ≠ '+' := by
  have member : c ∈ writeNatural n := by
    rw [written]
    exact .head _
  obtain ⟨digit, small, rfl⟩ := mem_writeNatural member
  exact digitChar_unsigned digit small

/-- Every integer with no more digits than may be read comes back. -/
theorem readInteger_writeInteger {n : Int}
    (short : (writeNatural n.natAbs).length ≤ digitLimit) :
    readInteger (writeInteger n) = some n := by
  have read := readNatural_writeNatural short
  rw [readInteger, trim_of_unblank (writeInteger_unblank n), writeInteger]
  by_cases negative : n < 0
  · have value : -(n.natAbs : Int) = n := by omega
    simp only [negative, if_true, read]
    exact congrArg some value
  · have value : (n.natAbs : Int) = n := by omega
    rw [if_neg negative]
    split
    next minus => exact absurd rfl (writeNatural_unsigned _ minus).1
    next plus => exact absurd rfl (writeNatural_unsigned _ plus).2
    next => rw [read, Option.map_some, Int.ofNat_eq_natCast, value]

end ExtcapHost.Text
