/-
Module: ExtcapHost.Proofs.Json.Number
Purpose: Integers in JSON text are read as they were written.
Main exports:
  Json.Ends, Json.readMagnitude_written, Json.readScalar_writeInteger,
  Text.length_writeNatural_le
-/
import ExtcapHost.Json.Reader
import ExtcapHost.Json.Writer
import ExtcapHost.Proofs.Text.Integer
import Mathlib.Algebra.Group.Nat.Defs

namespace ExtcapHost

namespace Text

/-- Only zero is written with a zero in front. -/
theorem writeNatural_front {n : Nat} (positive : n ≠ 0) :
    ∃ digit rest, writeNatural n = digitChar digit :: rest ∧ digit ≠ 0 ∧ digit < 10 := by
  induction n using writeNatural.induct with
  | case1 n small =>
      refine ⟨n, [], ?_, positive, small⟩
      rw [writeNatural, if_pos small]
  | case2 n large ih =>
      obtain ⟨digit, rest, written, nonzero, small⟩ := ih (by omega)
      refine ⟨digit, rest ++ [digitChar (n % 10)], ?_, nonzero, small⟩
      rw [writeNatural, if_neg large, written, List.cons_append]

/-- A number below a power of ten has no more digits than the power says. -/
theorem length_writeNatural_le {n count : Nat} (some : 0 < count) (bound : n < 10 ^ count) :
    (writeNatural n).length ≤ count := by
  induction n using writeNatural.induct generalizing count with
  | case1 n small =>
      rw [writeNatural, if_pos small]
      exact some
  | case2 n large ih =>
      obtain ⟨count, rfl⟩ : ∃ fewer, count = fewer + 1 := ⟨count - 1, by omega⟩
      rw [Nat.pow_succ] at bound
      have more : 0 < count := by
        rcases Nat.eq_zero_or_pos count with rfl | more
        · omega
        · exact more
      have shorter := ih more (by omega)
      rw [writeNatural, if_neg large, List.length_append, List.length_singleton]
      omega

/-- Digits stand for less than the power of ten that counts them. -/
theorem numeral_lt (digits : List Nat) (decimal : ∀ digit ∈ digits, digit < 10) :
    numeral digits < 10 ^ digits.length := by
  have onto : ∀ value, digits.foldl (fun value digit => 10 * value + digit) value <
      (value + 1) * 10 ^ digits.length := by
    induction digits with
    | nil =>
        intro value
        simp
    | cons digit rest ih =>
        intro value
        have small := decimal digit (.head _)
        have later := ih (fun other member => decimal other (.tail _ member)) (10 * value + digit)
        rw [List.foldl_cons, List.length_cons, Nat.pow_succ, Nat.mul_comm (10 ^ rest.length),
          ← Nat.mul_assoc]
        exact Nat.lt_of_lt_of_le later (Nat.mul_le_mul_right _ (by omega))
  have start := onto 0
  rw [Nat.zero_add, Nat.one_mul] at start
  exact start

end Text

namespace Json

open Text

/-- What can come behind a value that was written: nothing, a comma, or a new line. -/
def Ends (rest : List Char) : Prop :=
  rest = [] ∨ (∃ later, rest = ',' :: later) ∨ ∃ later, rest = '\n' :: later

theorem isDigit_digitChar : ∀ digit < 10, isDigit (digitChar digit) = true := by
  decide

theorem toNat_digitChar : ∀ digit < 10, (digitChar digit).toNat - 0x30 = digit := by
  decide

theorem isDigit_writeNatural (n : Nat) : ∀ c ∈ writeNatural n, isDigit c = true := by
  intro c member
  obtain ⟨digit, small, rfl⟩ := mem_writeNatural member
  exact isDigit_digitChar digit small

/-- The digits of a written number stand for it. -/
theorem numeral_writeNatural (n : Nat) :
    numeral ((writeNatural n).map fun c => c.toNat - 0x30) = n := by
  obtain ⟨digits, written, decimal, -, value⟩ := writeNatural_digits n
  have back : (digits.map digitChar).map (fun c => c.toNat - 0x30) = digits := by
    rw [List.map_map]
    refine (List.map_congr_left fun digit member => ?_).trans (List.map_id digits)
    exact toNat_digitChar digit (decimal digit member)
  rw [written, back, value]

namespace Ends

variable {rest : List Char} (ends : Ends rest)

include ends

theorem takeWhile_isDigit : rest.takeWhile isDigit = [] := by
  rcases ends with rfl | ⟨later, rfl⟩ | ⟨later, rfl⟩ <;> rfl

theorem dropWhile_isDigit : rest.dropWhile isDigit = rest := by
  rcases ends with rfl | ⟨later, rfl⟩ | ⟨later, rfl⟩ <;> rfl

/-- Neither a fraction nor an exponent follows. -/
theorem whole : fractionOf rest = none ∧ exponentOf rest = none := by
  rcases ends with rfl | ⟨later, rfl⟩ | ⟨later, rfl⟩ <;> exact ⟨rfl, rfl⟩

end Ends

/-- A natural number with few enough digits is read as it was written. -/
theorem readMagnitude_written (negative : Bool) {n : Nat}
    (short : (writeNatural n).length ≤ digitLimit) {rest : List Char} (ends : Ends rest) :
    readMagnitude negative (writeNatural n ++ rest) =
      .ok (.integer (if negative then -(n : Int) else n), rest) := by
  obtain ⟨noFraction, noExponent⟩ := ends.whole
  have filled : (writeNatural n).isEmpty = false := by
    obtain ⟨digits, written, -, present, -⟩ := writeNatural_digits n
    rw [written]
    simpa using present
  by_cases zero : n = 0
  · have written : writeNatural n = ['0'] := by
      rw [zero, writeNatural, if_pos (by decide)]
      rfl
    rw [written, List.cons_append, List.nil_append, readMagnitude, ← written]
    simp [noFraction, noExponent, filled, numeral_writeNatural, short]
  · have unlike : ∀ later, writeNatural n ++ rest = '0' :: later → False := by
      intro later same
      obtain ⟨digit, more, written, nonzero, small⟩ := writeNatural_front zero
      rw [written, List.cons_append, List.cons.injEq] at same
      have differs : ∀ digit < 10, digit ≠ 0 → digitChar digit ≠ '0' := by decide
      exact differs digit small nonzero same.1
    have front : (writeNatural n ++ rest).takeWhile isDigit = writeNatural n := by
      rw [List.takeWhile_append_of_pos (isDigit_writeNatural n), ends.takeWhile_isDigit,
        List.append_nil]
    have back : (writeNatural n ++ rest).dropWhile isDigit = rest := by
      rw [List.dropWhile_append_of_pos (isDigit_writeNatural n), ends.dropWhile_isDigit]
    rw [readMagnitude, front, back]
    · simp [noFraction, noExponent, filled, numeral_writeNatural, short]
    · exact unlike

/-- A number begins with a digit. -/
theorem readScalar_of_digit {c : Char} (digit : isDigit c = true) (text : List Char) :
    readScalar (c :: text) = readMagnitude false (c :: text) := by
  rw [readScalar]
  all_goals
    intros
    rename_i same
    cases same
    cases digit

/-- So does a number behind a minus sign. -/
theorem readScalar_of_minus {c : Char} (digit : isDigit c = true) (text : List Char) :
    readScalar ('-' :: c :: text) = readMagnitude true (c :: text) := by
  rw [readScalar]
  intro tail same
  cases same
  cases digit

/-- An integer with few enough digits is read as it was written. -/
theorem readScalar_writeInteger {n : Int} (short : (writeNatural n.natAbs).length ≤ digitLimit)
    {rest : List Char} (ends : Ends rest) :
    readScalar (writeInteger n ++ rest) = .ok (.integer n, rest) := by
  obtain ⟨c, more, front⟩ : ∃ c more, writeNatural n.natAbs = c :: more := by
    obtain ⟨digits, written, -, present, -⟩ := writeNatural_digits n.natAbs
    rw [written]
    exact List.exists_cons_of_ne_nil (by simpa using present)
  have digit : isDigit c = true := isDigit_writeNatural n.natAbs c (front ▸ .head _)
  rw [writeInteger]
  split
  · rename_i negative
    have value : -(n.natAbs : Int) = n := by omega
    have read := readMagnitude_written true short ends
    rw [if_pos rfl, value, front] at read
    rw [front, List.cons_append, List.cons_append, readScalar_of_minus digit]
    exact read
  · rename_i positive
    have value : (n.natAbs : Int) = n := by omega
    have read := readMagnitude_written false short ends
    rw [if_neg Bool.false_ne_true, value, front] at read
    rw [front, List.cons_append, readScalar_of_digit digit]
    exact read

/-- A number is written with no more digits than it was read from. -/
theorem length_writeNatural_numeral {whole : List Char} (digits : ∀ c ∈ whole, isDigit c = true)
    (filled : whole.isEmpty = false) :
    (writeNatural (numeral (whole.map fun c => c.toNat - 0x30))).length ≤ whole.length := by
  have decimal : ∀ digit ∈ whole.map (fun c => c.toNat - 0x30), digit < 10 := by
    intro digit member
    obtain ⟨c, inside, rfl⟩ := List.mem_map.mp member
    have range := digits c inside
    simp only [isDigit, Bool.and_eq_true, decide_eq_true_eq] at range
    have last : c.toNat ≤ 0x39 := range.2
    omega
  have bound := numeral_lt _ decimal
  rw [List.length_map] at bound
  refine length_writeNatural_le ?_ bound
  exact List.length_pos_iff.mpr fun empty => by simp [empty] at filled

/-- What a magnitude is read as: an integer with few enough digits to be read again, or a
binary number. -/
theorem readMagnitude_outcome {negative : Bool} {text rest : List Char} {value : Json}
    (read : readMagnitude negative text = .ok (value, rest)) :
    (∃ n, value = .integer n ∧ (writeNatural n.natAbs).length ≤ digitLimit) ∨
      ∃ number, value = .float number := by
  have settle : ∀ {whole : List Char}, (∀ c ∈ whole, isDigit c = true) →
      whole.isEmpty = false → whole.length ≤ digitLimit →
      (writeNatural (Int.natAbs (if negative then
        -(numeral (whole.map fun c => c.toNat - 0x30) : Int)
        else numeral (whole.map fun c => c.toNat - 0x30)))).length ≤ digitLimit := by
    intro whole digits filled few
    have shorter := length_writeNatural_numeral digits filled
    cases negative <;> simpa using Nat.le_trans shorter few
  by_cases zero : ∃ later, text = '0' :: later
  · obtain ⟨later, rfl⟩ := zero
    rw [readMagnitude] at read
    simp only at read
    split at read
    · cases read
    · split at read
      · split at read
        · cases read
        · cases read
          exact .inl ⟨_, rfl, settle (List.forall_mem_singleton.mpr rfl) rfl (by decide)⟩
      · cases read
        exact .inr ⟨_, rfl⟩
  · rw [readMagnitude] at read
    · simp only at read
      split at read
      · cases read
      · rename_i filled
        split at read
        · split at read
          · cases read
          · rename_i few
            cases read
            refine .inl ⟨_, rfl, settle ?_ (by simpa using filled) (Nat.not_lt.mp few)⟩
            exact List.all_eq_true.mp List.all_takeWhile
        · cases read
          exact .inr ⟨_, rfl⟩
    · exact fun later same => zero ⟨later, same⟩

end Json

end ExtcapHost
