/-
Module: ExtcapHost.Proofs.Json.Text
Purpose: Text between quotes is read as it was written.
Main exports:
  Text.padLeft_writeHex, Json.unit?_written, Json.readText_writeLetter, Json.readText_written
-/
import ExtcapHost.Json.Reader
import ExtcapHost.Json.Writer

/-!
Every letter is read by itself, whether it stands for itself, is escaped by one character,
by its number, or by the numbers of two surrogates.  Only an escape by number looks ahead,
for a second surrogate; a letter that is no surrogate does not wait for one.
-/

namespace ExtcapHost

namespace Text

/-- The last digit of a padded number is that of the number. -/
theorem padLeft_writeHex_succ (width n : Nat) :
    padLeft (width + 2) '0' (writeHex n) =
      padLeft (width + 1) '0' (writeHex (n / 16)) ++ [Nat.digitChar (n % 16)] := by
  rw [writeHex, Nat.toDigits_eq_if (by decide)]
  split
  · rename_i small
    rw [Nat.div_eq_of_lt small, Nat.mod_eq_of_lt small, padLeft, padLeft]
    simp [writeHex, List.replicate_succ']
  · simp [padLeft, writeHex]

/-- A number that fits is written in four hexadecimal digits. -/
theorem padLeft_writeHex {n : Nat} (fits : n < 0x10000) :
    padLeft 4 '0' (writeHex n) =
      [Nat.digitChar (n / 16 / 16 / 16), Nat.digitChar (n / 16 / 16 % 16),
        Nat.digitChar (n / 16 % 16), Nat.digitChar (n % 16)] := by
  have first : n / 16 / 16 / 16 < 16 := by omega
  rw [padLeft_writeHex_succ, padLeft_writeHex_succ, padLeft_writeHex_succ, writeHex,
    Nat.toDigits_of_lt_base first]
  rfl

end Text

namespace Json

open Text

/-! ### Escapes by number -/

theorem hexDigit?_digitChar : ∀ digit < 16, hexDigit? (Nat.digitChar digit) = some digit := by
  decide

/-- The escape of a unit is read as that unit. -/
theorem unit?_written {unit : Nat} (fits : unit < 0x10000) :
    ∃ a b c d, unitEscape unit = ['\\', 'u', a, b, c, d] ∧ unit? a b c d = some unit := by
  refine ⟨_, _, _, _, congrArg ('\\' :: 'u' :: ·) (padLeft_writeHex fits), ?_⟩
  rw [unit?, hexDigit?_digitChar _ (by omega), hexDigit?_digitChar _ (by omega),
    hexDigit?_digitChar _ (by omega), hexDigit?_digitChar _ (by omega)]
  simp only [Option.some.injEq]
  omega

/-- A text begins with the escape of a unit, or with something else. -/
theorem escape_or_other (text : List Char) :
    (∃ a b c d rest, text = '\\' :: 'u' :: a :: b :: c :: d :: rest) ∨
      ∀ a b c d rest, text = '\\' :: 'u' :: a :: b :: c :: d :: rest → False := by
  by_cases escaped : ∃ a b c d rest, text = '\\' :: 'u' :: a :: b :: c :: d :: rest
  · exact .inl escaped
  · exact .inr fun a b c d rest same => escaped ⟨a, b, c, d, rest, same⟩

theorem readText_of_no_unit {a b c d : Char} (none : unit? a b c d = none) (rest : List Char) :
    readText ('\\' :: 'u' :: a :: b :: c :: d :: rest) = .error .malformed := by
  rcases escape_or_other rest with ⟨a', b', c', d', later, rfl⟩ | other
  · rw [readText, none]
  · rw [readText.eq_4 _ _ _ _ _ other, none]

/-- A unit that begins no pair of surrogates is a letter, whatever comes behind it. -/
theorem readText_unitEscape {unit : Nat} (fits : unit < 0x10000)
    (single : isHighUnit unit = false) (text : List Char) :
    readText (unitEscape unit ++ text) = consLetter (.ofUnit unit) (readText text) := by
  obtain ⟨a, b, c, d, written, read⟩ := unit?_written fits
  rw [written]
  rcases escape_or_other text with ⟨a', b', c', d', later, rfl⟩ | other
  · simp only [List.cons_append, List.nil_append]
    rw [readText, read]
    cases second : unit? a' b' c' d' with
    | none =>
        rw [readText_of_no_unit second]
        rfl
    | some unit' => simp only [single, Bool.false_and, Bool.false_eq_true, if_false]
  · simp only [List.cons_append, List.nil_append]
    rw [readText.eq_4 _ _ _ _ _ other, read]

/-- The surrogates of a pair are one letter. -/
theorem readText_pair {high low : Nat} (first : isHighUnit high = true)
    (second : isLowUnit low = true) (text : List Char) :
    readText (unitEscape high ++ (unitEscape low ++ text)) =
      consLetter (.scalar (Char.ofNat (0x10000 + (high - 0xD800) * 0x400 + (low - 0xDC00))))
        (readText text) := by
  have bounds : high < 0x10000 ∧ low < 0x10000 := by
    simp only [isHighUnit, isLowUnit, Bool.and_eq_true, decide_eq_true_eq] at first second
    omega
  obtain ⟨a, b, c, d, written, read⟩ := unit?_written bounds.1
  obtain ⟨a', b', c', d', writtenToo, readToo⟩ := unit?_written bounds.2
  rw [written, writtenToo]
  simp only [List.cons_append, List.nil_append]
  rw [readText, read, readToo]
  simp only [first, second, Bool.and_true, if_true]

/-- The escape of a code point is read as the letter with that number. -/
theorem readText_codeEscape (c : Char) (text : List Char) :
    readText (codeEscape c.toNat ++ text) = consLetter (.scalar c) (readText text) := by
  have valid : c.toNat < 0xD800 ∨ (0xDFFF < c.toNat ∧ c.toNat < 0x110000) := c.valid
  rw [codeEscape]
  split
  · rename_i small
    have single : isHighUnit c.toNat = false := by
      simp only [isHighUnit, Bool.and_eq_false_iff, decide_eq_false_iff_not]
      omega
    have letter : Letter.ofUnit c.toNat = .scalar c := by
      rw [Letter.ofUnit, dif_neg (by omega), Char.ofNat_toNat]
    rw [readText_unitEscape small single, letter]
  · rename_i large
    have high : isHighUnit (0xD800 + (c.toNat - 0x10000) / 0x400) = true := by
      simp only [isHighUnit, Bool.and_eq_true, decide_eq_true_eq]
      omega
    have low : isLowUnit (0xDC00 + (c.toNat - 0x10000) % 0x400) = true := by
      simp only [isLowUnit, Bool.and_eq_true, decide_eq_true_eq]
      omega
    have whole : 0x10000 + (0xD800 + (c.toNat - 0x10000) / 0x400 - 0xD800) * 0x400 +
        (0xDC00 + (c.toNat - 0x10000) % 0x400 - 0xDC00) = c.toNat := by
      omega
    rw [List.append_assoc, readText_pair high low, whole, Char.ofNat_toNat]

/-! ### Letters and texts -/

/-- A backslash and one character are the letter that they stand for. -/
theorem readText_simpleEscape {mark c : Char} (other : mark ≠ 'u')
    (escape : simpleEscape? mark = some c) (text : List Char) :
    readText ('\\' :: mark :: text) = consLetter (.scalar c) (readText text) := by
  rw [readText, escape]
  · exact fun _ _ _ _ _ _ _ _ _ same => absurd same other
  · exact fun _ _ _ _ _ same => absurd same other

/-- A visible character stands for itself. -/
theorem readText_visible {c : Char} (quote : c ≠ '"') (backslash : c ≠ '\\')
    (visible : 0x20 ≤ c.toNat) (text : List Char) :
    readText (c :: text) = consLetter (.scalar c) (readText text) := by
  rw [readText, if_neg (Nat.not_lt.mpr visible), if_neg backslash]
  · exact quote
  · exact fun _ _ _ _ _ _ _ _ _ same => absurd same backslash
  · exact fun _ _ _ _ _ same => absurd same backslash
  · exact fun _ _ same => absurd same backslash

/-- What is written for a letter is read as that letter, whatever comes behind it. -/
theorem readText_writeLetter (c : Char) (text : List Char) :
    readText (writeLetter (.scalar c) ++ text) = consLetter (.scalar c) (readText text) := by
  unfold writeLetter
  split
  -- Five letters are known by a mark of their own.
  iterate 5
    next same =>
      cases same
      exact readText_simpleEscape (by decide) rfl text
  next _ quote backslash _ _ _ same =>
    cases same
    split
    · rename_i backspace
      have escape : simpleEscape? 'b' = some c := by
        rw [← Char.ofNat_toNat c, backspace]
        rfl
      exact readText_simpleEscape (by decide) escape text
    · split
      · rename_i formFeed
        have escape : simpleEscape? 'f' = some c := by
          rw [← Char.ofNat_toNat c, formFeed]
          rfl
        exact readText_simpleEscape (by decide) escape text
      · split
        · rename_i visible
          exact readText_visible quote backslash visible.1 text
        · exact readText_codeEscape c text
  next same => cases same

/-- A text is read up to its closing quote. -/
theorem readText_written (text rest : List Char) :
    readText ((wide text).flatMap writeLetter ++ '"' :: rest) = .ok (wide text, rest) := by
  induction text with
  | nil => rfl
  | cons c text ih =>
      rw [wide, List.map_cons, List.flatMap_cons, List.append_assoc, readText_writeLetter,
        ← wide, ih]
      rfl

end Json

end ExtcapHost
