/-
Module: ExtcapHost.Proofs.Sentence
Purpose: How the parameters of a sentence are scanned, one after the other.
Main exports:
  Sentence.scanParameters_of_some, Sentence.scanParameters_of_none,
  Interface.call_ne_empty
-/
import ExtcapHost.Interface

namespace ExtcapHost

namespace Sentence

/-- A parameter at the front is the first one. -/
theorem scanParameters_of_some {text : List Char} {found : ScannedParameter}
    (scanned : parameterAt? text = some found) :
    scanParameters text = (found.key, found.value) :: scanParameters found.rest := by
  rw [scanParameters]
  split
  · rename_i other scannedToo
    cases scanned.symm.trans scannedToo
    rfl
  · rename_i none
    cases scanned.symm.trans none

/-- A character that begins no parameter is passed over. -/
theorem scanParameters_of_none {c : Char} {rest : List Char}
    (none : parameterAt? (c :: rest) = none) :
    scanParameters (c :: rest) = scanParameters rest := by
  rw [scanParameters]
  split
  · rename_i found scanned
    cases none.symm.trans scanned
  · rfl

theorem scanParameters_nil : scanParameters [] = [] := by
  rw [scanParameters]
  rfl

theorem filled?_ne_empty {sentence : Sentence} {key value : String}
    (found : sentence.filled? key = some value) : value ≠ "" := by
  unfold filled? at found
  split at found
  · cases found
  · rename_i other
    rintro rfl
    exact other found

end Sentence

/-- An answer never offers an interface without a name. -/
theorem Interface.call_ne_empty {output : String} {interface : Interface}
    (offered : interface ∈ readAll output) : interface.call ≠ "" := by
  obtain ⟨sentence, -, read⟩ := List.mem_filterMap.mp offered
  unfold ofSentence? at read
  split at read
  · split at read
    · rename_i call found
      cases read
      exact Sentence.filled?_ne_empty found
    · cases read
  · cases read

end ExtcapHost
