/-
Module: ExtcapHost.Proofs.Json.Reading
Purpose: What values the reader returns.
Main exports:
  Json.Reads, Json.Reads.holds, Json.read_readable
-/
import ExtcapHost.Proofs.Json.RoundTrip

/-!
The reader returns no value that it would not read again for want of levels or digits, or
because a name came twice: a read value has no more levels than were left, its integers have
no more digits than may be read, and the names in its objects are distinct.
-/

namespace ExtcapHost.Json

open Text

/-- What the functions of the reader return with so many steps and levels left. -/
structure Reads (fuel depth : Nat) : Prop where
  value : ∀ {text rest : List Char} {value : Json},
    readValue fuel depth text = .ok (value, rest) → Readable depth value
  items : ∀ {text rest : List Char} {items : List Json},
    readItems fuel depth text = .ok (items, rest) → ∀ item ∈ items, Readable depth item
  members : ∀ {text rest : List Char} {members : List (List Letter × Json)},
    readMembers fuel depth text = .ok (members, rest) →
      ∀ name value, (name, value) ∈ members → Readable depth value

/-- What was mapped was read. -/
theorem ok_of_map {α β : Type} {found : Except ReadError α} {f : α → β} {result : β}
    (read : found.map f = .ok result) : ∃ value, found = .ok value ∧ f value = result := by
  cases found with
  | error error => cases read
  | ok value =>
      cases read
      exact ⟨value, rfl, rfl⟩

theorem readWord_value {word : String} {meaning value : Json} {text rest : List Char}
    (read : readWord word meaning text = .ok (value, rest)) : value = meaning := by
  rw [readWord] at read
  split at read
  · cases read
    rfl
  · cases read

/-- A scalar value needs no levels. -/
theorem readScalar_readable {depth : Nat} {text rest : List Char} {value : Json}
    (read : readScalar text = .ok (value, rest)) : Readable depth value := by
  have number : ∀ {negative : Bool} {text : List Char},
      readMagnitude negative text = .ok (value, rest) → Readable depth value := by
    intro negative text read
    rcases readMagnitude_outcome read with ⟨n, rfl, short⟩ | ⟨number, rfl⟩
    · exact .integer depth short
    · exact .float depth number
  unfold readScalar at read
  split at read
  next =>
    obtain ⟨found, -, same⟩ := ok_of_map read
    cases same
    exact .string depth _
  next => exact readWord_value read ▸ .null depth
  next => exact readWord_value read ▸ .bool depth true
  next => exact readWord_value read ▸ .bool depth false
  next => exact readWord_value read ▸ .float depth _
  next => exact readWord_value read ▸ .float depth _
  next => exact readWord_value read ▸ .float depth _
  next => exact number read
  next => exact number read

namespace Reads

variable {fuel depth : Nat} {text rest : List Char}

/-- A value is a scalar, or has the values inside of it that the reader returned. -/
theorem value_succ (less : ∀ depth, Reads fuel depth) {value : Json}
    (read : readValue (fuel + 1) depth text = .ok (value, rest)) : Readable depth value := by
  by_cases bracket : ∃ later, text = '[' :: later
  · obtain ⟨later, rfl⟩ := bracket
    cases depth with
    | zero => cases read
    | succ depth =>
        rw [readValue] at read
        split at read
        · cases read
          exact .list (List.forall_mem_nil _)
        · obtain ⟨found, inside, same⟩ := ok_of_map read
          cases same
          exact .list ((less depth).items inside)
  · by_cases brace : ∃ later, text = '{' :: later
    · obtain ⟨later, rfl⟩ := brace
      cases depth with
      | zero => cases read
      | succ depth =>
          rw [readValue] at read
          split at read
          · cases read
            exact .object .nil fun name value member => absurd member List.not_mem_nil
          · obtain ⟨found, inside, same⟩ := ok_of_map read
            cases same
            refine .object (Ordered.nodup_keys_ofPairs found.1) fun name value member => ?_
            exact (less depth).members inside name value (Ordered.mem_ofPairs member)
    · rw [readValue] at read
      · exact readScalar_readable read
      · exact fun later same => bracket ⟨later, same⟩
      · exact fun later same => brace ⟨later, same⟩

theorem items_succ (less : Reads fuel depth) {items : List Json}
    (read : readItems (fuel + 1) depth text = .ok (items, rest)) :
    ∀ item ∈ items, Readable depth item := by
  rw [readItems] at read
  split at read
  · cases read
  · rename_i item later first
    split at read
    · cases read
      exact List.forall_mem_singleton.mpr (less.value first)
    · obtain ⟨found, others, same⟩ := ok_of_map read
      cases same
      exact List.forall_mem_cons.mpr ⟨less.value first, less.items others⟩
    · cases read

theorem members_succ (less : Reads fuel depth) {members : List (List Letter × Json)}
    (read : readMembers (fuel + 1) depth text = .ok (members, rest)) :
    ∀ name value, (name, value) ∈ members → Readable depth value := by
  by_cases quoted : ∃ later, text = '"' :: later
  · obtain ⟨later, rfl⟩ := quoted
    rw [readMembers] at read
    split at read
    · cases read
    · split at read
      · split at read
        · cases read
        · rename_i first
          split at read
          · cases read
            intro name value member
            cases List.mem_singleton.mp member
            exact less.value first
          · obtain ⟨found, others, same⟩ := ok_of_map read
            cases same
            intro name value member
            rcases List.mem_cons.mp member with here | later
            · cases here
              exact less.value first
            · exact less.members others name value later
          · cases read
      · cases read
  · rw [readMembers] at read
    · cases read
    · exact fun later same => quoted ⟨later, same⟩

/-- Whatever the reader returns, with any number of steps, can be read. -/
theorem holds (fuel depth : Nat) : Reads fuel depth := by
  induction fuel generalizing depth with
  | zero => exact ⟨nofun, nofun, nofun⟩
  | succ fuel ih =>
      exact ⟨value_succ ih, items_succ (ih depth), members_succ (ih depth)⟩

end Reads

/-- A value that was read can be read again from its own text. -/
theorem read_readable {depth : Nat} {text : String} {value : Json}
    (found : read depth text = .ok value) : Readable depth value := by
  rw [read] at found
  split at found
  · cases found
  · rename_i first
    split at found
    · cases found
      exact (Reads.holds _ depth).value first
    · cases found

end ExtcapHost.Json
