/-
Module: ExtcapHost.Proofs.Json.Verbatim
Purpose: What a JSON text says before names that come again are put together.
Main exports:
  Json.merged, Json.verbatimValue, Json.readVerbatim, Json.read_eq_merged,
  Json.lastOf?, Json.memberOf?_merged
-/
import ExtcapHost.Proofs.Json.Reading

/-!
A name may come more than once in an object.  The reader puts the members of an object
together as soon as it has read them, so a value that was read does not show which member
won.  Here a text is read with all its members in place, and what the reader returns is that
with the members put together, on every level.

The two readers go through the same steps.  So the equation is proved for a number of steps
from the same number less one, and each function of the reader is one case.
-/

namespace ExtcapHost.Json

open Text

/-! ### Putting members together -/

mutual

/-- The value with the members of every object in it put together: a name that comes again
keeps its place and takes its last value. -/
def merged : Json → Json
  | .list items => .list (mergedItems items)
  | .object members => .object (Ordered.ofPairs (mergedMembers members))
  | value => value

/-- A row of values, each with its members put together. -/
def mergedItems : List Json → List Json
  | [] => []
  | item :: rest => item.merged :: mergedItems rest

/-- A row of members, the members of each value put together. -/
def mergedMembers : List (List Letter × Json) → List (List Letter × Json)
  | [] => []
  | (name, value) :: rest => (name, value.merged) :: mergedMembers rest

end

theorem mergedMembers_eq_map (members : List (List Letter × Json)) :
    mergedMembers members = members.map fun member => (member.1, member.2.merged) := by
  induction members with
  | nil => rfl
  | cons member rest ih => rw [mergedMembers, ih, List.map_cons]

theorem keys_mergedMembers (members : List (List Letter × Json)) :
    Ordered.keys (mergedMembers members) = Ordered.keys members := by
  rw [mergedMembers_eq_map, Ordered.keys, List.map_map]
  rfl

/-- The value of a name in the text: the last one that is written for it. -/
def lastOf? (name : String) (members : List (List Letter × Json)) : Option Json :=
  (memberOf? name members.reverse).map merged

/-- What is found in members that were put together is what was written last. -/
theorem memberOf?_merged (name : String) (members : List (List Letter × Json)) :
    memberOf? name (Ordered.ofPairs (mergedMembers members)) = lastOf? name members := by
  rw [memberOf?, Ordered.get?_ofPairs, mergedMembers_eq_map, ← List.map_reverse,
    Ordered.get?_map, lastOf?, memberOf?]

/-! ### Reading with all members in place -/

/-- What comes behind a letter in a text that begins with it. -/
def behind? (letter : Char) : List Char → Option (List Char)
  | [] => none
  | head :: rest => if head = letter then some rest else none

theorem behind?_cons (letter : Char) (rest : List Char) :
    behind? letter (letter :: rest) = some rest :=
  if_pos rfl

theorem behind?_of_ne {letter head : Char} (other : head ≠ letter) (rest : List Char) :
    behind? letter (head :: rest) = none :=
  if_neg other

theorem behind?_eq_none {letter : Char} {text : List Char}
    (other : ∀ rest, text = letter :: rest → False) : behind? letter text = none := by
  cases text with
  | nil => rfl
  | cons head rest => exact behind?_of_ne (fun same => other rest (by rw [same])) rest

mutual

/-- The value at the front of a text as it is written, and what follows. -/
def verbatimValue : Nat → Nat → List Char → Except ReadError (Json × List Char)
  | 0, _, _ => .error .malformed
  | fuel + 1, depth, '[' :: text =>
      match depth with
      | 0 => .error .tooDeep
      | depth + 1 =>
          match behind? ']' (skipSpace text) with
          | some rest => .ok (.list [], rest)
          | none =>
              (verbatimItems fuel depth (skipSpace text)).map fun found =>
                (.list found.1, found.2)
  | fuel + 1, depth, '{' :: text =>
      match depth with
      | 0 => .error .tooDeep
      | depth + 1 =>
          match behind? '}' (skipSpace text) with
          | some rest => .ok (.object [], rest)
          | none =>
              (verbatimMembers fuel depth (skipSpace text)).map fun found =>
                (.object found.1, found.2)
  | _ + 1, _, text => readScalar text

/-- The values up to the closing bracket as they are written. -/
def verbatimItems : Nat → Nat → List Char → Except ReadError (List Json × List Char)
  | 0, _, _ => .error .malformed
  | fuel + 1, depth, text =>
      match verbatimValue fuel depth text with
      | .error error => .error error
      | .ok (item, text) =>
          match behind? ']' (skipSpace text), behind? ',' (skipSpace text) with
          | some rest, _ => .ok ([item], rest)
          | none, some text =>
              (verbatimItems fuel depth (skipSpace text)).map fun found =>
                (item :: found.1, found.2)
          | none, none => .error .malformed

/-- The members up to the closing brace as they are written. -/
def verbatimMembers : Nat → Nat → List Char →
    Except ReadError (List (List Letter × Json) × List Char)
  | 0, _, _ => .error .malformed
  | fuel + 1, depth, '"' :: text =>
      match readText text with
      | .error error => .error error
      | .ok (name, text) =>
          match behind? ':' (skipSpace text) with
          | none => .error .malformed
          | some text =>
              match verbatimValue fuel depth (skipSpace text) with
              | .error error => .error error
              | .ok (value, text) =>
                  match behind? '}' (skipSpace text), behind? ',' (skipSpace text) with
                  | some rest, _ => .ok ([(name, value)], rest)
                  | none, some text =>
                      (verbatimMembers fuel depth (skipSpace text)).map fun found =>
                        ((name, value) :: found.1, found.2)
                  | none, none => .error .malformed
  | _ + 1, _, _ => .error .malformed

end

/-- The value that a text is as it is written, with blanks around it. -/
def readVerbatim (depth : Nat) (text : String) : Except ReadError Json :=
  match verbatimValue (2 * text.toList.length + 2) depth (skipSpace text.toList) with
  | .error error => .error error
  | .ok (value, rest) =>
      match skipSpace rest with
      | [] => .ok value
      | _ => .error .malformed

/-! ### The two readers -/

theorem map_of_ok {α β : Type} (f : α → β) (value : α) :
    (Except.ok value : Except ReadError α).map f = .ok (f value) := rfl

/-- A scalar value has no members. -/
theorem merged_of_scalar {text rest : List Char} {value : Json}
    (read : readScalar text = .ok (value, rest)) : value.merged = value := by
  have flat : Readable 0 value := readScalar_readable read
  cases flat <;> rfl

/-- What the functions of the reader return is what is written, with members put together. -/
structure Merges (fuel depth : Nat) : Prop where
  value : ∀ text, readValue fuel depth text =
    (verbatimValue fuel depth text).map fun found => (found.1.merged, found.2)
  items : ∀ text, readItems fuel depth text =
    (verbatimItems fuel depth text).map fun found => (mergedItems found.1, found.2)
  members : ∀ text, readMembers fuel depth text =
    (verbatimMembers fuel depth text).map fun found => (mergedMembers found.1, found.2)

namespace Merges

variable {fuel depth : Nat}

theorem value_succ (less : ∀ depth, Merges fuel depth) (text : List Char) :
    readValue (fuel + 1) depth text =
      (verbatimValue (fuel + 1) depth text).map fun found => (found.1.merged, found.2) := by
  by_cases bracket : ∃ later, text = '[' :: later
  · obtain ⟨later, rfl⟩ := bracket
    cases depth with
    | zero => rfl
    | succ depth =>
        rw [readValue, verbatimValue]
        split
        · rename_i closes
          rw [closes, behind?_cons]
          rfl
        · rename_i goesOn
          rw [behind?_eq_none goesOn, (less depth).items]
          cases verbatimItems fuel depth (skipSpace later) <;> rfl
  · by_cases brace : ∃ later, text = '{' :: later
    · obtain ⟨later, rfl⟩ := brace
      cases depth with
      | zero => rfl
      | succ depth =>
          rw [readValue, verbatimValue]
          split
          · rename_i closes
            rw [closes, behind?_cons]
            rfl
          · rename_i goesOn
            rw [behind?_eq_none goesOn, (less depth).members]
            cases verbatimMembers fuel depth (skipSpace later) <;> rfl
    · have noList : ∀ later, text = '[' :: later → False :=
        fun later same => bracket ⟨later, same⟩
      have noObject : ∀ later, text = '{' :: later → False :=
        fun later same => brace ⟨later, same⟩
      rw [readValue, verbatimValue]
      · cases read : readScalar text with
        | error error => rfl
        | ok found => rw [Except.map, merged_of_scalar read]
      all_goals assumption

theorem items_succ (less : Merges fuel depth) (text : List Char) :
    readItems (fuel + 1) depth text =
      (verbatimItems (fuel + 1) depth text).map fun found => (mergedItems found.1, found.2) := by
  rw [readItems, verbatimItems, less.value]
  cases verbatimValue fuel depth text with
  | error error => rfl
  | ok found =>
      obtain ⟨item, later⟩ := found
      simp only [map_of_ok]
      split
      · rename_i closes
        rw [closes, behind?_cons]
        rfl
      · rename_i next goesOn
        have passed : behind? ']' (',' :: next) = none := behind?_of_ne (by decide) next
        simp only [goesOn, passed, behind?_cons, less.items]
        cases verbatimItems fuel depth (skipSpace next) <;> rfl
      · rename_i noClose noComma
        rw [behind?_eq_none noClose, behind?_eq_none noComma]
        rfl

theorem members_succ (less : Merges fuel depth) (text : List Char) :
    readMembers (fuel + 1) depth text =
      (verbatimMembers (fuel + 1) depth text).map fun found =>
        (mergedMembers found.1, found.2) := by
  by_cases quoted : ∃ later, text = '"' :: later
  · obtain ⟨later, rfl⟩ := quoted
    rw [readMembers, verbatimMembers]
    cases readText later with
    | error error => rfl
    | ok found =>
        obtain ⟨name, text⟩ := found
        simp only []
        split
        · rename_i text colon
          simp only [colon, behind?_cons, less.value]
          cases verbatimValue fuel depth (skipSpace text) with
          | error error => rfl
          | ok found =>
              obtain ⟨value, text⟩ := found
              simp only [map_of_ok]
              split
              · rename_i closes
                rw [closes, behind?_cons]
                rfl
              · rename_i next goesOn
                have passed : behind? '}' (',' :: next) = none :=
                  behind?_of_ne (by decide) next
                simp only [goesOn, passed, behind?_cons, less.members]
                cases verbatimMembers fuel depth (skipSpace next) <;> rfl
              · rename_i noClose noComma
                rw [behind?_eq_none noClose, behind?_eq_none noComma]
                rfl
        · rename_i noColon
          rw [behind?_eq_none noColon]
          rfl
  · have noName : ∀ later, text = '"' :: later → False :=
      fun later same => quoted ⟨later, same⟩
    rw [readMembers, verbatimMembers]
    · rfl
    all_goals assumption

theorem holds (fuel depth : Nat) : Merges fuel depth := by
  induction fuel generalizing depth with
  | zero => exact ⟨fun _ => rfl, fun _ => rfl, fun _ => rfl⟩
  | succ fuel ih => exact ⟨value_succ ih, items_succ (ih depth), members_succ (ih depth)⟩

end Merges

/-- What the reader returns is what is written, with the members of every object put
together. -/
theorem read_eq_merged (depth : Nat) (text : String) :
    read depth text = (readVerbatim depth text).map merged := by
  rw [read, readVerbatim, (Merges.holds _ depth).value]
  cases verbatimValue (2 * text.toList.length + 2) depth (skipSpace text.toList) with
  | error error => rfl
  | ok found =>
      obtain ⟨value, rest⟩ := found
      simp only [map_of_ok]
      cases skipSpace rest <;> rfl

end ExtcapHost.Json
