/-
Module: ExtcapHost.Proofs.Json.RoundTrip
Purpose: A value without binary numbers is read from the text that is written for it.
Main exports:
  Json.plain, Json.Readable, Json.RoundTrips, Json.Readable.roundTrips, Json.read_write
-/
import ExtcapHost.Proofs.Json.Number
import ExtcapHost.Proofs.Json.Text
import ExtcapHost.Proofs.Ordered

/-!
Of a value that stands in a text we say what holds wherever it stands: it begins with a
character that is no blank and no closing bracket, it takes up room, and it is read with
what comes behind it left over.  This is proved of a value from the values inside of it, and
of rows of values and members by going along the row.

The steps of the reader are bounded by a number.  Twice the length of the text is enough:
every step into a value and every step to the next one passes a character.
-/

namespace ExtcapHost

namespace Text

/-- The letter is no surrogate. -/
def Letter.isScalar : Letter → Bool
  | .scalar _ => true
  | .lone _ => false

/-- Text without surrogates is a row of characters. -/
theorem eq_wide_of_scalar {letters : List Letter} (scalar : letters.all Letter.isScalar = true) :
    letters = wide (narrow letters) := by
  induction letters with
  | nil => rfl
  | cons letter rest ih =>
      simp only [List.all_cons, Bool.and_eq_true] at scalar
      cases letter with
      | scalar c => exact congrArg (.scalar c :: ·) (ih scalar.2)
      | lone offset => cases scalar.1

end Text

namespace Json

open Text

/-! ### Values -/

mutual

/-- The value holds neither binary numbers nor surrogates. -/
def plain : Json → Bool
  | .float _ => false
  | .string letters => letters.all Letter.isScalar
  | .list items => plainItems items
  | .object members => plainMembers members
  | _ => true

/-- So do all values of a row. -/
def plainItems : List Json → Bool
  | [] => true
  | item :: rest => plain item && plainItems rest

/-- So do all members of a row, and their names. -/
def plainMembers : List (List Letter × Json) → Bool
  | [] => true
  | (name, value) :: rest => name.all Letter.isScalar && plain value && plainMembers rest

end

theorem plain_list {items : List Json} :
    (Json.list items).plain = true ↔ ∀ item ∈ items, item.plain = true := by
  rw [plain]
  induction items with
  | nil => simp [plainItems]
  | cons item rest ih => simp [plainItems, ih]

theorem plain_object {members : List (List Letter × Json)} :
    (Json.object members).plain = true ↔ ∀ name value, (name, value) ∈ members →
      name.all Letter.isScalar = true ∧ value.plain = true := by
  rw [plain]
  induction members with
  | nil => simp [plainMembers]
  | cons member rest ih =>
      obtain ⟨name, value⟩ := member
      simp only [plainMembers, Bool.and_eq_true, ih]
      constructor
      · rintro ⟨first, others⟩ other otherValue member
        rcases List.mem_cons.mp member with here | later
        · cases here
          exact first
        · exact others other otherValue later
      · intro all
        exact ⟨all name value (.head _), fun other otherValue later =>
          all other otherValue (.tail _ later)⟩

/-- A value as it can be read where so many levels are left. -/
inductive Readable : Nat → Json → Prop where
  | null (depth : Nat) : Readable depth .null
  | bool (depth : Nat) (value : Bool) : Readable depth (.bool value)
  | integer (depth : Nat) {value : Int}
      (short : (writeNatural value.natAbs).length ≤ digitLimit) : Readable depth (.integer value)
  | float (depth : Nat) (value : Binary64) : Readable depth (.float value)
  | string (depth : Nat) (letters : List Letter) : Readable depth (.string letters)
  | list {depth : Nat} {items : List Json} (inside : ∀ item ∈ items, Readable depth item) :
      Readable (depth + 1) (.list items)
  | object {depth : Nat} {members : List (List Letter × Json)}
      (distinct : (Ordered.keys members).Nodup)
      (inside : ∀ name value, (name, value) ∈ members → Readable depth value) :
      Readable (depth + 1) (.object members)

/-! ### What a written value is like -/

/-- The text begins with a character that is no blank and closes nothing. -/
def Opens (text : List Char) : Prop :=
  ∃ c rest, text = c :: rest ∧ isSpace c = false ∧ c ≠ ']'

/-- Wherever the value is written, it opens the text, takes up room, and is read, with what
comes behind it left over. -/
structure RoundTrips (depth : Nat) (value : Json) : Prop where
  opens : ∀ level text, Opens (writeAt level value text)
  longer : ∀ level text, text.length < (writeAt level value text).length
  reads : ∀ level text fuel, Ends text → 2 * (writeAt level value text).length ≤ fuel →
    readValue fuel depth (writeAt level value text) = .ok (value, text)

theorem Opens.skipSpace_eq {text : List Char} (opens : Opens text) : skipSpace text = text := by
  obtain ⟨c, rest, rfl, visible, -⟩ := opens
  rw [skipSpace, List.dropWhile_cons_of_neg (by simp [visible])]

/-- The blanks at the start of a line are skipped. -/
theorem skipSpace_newLine (level : Nat) (text : List Char) :
    skipSpace (newLine level ++ text) = skipSpace text := by
  rw [skipSpace, List.dropWhile_append_of_pos]
  · rfl
  · intro c member
    rcases List.mem_cons.mp member with rfl | blank
    · rfl
    · rw [List.eq_of_mem_replicate blank]
      rfl

theorem length_newLine (level : Nat) (text : List Char) :
    text.length < (newLine level ++ text).length := by
  rw [List.length_append, newLine, List.length_cons]
  omega

/-- Behind a comma and the start of a line stands what opens next. -/
theorem next_line {tail later : List Char} {level : Nat}
    (written : tail = ',' :: (newLine level ++ later)) (opens : Opens later) :
    later.length + 2 ≤ tail.length ∧ skipSpace tail = ',' :: (newLine level ++ later) ∧
      skipSpace (newLine level ++ later) = later := by
  refine ⟨?_, ?_, ?_⟩
  · rw [written, List.length_cons]
    exact Nat.succ_le_succ (length_newLine level later)
  · rw [written]
    rfl
  · rw [skipSpace_newLine, opens.skipSpace_eq]

/-- Where no bracket opens, one scalar value is read. -/
theorem readValue_of_scalar {c : Char} (bracket : c ≠ '[') (brace : c ≠ '{') (fuel depth : Nat)
    (text : List Char) : readValue (fuel + 1) depth (c :: text) = readScalar (c :: text) := by
  rw [readValue]
  · exact fun later same => bracket (List.cons.inj same).1
  · exact fun later same => brace (List.cons.inj same).1

/-- A scalar value that the reader of scalars reads back. -/
theorem RoundTrips.ofScalar {depth : Nat} {value : Json} (written : List Char)
    (writes : ∀ level text, writeAt level value text = written ++ text)
    (front : ∃ c rest, written = c :: rest ∧ isSpace c = false ∧ c ∉ ['[', '{', ']'])
    (reads : ∀ text, Ends text → readScalar (written ++ text) = .ok (value, text)) :
    RoundTrips depth value := by
  obtain ⟨c, rest, spelled, visible, bracket⟩ := front
  simp only [List.mem_cons, List.not_mem_nil, or_false, not_or] at bracket
  refine ⟨fun level text => ?_, fun level text => ?_, fun level text fuel ends enough => ?_⟩
  · rw [writes, spelled]
    exact ⟨c, rest ++ text, rfl, visible, bracket.2.2⟩
  · rw [writes, spelled, List.length_append, List.length_cons]
    omega
  · rw [writes] at enough ⊢
    have read := reads text ends
    rw [spelled, List.cons_append] at enough read ⊢
    rw [List.length_cons] at enough
    obtain ⟨fuel, rfl⟩ : ∃ less, fuel = less + 1 := ⟨fuel - 1, by omega⟩
    rw [readValue_of_scalar bracket.1 bracket.2.1, read]

theorem writeText_append (letters : List Letter) (text : List Char) :
    writeText letters ++ text = '"' :: (letters.flatMap writeLetter ++ '"' :: text) := by
  simp [writeText]

/-! ### Rows -/

/-- What is written behind a piece of a row: more pieces, each in a line of its own, and at
last the closing bracket. -/
def rowTail (outer : Nat) (close : Char) :
    List (List Char → List Char) → List Char → List Char
  | [], text => newLine outer ++ close :: text
  | piece :: rest, text => ',' :: (newLine (outer + 1) ++ piece (rowTail outer close rest text))

theorem rowTail_ends (outer : Nat) (close : Char) (pieces : List (List Char → List Char))
    (text : List Char) : Ends (rowTail outer close pieces text) := by
  cases pieces with
  | nil => exact .inr (.inr ⟨_, rfl⟩)
  | cons piece rest => exact .inr (.inl ⟨_, rfl⟩)

theorem length_rowTail {pieces : List (List Char → List Char)}
    (grow : ∀ piece ∈ pieces, ∀ text, text.length < (piece text).length) (outer : Nat)
    (close : Char) (text : List Char) : text.length < (rowTail outer close pieces text).length := by
  induction pieces with
  | nil =>
      have shorter := length_newLine outer (close :: text)
      rw [List.length_cons] at shorter
      exact Nat.lt_of_succ_lt shorter
  | cons piece rest ih =>
      have later := ih fun other member => grow other (.tail _ member)
      have longer := grow piece (.head _) (rowTail outer close rest text)
      have line := length_newLine (outer + 1) (piece (rowTail outer close rest text))
      rw [rowTail, List.length_cons]
      omega

/-- A row takes more room than what is inside of it, and than what comes behind it. -/
theorem length_row {first : List Char → List Char} {rest : List (List Char → List Char)}
    (grow : ∀ piece ∈ first :: rest, ∀ text, text.length < (piece text).length) (outer : Nat)
    (opening close : Char) (text : List Char) :
    let inside := first (rowTail outer close rest text)
    let row := opening :: (newLine (outer + 1) ++ inside)
    text.length < inside.length ∧ inside.length + 2 ≤ row.length := by
  have later := length_rowTail (fun piece member => grow piece (.tail _ member)) outer close text
  have longer := grow first (.head _) (rowTail outer close rest text)
  have line := length_newLine (outer + 1) (first (rowTail outer close rest text))
  exact ⟨Nat.lt_trans later longer, Nat.succ_le_succ line⟩

/-! ### Rows of values -/

/-- What is written behind a value in a list. -/
def listTail (outer : Nat) (rest : List Json) : List Char → List Char :=
  rowTail outer ']' (rest.map (writeAt (outer + 1)))

theorem writeItems_eq (outer : Nat) (rest : List Json) (text : List Char) :
    writeItems (outer + 1) rest (newLine outer ++ ']' :: text) = listTail outer rest text := by
  induction rest with
  | nil => rfl
  | cons item rest ih =>
      rw [writeItems, ih]
      rfl

theorem grow_items {depth : Nat} {items : List Json}
    (trips : ∀ item ∈ items, RoundTrips depth item) (level : Nat) :
    ∀ piece ∈ items.map (writeAt level), ∀ text, text.length < (piece text).length := by
  rw [List.forall_mem_map]
  exact fun item member => (trips item member).longer level

/-- The values of a list are read up to its end. -/
theorem readItems_written {depth : Nat} {item : Json} {rest : List Json}
    (trips : ∀ value ∈ item :: rest, RoundTrips depth value) (outer fuel : Nat)
    (text : List Char)
    (enough : 2 * (writeAt (outer + 1) item (listTail outer rest text)).length + 1 ≤ fuel) :
    readItems fuel depth (writeAt (outer + 1) item (listTail outer rest text)) =
      .ok (item :: rest, text) := by
  induction rest generalizing item fuel with
  | nil =>
      obtain ⟨fuel, rfl⟩ : ∃ less, fuel = less + 1 := ⟨fuel - 1, by omega⟩
      have read := (trips item (.head _)).reads (outer + 1) (listTail outer [] text) fuel
        (rowTail_ends outer ']' [] text) (by omega)
      have closed : skipSpace (listTail outer [] text) = ']' :: text :=
        skipSpace_newLine outer (']' :: text)
      rw [readItems, read]
      simp only [closed]
  | cons second rest ih =>
      obtain ⟨fuel, rfl⟩ : ∃ less, fuel = less + 1 := ⟨fuel - 1, by omega⟩
      have others := ih (fun value member => trips value (.tail _ member)) fuel
      have opens := (trips second (.tail _ (.head _))).opens (outer + 1)
        (listTail outer rest text)
      have ends : Ends (listTail outer (second :: rest) text) := rowTail_ends _ _ _ _
      have written : listTail outer (second :: rest) text =
          ',' :: (newLine (outer + 1) ++ writeAt (outer + 1) second (listTail outer rest text)) :=
        rfl
      generalize writeAt (outer + 1) second (listTail outer rest text) = later
        at others opens written
      generalize listTail outer (second :: rest) text = tail at *
      have longer := (trips item (.head _)).longer (outer + 1) tail
      obtain ⟨shorter, comma, opened⟩ := next_line written opens
      rw [readItems, (trips item (.head _)).reads (outer + 1) tail fuel ends (by omega)]
      simp only [comma, opened]
      rw [others (by omega)]
      rfl

/-! ### Rows of members -/

/-- A member in front of the rest of a text. -/
def writeMember (level : Nat) (name : List Letter) (value : Json) (text : List Char) :
    List Char :=
  writeText name ++ ':' :: ' ' :: writeAt level value text

/-- What is written behind a member of an object. -/
def objectTail (outer : Nat) (rest : List (List Letter × Json)) : List Char → List Char :=
  rowTail outer '}' (rest.map fun member => writeMember (outer + 1) member.1 member.2)

theorem writeMembers_eq (outer : Nat) (rest : List (List Letter × Json)) (text : List Char) :
    writeMembers (outer + 1) rest (newLine outer ++ '}' :: text) = objectTail outer rest text := by
  induction rest with
  | nil => rfl
  | cons member rest ih =>
      obtain ⟨name, value⟩ := member
      rw [writeMembers, ih]
      simp [objectTail, rowTail, writeMember]

/-- A member begins with the quote of its name. -/
theorem writeMember_eq (level : Nat) (name : List Letter) (value : Json) (text : List Char) :
    writeMember level name value text =
      '"' :: (name.flatMap writeLetter ++ '"' :: ':' :: ' ' :: writeAt level value text) := by
  rw [writeMember, writeText_append]

theorem length_writeMember (level : Nat) (name : List Letter) (value : Json)
    (text : List Char) :
    (writeAt level value text).length + 4 ≤ (writeMember level name value text).length := by
  rw [writeMember_eq]
  simp only [List.length_cons, List.length_append]
  omega

/-- A quote opens the text. -/
theorem writeMember_opens (level : Nat) (name : List Letter) (value : Json)
    (text : List Char) : Opens (writeMember level name value text) :=
  ⟨'"', _, writeMember_eq level name value text, rfl, by decide⟩

theorem grow_members {depth : Nat} {members : List (List Letter × Json)}
    (trips : ∀ name value, (name, value) ∈ members → RoundTrips depth value) (level : Nat) :
    ∀ piece ∈ members.map (fun member => writeMember level member.1 member.2), ∀ text,
      text.length < (piece text).length := by
  rw [List.forall_mem_map]
  rintro ⟨name, value⟩ member text
  have longer := (trips name value member).longer level text
  have room := length_writeMember level name value text
  exact Nat.lt_of_lt_of_le longer (Nat.le_of_add_right_le room)

/-- A name without surrogates and its value are read one after the other, up to the brace or
comma behind them. -/
theorem readMembers_step {depth : Nat} {name : List Letter} {value : Json}
    (scalar : name.all Letter.isScalar = true) (trips : RoundTrips depth value)
    (level fuel : Nat) {text : List Char} (ends : Ends text)
    (enough : 2 * (writeAt level value text).length ≤ fuel) :
    (∀ rest, skipSpace text = '}' :: rest →
      readMembers (fuel + 1) depth (writeMember level name value text) =
        .ok ([(name, value)], rest)) ∧
    ∀ rest, skipSpace text = ',' :: rest →
      readMembers (fuel + 1) depth (writeMember level name value text) =
        (readMembers fuel depth (skipSpace rest)).map fun found =>
          ((name, value) :: found.1, found.2) := by
  have nameRead : readText (name.flatMap writeLetter ++
      '"' :: ':' :: ' ' :: writeAt level value text) =
        .ok (name, ':' :: ' ' :: writeAt level value text) := by
    rw [eq_wide_of_scalar scalar]
    exact readText_written _ _
  have colon : skipSpace (':' :: ' ' :: writeAt level value text) =
      ':' :: ' ' :: writeAt level value text := rfl
  have opened : skipSpace (' ' :: writeAt level value text) = writeAt level value text :=
    (trips.opens level text).skipSpace_eq
  have read := trips.reads level text fuel ends enough
  rw [writeMember_eq, readMembers, nameRead]
  simp only [colon, opened, read]
  constructor
  · intro rest brace
    simp only [brace]
  · intro rest comma
    simp only [comma]

/-- The members of an object are read up to its end. -/
theorem readMembers_written {depth : Nat} {name : List Letter} {value : Json}
    {rest : List (List Letter × Json)}
    (scalar : ∀ other otherValue, (other, otherValue) ∈ (name, value) :: rest →
      other.all Letter.isScalar = true)
    (trips : ∀ other otherValue, (other, otherValue) ∈ (name, value) :: rest →
      RoundTrips depth otherValue)
    (outer fuel : Nat) (text : List Char)
    (enough : 2 * (writeMember (outer + 1) name value (objectTail outer rest text)).length + 1 ≤
      fuel) :
    readMembers fuel depth (writeMember (outer + 1) name value (objectTail outer rest text)) =
      .ok ((name, value) :: rest, text) := by
  induction rest generalizing name value fuel with
  | nil =>
      obtain ⟨fuel, rfl⟩ : ∃ less, fuel = less + 1 := ⟨fuel - 1, by omega⟩
      have ends : Ends (objectTail outer [] text) := rowTail_ends _ _ _ _
      have room := length_writeMember (outer + 1) name value (objectTail outer [] text)
      have closed : skipSpace (objectTail outer [] text) = '}' :: text :=
        skipSpace_newLine outer ('}' :: text)
      exact (readMembers_step (scalar name value (.head _)) (trips name value (.head _))
        (outer + 1) fuel ends (by omega)).1 text closed
  | cons second rest ih =>
      obtain ⟨second, secondValue⟩ := second
      obtain ⟨fuel, rfl⟩ : ∃ less, fuel = less + 1 := ⟨fuel - 1, by omega⟩
      have others := ih (fun other otherValue member => scalar other otherValue (.tail _ member))
        (fun other otherValue member => trips other otherValue (.tail _ member)) fuel
      have opens := writeMember_opens (outer + 1) second secondValue (objectTail outer rest text)
      have ends : Ends (objectTail outer ((second, secondValue) :: rest) text) :=
        rowTail_ends _ _ _ _
      have written : objectTail outer ((second, secondValue) :: rest) text =
          ',' :: (newLine (outer + 1) ++
            writeMember (outer + 1) second secondValue (objectTail outer rest text)) := rfl
      generalize writeMember (outer + 1) second secondValue (objectTail outer rest text) = later
        at others opens written
      generalize objectTail outer ((second, secondValue) :: rest) text = tail at *
      have room := length_writeMember (outer + 1) name value tail
      have longer := (trips name value (.head _)).longer (outer + 1) tail
      obtain ⟨shorter, comma, opened⟩ := next_line written opens
      rw [(readMembers_step (scalar name value (.head _)) (trips name value (.head _))
        (outer + 1) fuel ends (by omega)).2 _ comma, opened, others (by omega)]
      rfl

/-! ### Whole values -/

theorem writeAt_list (level : Nat) (item : Json) (rest : List Json) (text : List Char) :
    writeAt level (.list (item :: rest)) text =
      '[' :: (newLine (level + 1) ++ writeAt (level + 1) item (listTail level rest text)) := by
  rw [writeAt, writeItems_eq, List.cons_append]

theorem writeAt_object (level : Nat) (name : List Letter) (value : Json)
    (rest : List (List Letter × Json)) (text : List Char) :
    writeAt level (.object ((name, value) :: rest)) text =
      '{' :: (newLine (level + 1) ++
        writeMember (level + 1) name value (objectTail level rest text)) := by
  rw [writeAt, writeMembers_eq]
  simp [writeMember]

theorem length_list {depth : Nat} {item : Json} {rest : List Json}
    (trips : ∀ value ∈ item :: rest, RoundTrips depth value) (level : Nat) (text : List Char) :
    text.length < (writeAt (level + 1) item (listTail level rest text)).length ∧
      (writeAt (level + 1) item (listTail level rest text)).length + 2 ≤
        (writeAt level (.list (item :: rest)) text).length := by
  rw [writeAt_list]
  exact length_row (grow_items trips (level + 1)) level '[' ']' text

theorem length_object {depth : Nat} {name : List Letter} {value : Json}
    {rest : List (List Letter × Json)}
    (trips : ∀ other otherValue, (other, otherValue) ∈ (name, value) :: rest →
      RoundTrips depth otherValue) (level : Nat) (text : List Char) :
    text.length < (writeMember (level + 1) name value (objectTail level rest text)).length ∧
      (writeMember (level + 1) name value (objectTail level rest text)).length + 2 ≤
        (writeAt level (.object ((name, value) :: rest)) text).length := by
  rw [writeAt_object]
  exact length_row (grow_members trips (level + 1)) level '{' '}' text

/-- A list is read if its values are. -/
theorem RoundTrips.ofList {depth : Nat} {items : List Json}
    (trips : ∀ item ∈ items, RoundTrips depth item) : RoundTrips (depth + 1) (.list items) := by
  cases items with
  | nil =>
      refine ⟨fun level text => ⟨'[', _, rfl, rfl, by decide⟩, fun level text => ?_,
        fun level text fuel ends enough => ?_⟩
      · rw [writeAt, List.length_cons, List.length_cons]
        omega
      · rw [writeAt] at enough ⊢
        rw [List.length_cons] at enough
        obtain ⟨fuel, rfl⟩ : ∃ less, fuel = less + 1 := ⟨fuel - 1, by omega⟩
        rfl
  | cons item rest =>
      refine ⟨fun level text => ?_, fun level text => ?_, fun level text fuel ends enough => ?_⟩
      · rw [writeAt_list]
        exact ⟨'[', _, rfl, rfl, by decide⟩
      · obtain ⟨outside, inside⟩ := length_list trips level text
        omega
      · obtain ⟨-, inside⟩ := length_list trips level text
        obtain ⟨fuel, rfl⟩ : ∃ less, fuel = less + 1 := ⟨fuel - 1, by omega⟩
        have read := readItems_written trips level fuel text (by omega)
        obtain ⟨c, later, spelled, visible, open'⟩ :=
          (trips item (.head _)).opens (level + 1) (listTail level rest text)
        have opened : skipSpace (newLine (level + 1) ++
            writeAt (level + 1) item (listTail level rest text)) = c :: later := by
          rw [skipSpace_newLine, ← spelled]
          exact Opens.skipSpace_eq ⟨c, later, spelled, visible, open'⟩
        rw [writeAt_list, readValue]
        simp only [opened]
        split
        · rename_i same
          exact absurd (List.cons.inj same).1 open'
        · rw [← spelled, read]
          rfl

/-- An object whose names are distinct is read if its values are. -/
theorem RoundTrips.ofObject {depth : Nat} {members : List (List Letter × Json)}
    (distinct : (Ordered.keys members).Nodup)
    (scalar : ∀ name value, (name, value) ∈ members → name.all Letter.isScalar = true)
    (trips : ∀ name value, (name, value) ∈ members → RoundTrips depth value) :
    RoundTrips (depth + 1) (.object members) := by
  cases members with
  | nil =>
      refine ⟨fun level text => ⟨'{', _, rfl, rfl, by decide⟩, fun level text => ?_,
        fun level text fuel ends enough => ?_⟩
      · rw [writeAt, List.length_cons, List.length_cons]
        omega
      · rw [writeAt] at enough ⊢
        rw [List.length_cons] at enough
        obtain ⟨fuel, rfl⟩ : ∃ less, fuel = less + 1 := ⟨fuel - 1, by omega⟩
        rfl
  | cons member rest =>
      obtain ⟨name, value⟩ := member
      refine ⟨fun level text => ?_, fun level text => ?_, fun level text fuel ends enough => ?_⟩
      · rw [writeAt_object]
        exact ⟨'{', _, rfl, rfl, by decide⟩
      · obtain ⟨outside, inside⟩ := length_object trips level text
        omega
      · obtain ⟨-, inside⟩ := length_object trips level text
        obtain ⟨fuel, rfl⟩ : ∃ less, fuel = less + 1 := ⟨fuel - 1, by omega⟩
        have read := readMembers_written scalar trips level fuel text (by omega)
        have opened : skipSpace (newLine (level + 1) ++
            writeMember (level + 1) name value (objectTail level rest text)) =
              writeMember (level + 1) name value (objectTail level rest text) := by
          rw [skipSpace_newLine]
          exact (writeMember_opens (level + 1) name value _).skipSpace_eq
        rw [writeAt_object, readValue]
        simp only [opened]
        split
        · rename_i same
          rw [writeMember_eq] at same
          cases same
        · rw [read]
          exact congrArg
            (fun members => (Except.ok (.object members, text) : Except ReadError (Json × List Char)))
            (Ordered.ofPairs_of_nodup distinct)

/-- A written integer begins with its sign or with a digit. -/
theorem writeInteger_front (value : Int) :
    ∃ c rest, writeInteger value = c :: rest ∧ isSpace c = false ∧ c ∉ ['[', '{', ']'] := by
  obtain ⟨c, rest, front⟩ : ∃ c rest, writeInteger value = c :: rest := by
    rw [writeInteger]
    split
    · exact ⟨_, _, rfl⟩
    · obtain ⟨digits, written, -, present, -⟩ := writeNatural_digits value.natAbs
      rw [written]
      exact List.exists_cons_of_ne_nil (by simpa using present)
  have digits : ∀ digit < 10,
      isSpace (digitChar digit) = false ∧ digitChar digit ∉ ['[', '{', ']'] := by
    decide
  have first : c ∈ writeInteger value := by
    rw [front]
    exact .head _
  refine ⟨c, rest, front, ?_⟩
  rcases mem_writeInteger first with rfl | ⟨digit, small, rfl⟩
  · decide
  · exact digits digit small

/-- Whatever can be read, without binary numbers and surrogates, is read from what is
written for it. -/
theorem Readable.roundTrips {depth : Nat} {value : Json} (readable : Readable depth value)
    (plain : value.plain = true) : RoundTrips depth value := by
  induction readable with
  | null depth =>
      exact .ofScalar "null".toList (fun _ _ => rfl) ⟨'n', _, rfl, rfl, by decide⟩
        fun _ _ => rfl
  | bool depth value =>
      cases value with
      | false =>
          exact .ofScalar "false".toList (fun _ _ => rfl) ⟨'f', _, rfl, rfl, by decide⟩
            fun _ _ => rfl
      | true =>
          exact .ofScalar "true".toList (fun _ _ => rfl) ⟨'t', _, rfl, rfl, by decide⟩
            fun _ _ => rfl
  | integer depth short =>
      exact .ofScalar _ (fun _ _ => by rw [writeAt]) (writeInteger_front _) fun _ ends =>
        readScalar_writeInteger short ends
  | float depth value => cases plain
  | string depth letters =>
      refine .ofScalar (writeText letters) (fun _ _ => by rw [writeAt])
        ⟨'"', _, rfl, rfl, by decide⟩ fun text _ => ?_
      have scalar : letters.all Letter.isScalar = true := by rwa [Json.plain] at plain
      have read : readText (letters.flatMap writeLetter ++ '"' :: text) = .ok (letters, text) := by
        rw [eq_wide_of_scalar scalar]
        exact readText_written _ _
      rw [writeText_append, readScalar, read]
      rfl
  | list inside ih =>
      exact .ofList fun item member => ih item member (plain_list.mp plain item member)
  | object distinct inside ih =>
      have parts := plain_object.mp plain
      exact .ofObject distinct (fun name value member => (parts name value member).1)
        fun name value member => ih name value member (parts name value member).2

/-- A value is read from its text. -/
theorem read_write {depth : Nat} {value : Json} (readable : Readable depth value)
    (plain : value.plain = true) : read depth value.write = .ok value := by
  have trips := readable.roundTrips plain
  rw [read, write, String.toList_ofList, (trips.opens 0 []).skipSpace_eq,
    trips.reads 0 [] _ (.inl rfl) (Nat.le_add_right _ 2)]
  rfl

end Json

end ExtcapHost
