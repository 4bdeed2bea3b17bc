/-
Module: ExtcapHost.Proofs.Sentence.Writing
Purpose: A sentence that is written on a line is read back.
Main exports:
  Sentence.written, Sentence.Writable, Sentence.scanParameters_written,
  Sentence.ofLine?_written, Sentence.readAll_written, Sentence.ofFields
-/
import Mathlib.Data.List.Basic
import ExtcapHost.Proofs.Ordered
import ExtcapHost.Proofs.Sentence
import ExtcapHost.Proofs.Text.Integer
import ExtcapHost.Proofs.Text.Line

namespace ExtcapHost

/-! ### Runs of characters -/

section Runs

variable {α : Type} {p : α → Bool} {front : List α} {next : α}

theorem takeWhile_append_stop (all : ∀ c ∈ front, p c = true) (stops : p next = false)
    (rest : List α) : (front ++ next :: rest).takeWhile p = front := by
  rw [List.takeWhile_append_of_pos all, List.takeWhile_cons, stops]
  simp

theorem dropWhile_append_stop (all : ∀ c ∈ front, p c = true) (stops : p next = false)
    (rest : List α) : (front ++ next :: rest).dropWhile p = next :: rest := by
  rw [List.dropWhile_append_of_pos all, List.dropWhile_cons, stops]
  simp

end Runs

namespace Sentence

/-- A parameter between its braces. -/
def writtenParameter (parameter : String × String) : List Char :=
  '{' :: (parameter.1.toList ++ '=' :: (parameter.2.toList ++ ['}']))

/-- A sentence on a line: its kind, a space, and its parameters right behind each
other. -/
def written (sentence : Sentence) : List Char :=
  sentence.kind.toList ++ ' ' :: sentence.parameters.flatMap writtenParameter

/-- A text that may stand as the value of a parameter. -/
structure IsValue (value : String) : Prop where
  letters : ∀ c ∈ value.toList, isValueLetter c = true
  within : Text.IsLine value.toList

/-- A text that may stand as the key of a parameter. -/
structure IsKey (key : String) : Prop where
  present : key.toList ≠ []
  letters : ∀ c ∈ key.toList, isKeyLetter c = true
  within : Text.IsLine key.toList
  trimmed : Text.trim key.toList = key.toList

/-- A text that may stand as the kind of a sentence. -/
structure IsKind (kind : String) : Prop where
  present : kind.toList ≠ []
  letters : ∀ c ∈ kind.toList, isKindLetter c = true
  small : Text.lower kind.toList = kind.toList

instance (value : String) : Decidable (IsValue value) :=
  decidable_of_iff (value.toList.all isValueLetter = true ∧ Text.IsLine value.toList)
    ⟨fun ⟨letters, within⟩ => ⟨List.all_eq_true.mp letters, within⟩,
      fun value => ⟨List.all_eq_true.mpr value.letters, value.within⟩⟩

instance (key : String) : Decidable (IsKey key) :=
  decidable_of_iff
    (key.toList ≠ [] ∧ key.toList.all isKeyLetter = true ∧ Text.IsLine key.toList ∧
      Text.trim key.toList = key.toList)
    ⟨fun ⟨present, letters, within, trimmed⟩ =>
        ⟨present, List.all_eq_true.mp letters, within, trimmed⟩,
      fun key => ⟨key.present, List.all_eq_true.mpr key.letters, key.within, key.trimmed⟩⟩

instance (kind : String) : Decidable (IsKind kind) :=
  decidable_of_iff
    (kind.toList ≠ [] ∧ kind.toList.all isKindLetter = true ∧
      Text.lower kind.toList = kind.toList)
    ⟨fun ⟨present, letters, small⟩ => ⟨present, List.all_eq_true.mp letters, small⟩,
      fun kind => ⟨kind.present, List.all_eq_true.mpr kind.letters, kind.small⟩⟩

/-- A sentence that can be written on a line. -/
structure Writable (sentence : Sentence) : Prop where
  kind : IsKind sentence.kind
  keys : ∀ parameter ∈ sentence.parameters, IsKey parameter.1
  values : ∀ parameter ∈ sentence.parameters, IsValue parameter.2
  distinct : (Ordered.keys sentence.parameters).Nodup

instance (sentence : Sentence) : Decidable sentence.Writable :=
  decidable_of_iff
    (IsKind sentence.kind ∧ (∀ parameter ∈ sentence.parameters, IsKey parameter.1) ∧
      (∀ parameter ∈ sentence.parameters, IsValue parameter.2) ∧
      (Ordered.keys sentence.parameters).Nodup)
    ⟨fun ⟨kind, keys, values, distinct⟩ => ⟨kind, keys, values, distinct⟩,
      fun writable => ⟨writable.kind, writable.keys, writable.values, writable.distinct⟩⟩

/-! ### The parameters of a line -/

/-- Between an opening and a closing brace stands a parameter, if its key and its value have
the letters of such. -/
theorem parameterAt?_braced {key value : List Char} (present : key ≠ [])
    (inKey : ∀ c ∈ key, isKeyLetter c = true) (inValue : ∀ c ∈ value, isValueLetter c = true)
    (rest : List Char) :
    parameterAt? ('{' :: (key ++ '=' :: (value ++ '}' :: rest))) = some ⟨key, value, rest⟩ := by
  obtain ⟨first, more, split⟩ := List.exists_cons_of_ne_nil present
  have closes : isValueLetter '}' = false := rfl
  rw [parameterAt?, takeWhile_append_stop inKey rfl, dropWhile_append_stop inKey rfl, split]
  simp only [takeWhile_append_stop inValue closes, dropWhile_append_stop inValue closes]

theorem parameterAt?_written {parameter : String × String} (key : IsKey parameter.1)
    (value : IsValue parameter.2) (rest : List Char) :
    parameterAt? (writtenParameter parameter ++ rest) =
      some ⟨parameter.1.toList, parameter.2.toList, rest⟩ := by
  have text : writtenParameter parameter ++ rest =
      '{' :: (parameter.1.toList ++ '=' :: (parameter.2.toList ++ '}' :: rest)) := by
    simp [writtenParameter]
  rw [text, parameterAt?_braced key.present key.letters value.letters]

theorem scanParameters_written {parameters : List (String × String)}
    (keys : ∀ parameter ∈ parameters, IsKey parameter.1)
    (values : ∀ parameter ∈ parameters, IsValue parameter.2) :
    scanParameters (parameters.flatMap writtenParameter) =
      parameters.map fun parameter => (parameter.1.toList, parameter.2.toList) := by
  induction parameters with
  | nil => exact scanParameters_nil
  | cons parameter rest ih =>
      have scanned := parameterAt?_written (keys parameter (.head _)) (values parameter (.head _))
        (rest.flatMap writtenParameter)
      rw [List.flatMap_cons, scanParameters_of_some scanned,
        ih (fun other member => keys other (.tail _ member)) fun other member =>
          values other (.tail _ member), List.map_cons]

theorem readParameters_written {parameters : List (String × String)}
    (keys : ∀ parameter ∈ parameters, IsKey parameter.1)
    (values : ∀ parameter ∈ parameters, IsValue parameter.2)
    (distinct : (Ordered.keys parameters).Nodup) :
    readParameters (' ' :: parameters.flatMap writtenParameter) = parameters := by
  have same : ∀ parameter ∈ parameters,
      (String.ofList (Text.trim parameter.1.toList), String.ofList parameter.2.toList) =
        id parameter := by
    intro parameter member
    rw [(keys parameter member).trimmed, String.ofList_toList, String.ofList_toList]
    rfl
  rw [readParameters, scanParameters_of_none rfl, scanParameters_written keys values, List.map_map]
  simp only [Function.comp_def]
  rw [List.map_congr_left same, List.map_id, Ordered.ofPairs_of_nodup distinct]

/-! ### The kind of a line -/

theorem toNat_of_isKindLetter {c : Char} (letter : isKindLetter c = true) :
    'A'.toNat ≤ c.toNat ∧ c.toNat ≤ 'z'.toNat := by
  simp only [isKindLetter, Bool.or_eq_true, Bool.and_eq_true, decide_eq_true_eq, beq_iff_eq]
    at letter
  rcases letter with (⟨lower, upper⟩ | ⟨lower, upper⟩) | rfl
  · exact ⟨lower, Nat.le_trans upper (by decide)⟩
  · exact ⟨Nat.le_trans (by decide) lower, upper⟩
  · decide

theorem isBlank_of_isKindLetter {c : Char} (letter : isKindLetter c = true) :
    Text.isBlank c = false := by
  have bounds : 0x41 ≤ c.toNat ∧ c.toNat ≤ 0x7A := toNat_of_isKindLetter letter
  simp [Text.isBlank]
  omega

theorem isLineBreak_of_isKindLetter {c : Char} (letter : isKindLetter c = true) :
    Text.isLineBreak c = false := by
  have bounds : 0x41 ≤ c.toNat ∧ c.toNat ≤ 0x7A := toNat_of_isKindLetter letter
  simp [Text.isLineBreak]
  omega

/-- A line that begins with a kind is a sentence of that kind. -/
theorem ofLine?_of_kind {kind : List Char} {next : Char} (present : kind ≠ [])
    (letters : ∀ c ∈ kind, isKindLetter c = true) (stops : isKindLetter next = false)
    (rest : List Char) :
    ofLine? (kind ++ next :: rest) =
      some ⟨String.ofList (Text.lower kind), readParameters (next :: rest)⟩ := by
  obtain ⟨first, more, split⟩ := List.exists_cons_of_ne_nil present
  have start : Text.trimStart (kind ++ next :: rest) = kind ++ next :: rest := by
    have unblank : Text.isBlank first = false :=
      isBlank_of_isKindLetter (letters first (by rw [split]; exact .head _))
    rw [split, Text.trimStart, List.cons_append, List.dropWhile_cons, unblank]
    rfl
  simp only [ofLine?, start, takeWhile_append_stop letters stops,
    dropWhile_append_stop letters stops]
  rw [split]

theorem ofLine?_written {sentence : Sentence} (writable : sentence.Writable) :
    ofLine? sentence.written = some sentence := by
  rw [written, ofLine?_of_kind writable.kind.present writable.kind.letters rfl,
    readParameters_written writable.keys writable.values writable.distinct,
    writable.kind.small, String.ofList_toList]

/-! ### Whole answers -/

theorem writtenParameter_isLine {parameter : String × String} (key : IsKey parameter.1)
    (value : IsValue parameter.2) : Text.IsLine (writtenParameter parameter) := by
  intro c member
  simp only [writtenParameter, List.mem_cons, List.mem_append, List.not_mem_nil, or_false]
    at member
  rcases member with rfl | inKey | rfl | inValue | rfl
  · rfl
  · exact key.within c inKey
  · rfl
  · exact value.within c inValue
  · rfl

theorem written_isLine {sentence : Sentence} (writable : sentence.Writable) :
    Text.IsLine sentence.written := by
  intro c member
  rcases List.mem_append.mp member with inKind | later
  · exact isLineBreak_of_isKindLetter (writable.kind.letters c inKind)
  · rcases List.mem_cons.mp later with rfl | inParameters
    · rfl
    · obtain ⟨parameter, present, inside⟩ := List.mem_flatMap.mp inParameters
      exact writtenParameter_isLine (writable.keys parameter present)
        (writable.values parameter present) c inside

/-- Sentences that are written each on a line of its own are read back in order. -/
theorem readAll_written {sentences : List Sentence}
    (writable : ∀ sentence ∈ sentences, sentence.Writable) :
    readAll (String.ofList (Text.terminated (sentences.map written))) = sentences := by
  have within : ∀ line ∈ sentences.map written, Text.IsLine line := by
    intro line member
    obtain ⟨sentence, present, rfl⟩ := List.mem_map.mp member
    exact written_isLine (writable sentence present)
  rw [readAll, String.toList_ofList, Text.lines_terminated within, List.filterMap_map]
  have same : ∀ sentence ∈ sentences, (ofLine? ∘ written) sentence = some sentence :=
    fun sentence present => ofLine?_written (writable sentence present)
  rw [List.filterMap_congr same, List.filterMap_some]

/-! ### Sentences with fields that may be missing -/

/-- The fields that have a value. -/
def present (fields : List (String × Option String)) : List (String × String) :=
  fields.filterMap fun field => field.2.map fun value => (field.1, value)

/-- A sentence of the fields that have a value. -/
def ofFields (kind : String) (fields : List (String × Option String)) : Sentence :=
  ⟨kind, present fields⟩

theorem keys_present_sublist (fields : List (String × Option String)) :
    (Ordered.keys (present fields)).Sublist (Ordered.keys fields) := by
  induction fields with
  | nil => exact .slnil
  | cons field rest ih =>
      obtain ⟨key, value⟩ := field
      cases value with
      | none => exact ih.cons key
      | some value => exact ih.cons_cons key

theorem get?_present {fields : List (String × Option String)}
    (distinct : (Ordered.keys fields).Nodup) (key : String) :
    Ordered.get? key (present fields) = (Ordered.get? key fields).join := by
  induction fields with
  | nil => rfl
  | cons field rest ih =>
      obtain ⟨k, value⟩ := field
      rw [Ordered.keys_cons, List.nodup_cons] at distinct
      have later := ih distinct.2
      by_cases same : k = key
      · rw [Ordered.get?, if_pos same]
        cases value with
        | none =>
            have absent : key ∉ Ordered.keys (present rest) := by
              rw [← same]
              exact fun member => distinct.1 ((keys_present_sublist rest).mem member)
            exact Ordered.get?_eq_none_iff.mpr absent
        | some value => exact if_pos same
      · rw [Ordered.get?, if_neg same, ← later]
        cases value with
        | none => rfl
        | some value => exact if_neg same

theorem parameter?_ofFields {fields : List (String × Option String)}
    (distinct : (Ordered.keys fields).Nodup) (kind key : String) :
    (ofFields kind fields).parameter? key = (Ordered.get? key fields).join :=
  get?_present distinct key

theorem ofFields_writable {kind : String} {fields : List (String × Option String)}
    (isKind : IsKind kind) (keys : ∀ key ∈ Ordered.keys fields, IsKey key)
    (values : ∀ field ∈ fields, ∀ value ∈ field.2, IsValue value)
    (distinct : (Ordered.keys fields).Nodup) : (ofFields kind fields).Writable where
  kind := isKind
  keys parameter member :=
    keys _ ((keys_present_sublist fields).mem (List.mem_map.mpr ⟨parameter, member, rfl⟩))
  values parameter member := by
    obtain ⟨field, within, made⟩ := List.mem_filterMap.mp member
    obtain ⟨value, found, rfl⟩ := Option.map_eq_some_iff.mp made
    exact values field within value found
  distinct := distinct.sublist (keys_present_sublist fields)

theorem filled?_of_ne_empty {sentence : Sentence} {key value : String}
    (found : sentence.parameter? key = some value) (filled : value ≠ "") :
    sentence.filled? key = some value := by
  rw [filled?, found]
  split
  next empty => exact absurd (Option.some.inj empty) filled
  next => rfl

/-! ### Integers as values -/

theorem writeInteger_isValue (n : Int) : IsValue (String.ofList (Text.writeInteger n)) := by
  have digits : ∀ digit < 10, isValueLetter (Text.digitChar digit) = true ∧
      Text.isLineBreak (Text.digitChar digit) = false := by decide
  constructor <;> rw [String.toList_ofList] <;> intro c member
  · rcases Text.mem_writeInteger member with rfl | ⟨digit, small, rfl⟩
    · rfl
    · exact (digits digit small).1
  · rcases Text.mem_writeInteger member with rfl | ⟨digit, small, rfl⟩
    · rfl
    · exact (digits digit small).2

theorem integer?_of_written {sentence : Sentence} {key : String} {n : Int}
    (found : sentence.parameter? key = some (String.ofList (Text.writeInteger n)))
    (short : (Text.writeNatural n.natAbs).length ≤ Text.digitLimit) :
    sentence.integer? key = some n := by
  rw [integer?, found, Option.bind_some, String.toList_ofList]
  exact Text.readInteger_writeInteger short

end Sentence

end ExtcapHost
