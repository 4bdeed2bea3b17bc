/-
Module: ExtcapHost.Proofs.OperatorArgument
Purpose: Which arguments of an operator are accepted, and what they come to.
Main exports:
  OperatorArgument.Spells, OperatorArgument.IsFlag, OperatorArgument.Means,
  OperatorArgument.readAll_eq_ok_iff, OperatorArgument.readAll_eq_error_iff,
  OperatorArgument.write, OperatorArgument.readAll_write, OperatorArgument.readAll_append,
  OperatorArgument.arguments_reach_fixed_point
-/
import ExtcapHost.OperatorArgument
import ExtcapHost.Proofs.Ordered
import ExtcapHost.Proofs.Text.Blank
import Mathlib.Data.List.Forall2

/-!
Many texts come to one flag: blanks around a key are dropped, and so are missing dashes
supplied.  What a text comes to is said by itself, and a list of texts is the table that is
made of what its texts come to.  The flags that can come out are known, and each of them
comes to itself, so what was read once is read the same from then on.
-/

namespace ExtcapHost.OperatorArgument

/-! ### Keys and values -/

/-- A text is a key, or a key and the value behind its first equals sign. -/
inductive Spells : String → String → Option String → Prop where
  | bare {key : String} (plain : '=' ∉ key.toList) : Spells key key none
  | valued {key : String} (plain : '=' ∉ key.toList) (value : String) :
      Spells (key ++ "=" ++ value) key (some value)

theorem takeWhile_plain {key : List Char} (plain : '=' ∉ key) :
    key.takeWhile (· ≠ '=') = key := by
  rw [List.takeWhile_eq_self_iff]
  intro c member
  exact decide_eq_true fun same => plain (same ▸ member)

theorem dropWhile_plain {key : List Char} (plain : '=' ∉ key) :
    key.dropWhile (· ≠ '=') = [] := by
  rw [List.dropWhile_eq_nil_iff]
  intro c member
  exact decide_eq_true fun same => plain (same ▸ member)

namespace Spells

variable {text key : String} {value : Option String}

theorem plain (spells : Spells text key value) : '=' ∉ key.toList := by
  cases spells with
  | bare plain => exact plain
  | valued plain value => exact plain

/-- The key stands before the first equals sign. -/
theorem key_eq (spells : Spells text key value) :
    text.toList.takeWhile (· ≠ '=') = key.toList := by
  cases spells with
  | bare plain => exact takeWhile_plain plain
  | valued plain value =>
      have stops : ("=" ++ value).toList.takeWhile (· ≠ '=') = [] := by
        rw [String.toList_append]
        rfl
      rw [String.append_assoc, String.toList_append, List.takeWhile_append_of_pos, stops,
        List.append_nil]
      intro c member
      exact decide_eq_true fun same => plain (same ▸ member)

/-- The value stands behind it. -/
theorem value_eq (spells : Spells text key value) :
    text.toList.dropWhile (· ≠ '=') = value.elim [] fun value => '=' :: value.toList := by
  cases spells with
  | bare plain => exact dropWhile_plain plain
  | valued plain value =>
      have stops : ("=" ++ value).toList.dropWhile (· ≠ '=') = '=' :: value.toList := by
        rw [String.toList_append]
        rfl
      rw [String.append_assoc, String.toList_append, List.dropWhile_append_of_pos, stops]
      · rfl
      · intro c member
        exact decide_eq_true fun same => plain (same ▸ member)

/-- A text is spelled in one way only. -/
theorem unique {other : String} {another : Option String} (one : Spells text key value)
    (two : Spells text other another) : key = other ∧ value = another := by
  constructor
  · apply String.ext
    rw [← one.key_eq, two.key_eq]
  · have same := one.value_eq.symm.trans two.value_eq
    cases value <;> cases another
    · rfl
    · cases same
    · cases same
    · exact congrArg some (String.ext (List.cons.inj same).2)

end Spells

/-- Every text is spelled in some way. -/
theorem exists_spells (text : String) : ∃ key value, Spells text key value := by
  have plain : '=' ∉ text.toList.takeWhile (· ≠ '=') := by
    intro member
    simpa using List.mem_takeWhile_imp member
  have whole := List.takeWhile_append_dropWhile (p := (· ≠ '=')) (l := text.toList)
  have first := List.head?_dropWhile_not (· ≠ '=') text.toList
  generalize text.toList.takeWhile (· ≠ '=') = key at plain whole
  generalize text.toList.dropWhile (· ≠ '=') = rest at whole first
  have plainText : '=' ∉ (String.ofList key).toList := by rwa [String.toList_ofList]
  cases rest with
  | nil =>
      have same : text = String.ofList key := by
        apply String.ext
        rw [← whole, List.append_nil, String.toList_ofList]
      rw [same]
      exact ⟨_, none, .bare plainText⟩
  | cons c value =>
      have sign : c = '=' := by simpa using first
      have same : text = String.ofList key ++ "=" ++ String.ofList value := by
        apply String.ext
        simp only [← whole, sign, String.toList_append, String.toList_ofList,
          List.append_assoc]
        rfl
      rw [same]
      exact ⟨_, _, .valued plainText (String.ofList value)⟩

/-! ### Flags -/

/-- A key that names nothing: without the blanks around it, it is empty or made of dashes. -/
def nameless (key : String) : Bool :=
  (Text.trim key.toList).all (· = '-')

/-- The flag that a key stands for: the key without the blanks around it, behind two dashes
if it does not begin with one. -/
def flagOf (key : String) : String :=
  let name := Text.trim key.toList
  if name.head? = some '-' then String.ofList name else String.ofList ('-' :: '-' :: name)

/-- The flags that arguments can come to. -/
structure IsFlag (flag : String) : Prop where
  trimmed : Text.trim flag.toList = flag.toList
  plain : '=' ∉ flag.toList
  dashed : flag.toList.head? = some '-'
  named : ∃ c ∈ flag.toList, c ≠ '-'

theorem flag?_eq (key : String) :
    flag? key.toList = if nameless key then none else some (flagOf key) := by
  rw [nameless, flagOf, flag?]
  by_cases dashed : (Text.trim key.toList).head? = some '-'
  · simp only [if_pos dashed]
  · simp only [if_neg dashed]

theorem nameless_eq_false {key : String} :
    nameless key = false ↔ ∃ c ∈ Text.trim key.toList, c ≠ '-' := by
  simp [nameless]

/-- The flag of a key without an equals sign is a flag, if the key names something. -/
theorem flagOf_isFlag {key : String} (plain : '=' ∉ key.toList) (named : nameless key = false) :
    IsFlag (flagOf key) := by
  obtain ⟨letter, inside, noDash⟩ := nameless_eq_false.mp named
  have unpadded := Text.trim_unpadded key.toList
  have plainToo : '=' ∉ Text.trim key.toList := fun member => plain (Text.mem_of_mem_trim member)
  unfold flagOf
  generalize Text.trim key.toList = name at inside unpadded plainToo
  by_cases dashed : name.head? = some '-'
  · simp only [if_pos dashed]
    constructor <;> rw [String.toList_ofList]
    · exact unpadded.trim_eq
    · exact plainToo
    · exact dashed
    · exact ⟨letter, inside, noDash⟩
  · have filled : name ≠ [] := List.ne_nil_of_mem inside
    simp only [if_neg dashed]
    constructor <;> rw [String.toList_ofList]
    · apply Text.Unpadded.trim_eq
      constructor
      · rintro _ ⟨⟩
        rfl
      · intro c last
        rw [List.getLast?_cons_cons, List.getLast?_cons_of_ne_nil filled] at last
        exact unpadded.back c last
    · simpa using plainToo
    · rfl
    · exact ⟨letter, .tail _ (.tail _ inside), noDash⟩

namespace IsFlag

variable {flag : String} (isFlag : IsFlag flag)

include isFlag

theorem nameless_eq : nameless flag = false := by
  rw [nameless_eq_false, isFlag.trimmed]
  exact isFlag.named

/-- A flag comes to itself. -/
theorem flagOf_eq : flagOf flag = flag := by
  simp only [flagOf, isFlag.trimmed, if_pos isFlag.dashed, String.ofList_toList]

end IsFlag

/-! ### One text -/

/-- The text comes to this flag and this value. -/
def Means (text : String) (pair : String × Option String) : Prop :=
  ∃ key, Spells text key pair.2 ∧ nameless key = false ∧ pair.1 = flagOf key

/-- The key of the text names nothing. -/
def Refused (text : String) : Prop :=
  ∃ key value, Spells text key value ∧ nameless key = true

/-- What is said of a text that is refused. -/
def refusal (text : String) : HostError :=
  .argument ("Invalid helper argument: " ++ Text.quoteString text) (some "Expected KEY=VALUE")

theorem read_eq {text key : String} {value : Option String} (spells : Spells text key value) :
    read text = if nameless key then .error (refusal text) else .ok (flagOf key, value) := by
  simp only [read, spells.key_eq, spells.value_eq, flag?_eq]
  cases nameless key with
  | true => rfl
  | false =>
      cases value with
      | none => rfl
      | some value => simp

theorem read_of_means {text : String} {pair : String × Option String} (means : Means text pair) :
    read text = .ok pair := by
  obtain ⟨key, spells, named, flag⟩ := means
  rw [read_eq spells, named, ← flag]
  rfl

theorem read_of_refused {text : String} (refused : Refused text) :
    read text = .error (refusal text) := by
  obtain ⟨key, value, spells, nameless⟩ := refused
  rw [read_eq spells, nameless]
  rfl

theorem refused_or_means (text : String) : Refused text ∨ ∃ pair, Means text pair := by
  obtain ⟨key, value, spells⟩ := exists_spells text
  cases named : nameless key with
  | true => exact .inl ⟨key, value, spells, named⟩
  | false => exact .inr ⟨(flagOf key, value), key, spells, named, rfl⟩

theorem means_of_read {text : String} {pair : String × Option String}
    (done : read text = .ok pair) : Means text pair := by
  rcases refused_or_means text with refused | ⟨other, means⟩
  · cases (read_of_refused refused).symm.trans done
  · cases (read_of_means means).symm.trans done
    exact means

theorem Means.not_refused {text : String} {pair : String × Option String}
    (means : Means text pair) : ¬Refused text := by
  intro refused
  have both := (read_of_means means).symm.trans (read_of_refused refused)
  cases both

theorem Means.unique {text : String} {pair other : String × Option String}
    (one : Means text pair) (two : Means text other) : pair = other :=
  Except.ok.inj ((read_of_means one).symm.trans (read_of_means two))

theorem Means.isFlag {text : String} {pair : String × Option String} (means : Means text pair) :
    IsFlag pair.1 := by
  obtain ⟨key, spells, named, flag⟩ := means
  rw [flag]
  exact flagOf_isFlag spells.plain named

/-! ### Lists of texts -/

/-- Texts are read if none is refused, and then what they come to is written one after the
other. -/
theorem readInto_eq_ok_iff {before args : CaptureArguments} {texts : List String} :
    readInto before texts = .ok args ↔
      ∃ pairs, List.Forall₂ Means texts pairs ∧ args = Ordered.update before pairs := by
  induction texts generalizing before with
  | nil =>
      constructor
      · intro done
        exact ⟨[], .nil, (Except.ok.inj done).symm⟩
      · rintro ⟨pairs, all, rfl⟩
        cases all
        rfl
  | cons text rest ih =>
      rcases refused_or_means text with refused | ⟨pair, means⟩
      · constructor
        · intro done
          rw [readInto, read_of_refused refused] at done
          cases done
        · rintro ⟨pairs, all, -⟩
          cases all with
          | cons means _ => exact absurd refused means.not_refused
      · rw [readInto, read_of_means means]
        refine ih.trans ⟨?_, ?_⟩
        · rintro ⟨pairs, all, written⟩
          exact ⟨pair :: pairs, .cons means all, written⟩
        · rintro ⟨pairs, all, written⟩
          cases all with
          | cons first later =>
              obtain rfl := means.unique first
              exact ⟨_, later, written⟩

/-- A list of texts comes to the table of what its texts come to. -/
theorem readAll_eq_ok_iff {args : CaptureArguments} {texts : List String} :
    readAll texts = .ok args ↔
      ∃ pairs, List.Forall₂ Means texts pairs ∧ args = Ordered.ofPairs pairs :=
  readInto_eq_ok_iff

/-- The first text that is refused is told of. -/
theorem readInto_error {before : CaptureArguments} {texts : List String} {error : HostError}
    (failed : readInto before texts = .error error) :
    ∃ front text back, texts = front ++ text :: back ∧ (∀ earlier ∈ front, ¬Refused earlier) ∧
      Refused text ∧ error = refusal text := by
  induction texts generalizing before with
  | nil => cases failed
  | cons text rest ih =>
      rcases refused_or_means text with refused | ⟨pair, means⟩
      · rw [readInto, read_of_refused refused] at failed
        exact ⟨[], text, rest, rfl, nofun, refused, (Except.error.inj failed).symm⟩
      · rw [readInto, read_of_means means] at failed
        obtain ⟨front, first, back, rfl, fine, refused, told⟩ := ih failed
        refine ⟨text :: front, first, back, rfl, ?_, refused, told⟩
        intro earlier member
        rcases List.mem_cons.mp member with rfl | later
        · exact means.not_refused
        · exact fine earlier later

/-- Each text comes to one of the pairs, and each pair comes of one of the texts. -/
theorem means_of_forall₂ {texts : List String} {pairs : CaptureArguments}
    (all : List.Forall₂ Means texts pairs) :
    (∀ text ∈ texts, ∃ pair, Means text pair) ∧ ∀ pair ∈ pairs, ∃ text, Means text pair := by
  induction all with
  | nil => exact ⟨nofun, nofun⟩
  | cons means _ ih =>
      constructor
      · exact List.forall_mem_cons.mpr ⟨⟨_, means⟩, ih.1⟩
      · exact List.forall_mem_cons.mpr ⟨⟨_, means⟩, ih.2⟩

/-- Reading fails if some text is refused, and only then. -/
theorem readAll_eq_error_iff {texts : List String} :
    (∃ error, readAll texts = .error error) ↔ ∃ text ∈ texts, Refused text := by
  constructor
  · rintro ⟨error, failed⟩
    obtain ⟨front, text, back, rfl, -, refused, -⟩ := readInto_error failed
    exact ⟨text, by simp, refused⟩
  · rintro ⟨text, member, refused⟩
    cases outcome : readAll texts with
    | error error => exact ⟨error, rfl⟩
    | ok args =>
        obtain ⟨pairs, all, -⟩ := readAll_eq_ok_iff.mp outcome
        obtain ⟨pair, means⟩ := (means_of_forall₂ all).1 text member
        exact absurd refused means.not_refused

/-- The flags that a list of texts comes to are flags, and no two of them are the same. -/
theorem readAll_flags {args : CaptureArguments} {texts : List String}
    (done : readAll texts = .ok args) :
    (Ordered.keys args).Nodup ∧ ∀ flag ∈ Ordered.keys args, IsFlag flag := by
  obtain ⟨pairs, all, rfl⟩ := readAll_eq_ok_iff.mp done
  refine ⟨Ordered.nodup_keys_ofPairs pairs, ?_⟩
  intro flag member
  obtain ⟨pair, inside, rfl⟩ := List.mem_map.mp (Ordered.mem_keys_ofPairs.mp member)
  obtain ⟨text, means⟩ := (means_of_forall₂ all).2 pair inside
  exact means.isFlag

/-- To read two lists one behind the other is to write what the second one comes to into what
the first one comes to. -/
theorem readAll_append {one two : CaptureArguments} {first second : List String}
    (readFirst : readAll first = .ok one) (readSecond : readAll second = .ok two) :
    readAll (first ++ second) = .ok (Ordered.update one two) := by
  obtain ⟨pairs, all, rfl⟩ := readAll_eq_ok_iff.mp readFirst
  obtain ⟨more, others, rfl⟩ := readAll_eq_ok_iff.mp readSecond
  rw [readAll_eq_ok_iff, ← Ordered.ofPairs_append]
  exact ⟨pairs ++ more, List.rel_append all others, rfl⟩

/-! ### Written arguments -/

/-- A flag, with an equals sign and its value behind it if it has one. -/
def write (pair : String × Option String) : String :=
  pair.2.elim pair.1 fun value => pair.1 ++ "=" ++ value

/-- A written flag comes to itself with its value. -/
theorem means_write {pair : String × Option String} (isFlag : IsFlag pair.1) :
    Means (write pair) pair := by
  obtain ⟨flag, value⟩ := pair
  refine ⟨flag, ?_, isFlag.nameless_eq, isFlag.flagOf_eq.symm⟩
  cases value with
  | none => exact .bare isFlag.plain
  | some value => exact .valued isFlag.plain value

/-- Arguments are read as they were written. -/
theorem readAll_write {args : CaptureArguments} (distinct : (Ordered.keys args).Nodup)
    (flags : ∀ flag ∈ Ordered.keys args, IsFlag flag) : readAll (args.map write) = .ok args := by
  rw [readAll_eq_ok_iff]
  refine ⟨args, ?_, (Ordered.ofPairs_of_nodup distinct).symm⟩
  rw [List.forall₂_map_left_iff, List.forall₂_same]
  intro pair member
  exact means_write (flags pair.1 (List.mem_map_of_mem member))

/-- What a list of accepted texts comes to: flags in the order in which they are first met,
each with the value that it was given last.  Written as texts again, they come to the same. -/
structure Settled (texts : List String) (args : CaptureArguments) : Prop where
  flags : ∀ flag ∈ Ordered.keys args, IsFlag flag
  told : ∃ pairs, List.Forall₂ Means texts pairs ∧
    Ordered.keys args = (Ordered.keys pairs).eraseDups ∧
    ∀ flag, Ordered.get? flag args = Ordered.get? flag pairs.reverse
  again : readAll (args.map write) = .ok args

/-- The arguments of an operator are refused if one of them has a key that is empty or made
of dashes, and the first such is told of.  Otherwise they come to settled flags, and more of
them are written into what they come to.  Flags that are settled are read as they are
written. -/
theorem arguments_reach_fixed_point (texts : List String) :
    ((∃ error, readAll texts = .error error) ↔ ∃ text ∈ texts, Refused text) ∧
      (∀ error, readAll texts = .error error →
        ∃ front text back, texts = front ++ text :: back ∧
          (∀ earlier ∈ front, ¬Refused earlier) ∧ Refused text ∧ error = refusal text) ∧
      (∀ args, readAll texts = .ok args →
        Settled texts args ∧
          ∀ more other, readAll more = .ok other →
            readAll (texts ++ more) = .ok (Ordered.update args other)) ∧
      ∀ args : CaptureArguments, (Ordered.keys args).Nodup →
        (∀ flag ∈ Ordered.keys args, IsFlag flag) → readAll (args.map write) = .ok args := by
  refine ⟨readAll_eq_error_iff, fun error failed => readInto_error failed, ?_,
    fun args distinct flags => readAll_write distinct flags⟩
  intro args done
  obtain ⟨distinct, flags⟩ := readAll_flags done
  refine ⟨⟨flags, ?_, readAll_write distinct flags⟩, fun more other => readAll_append done⟩
  obtain ⟨pairs, all, rfl⟩ := readAll_eq_ok_iff.mp done
  exact ⟨pairs, all, Ordered.keys_ofPairs pairs, fun flag => Ordered.get?_ofPairs flag pairs⟩

/-- A flag that is spelled in two ways is one flag, with the value that it was given last. -/
theorem two_spellings_settled :
    readAll ["delay=5", " -v ", "--delay =a=b"] = .ok [("--delay", some "a=b"), ("-v", none)] ∧
      readAll ["--delay=a=b", "-v"] = .ok [("--delay", some "a=b"), ("-v", none)] := by
  have done : readAll ["delay=5", " -v ", "--delay =a=b"] =
      .ok [("--delay", some "a=b"), ("-v", none)] := by decide
  have settled := ((arguments_reach_fixed_point _).2.2.1 _ done).1
  exact ⟨done, settled.again⟩

end ExtcapHost.OperatorArgument
