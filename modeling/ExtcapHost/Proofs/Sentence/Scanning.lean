/-
Module: ExtcapHost.Proofs.Sentence.Scanning
Purpose: Which parameters a scan finds: the leftmost ones that do not overlap.
Main exports:
  Sentence.IsParameter, Sentence.Begins, Sentence.Passable, Sentence.Cut,
  Sentence.scan_is_leftmost
-/
import ExtcapHost.Proofs.Sentence.Writing

/-!
A text can be cut into parameters and the gaps around them in many ways, but only in one
way such that no parameter begins inside a gap.  An opening brace that begins no parameter
belongs to a gap, and so does the text behind it up to the next place where one begins,
however much of that text was looked at in vain.
-/

namespace ExtcapHost.Sentence

/-- A key and a value that make a parameter between braces. -/
structure IsParameter (pair : List Char × List Char) : Prop where
  present : pair.1 ≠ []
  key : '=' ∉ pair.1 ∧ '}' ∉ pair.1
  value : '}' ∉ pair.2

/-- A key and a value between braces. -/
def braced (pair : List Char × List Char) : List Char :=
  '{' :: (pair.1 ++ '=' :: (pair.2 ++ ['}']))

/-- A parameter begins at the front of the text: an opening brace, one or more characters
other than an equals sign and a closing brace, an equals sign, and a text in which the brace
is closed. -/
def Begins (text : List Char) : Prop :=
  ∃ key tail, text = '{' :: (key ++ '=' :: tail) ∧ key ≠ [] ∧ '=' ∉ key ∧ '}' ∉ key ∧ '}' ∈ tail

/-- No parameter begins inside a gap that stands in front of a text. -/
def Passable (gap rest : List Char) : Prop :=
  ∀ back, back <:+ gap → back ≠ [] → ¬Begins (back ++ rest)

/-- The text is cut into gaps and parameters, such that none begins inside a gap. -/
inductive Cut : List Char → List (List Char) → List (List Char × List Char) → Prop where
  /-- There is nothing but the last gap. -/
  | last {gap : List Char} (passable : Passable gap []) : Cut gap [gap] []
  /-- Behind the first gap stands a parameter, and behind that a text that is cut itself. -/
  | next {gap rest : List Char} {pair : List Char × List Char} {gaps : List (List Char)}
      {pairs : List (List Char × List Char)} (passable : Passable gap (braced pair ++ rest))
      (parameter : IsParameter pair) (later : Cut rest gaps pairs) :
      Cut (gap ++ (braced pair ++ rest)) (gap :: gaps) (pair :: pairs)

/-! ### Parameters at the front -/

theorem IsParameter.keyLetters {pair : List Char × List Char} (parameter : IsParameter pair) :
    ∀ c ∈ pair.1, isKeyLetter c = true := by
  intro c member
  have notEquals : c ≠ '=' := by
    rintro rfl
    exact parameter.key.1 member
  have notBrace : c ≠ '}' := by
    rintro rfl
    exact parameter.key.2 member
  simp [isKeyLetter, notEquals, notBrace]

theorem IsParameter.valueLetters {pair : List Char × List Char} (parameter : IsParameter pair) :
    ∀ c ∈ pair.2, isValueLetter c = true := by
  intro c member
  have notBrace : c ≠ '}' := by
    rintro rfl
    exact parameter.value member
  simp [isValueLetter, notBrace]

/-- A parameter at the front is found, with the text behind it. -/
theorem parameterAt?_of_parameter {pair : List Char × List Char} (parameter : IsParameter pair)
    (rest : List Char) :
    parameterAt? (braced pair ++ rest) = some ⟨pair.1, pair.2, rest⟩ := by
  have text : braced pair ++ rest = '{' :: (pair.1 ++ '=' :: (pair.2 ++ '}' :: rest)) := by
    simp [braced]
  rw [text, parameterAt?_braced parameter.present parameter.keyLetters parameter.valueLetters]

/-- What is found stands at the front. -/
theorem parameter_of_parameterAt? {text : List Char} {found : ScannedParameter}
    (scanned : parameterAt? text = some found) :
    IsParameter (found.key, found.value) ∧
      text = braced (found.key, found.value) ++ found.rest := by
  unfold parameterAt? at scanned
  split at scanned
  · rename_i text
    split at scanned
    · rename_i first more tail taken dropped
      split at scanned
      · rename_i rest closed
        cases scanned
        have inKey := List.takeWhile_append_dropWhile (p := isKeyLetter) (l := text)
        have inValue := List.takeWhile_append_dropWhile (p := isValueLetter) (l := tail)
        rw [taken, dropped] at inKey
        rw [closed] at inValue
        refine ⟨⟨List.cons_ne_nil first more, ⟨?_, ?_⟩, ?_⟩, ?_⟩
        · intro member
          exact Bool.false_ne_true (List.mem_takeWhile_imp (taken ▸ member))
        · intro member
          exact Bool.false_ne_true (List.mem_takeWhile_imp (taken ▸ member))
        · intro member
          exact Bool.false_ne_true (List.mem_takeWhile_imp member)
        · simp only [braced, List.cons_append, List.append_assoc, List.nil_append, inValue, ← inKey]
      · cases scanned
    · cases scanned
  · cases scanned

/-- A parameter begins where one stands: its value goes up to the next closing brace. -/
theorem begins_iff_exists_parameter {text : List Char} :
    Begins text ↔ ∃ pair rest, IsParameter pair ∧ text = braced pair ++ rest := by
  constructor
  · rintro ⟨key, tail, rfl, present, plain, unclosed, closed⟩
    obtain ⟨value, rest, rfl, first⟩ := List.eq_append_cons_of_mem closed
    exact ⟨(key, value), rest, ⟨present, ⟨plain, unclosed⟩, first⟩, by simp [braced]⟩
  · rintro ⟨pair, rest, parameter, rfl⟩
    refine ⟨pair.1, pair.2 ++ '}' :: rest, by simp [braced], parameter.present,
      parameter.key.1, parameter.key.2, by simp⟩

theorem begins_braced {pair : List Char × List Char} (parameter : IsParameter pair)
    (rest : List Char) : Begins (braced pair ++ rest) :=
  begins_iff_exists_parameter.mpr ⟨pair, rest, parameter, rfl⟩

theorem begins_iff {text : List Char} : Begins text ↔ ∃ found, parameterAt? text = some found := by
  rw [begins_iff_exists_parameter]
  constructor
  · rintro ⟨pair, rest, parameter, rfl⟩
    exact ⟨_, parameterAt?_of_parameter parameter rest⟩
  · rintro ⟨found, scanned⟩
    obtain ⟨parameter, text⟩ := parameter_of_parameterAt? scanned
    exact ⟨_, found.rest, parameter, text⟩

/-- Where no parameter begins, none is found. -/
theorem parameterAt?_of_not_begins {text : List Char} (none : ¬Begins text) :
    parameterAt? text = .none := by
  cases scanned : parameterAt? text with
  | none => rfl
  | some found => exact absurd (begins_iff.mpr ⟨found, scanned⟩) none

/-- Two parameters at the front of one text are the same. -/
theorem braced_append_inj {one two : List Char × List Char} {rest other : List Char}
    (parameter : IsParameter one) (parameterToo : IsParameter two)
    (same : braced one ++ rest = braced two ++ other) : one = two ∧ rest = other := by
  have found := parameterAt?_of_parameter parameter rest
  rw [same, parameterAt?_of_parameter parameterToo other, Option.some.injEq,
    ScannedParameter.mk.injEq] at found
  exact ⟨(Prod.ext found.1 found.2.1).symm, found.2.2.symm⟩

/-! ### Gaps -/

theorem passable_nil (rest : List Char) : Passable [] rest := by
  intro back suffix filled
  exact absurd (List.suffix_nil.mp suffix) filled

theorem passable_cons {c : Char} {gap rest : List Char} :
    Passable (c :: gap) rest ↔ ¬Begins (c :: gap ++ rest) ∧ Passable gap rest := by
  constructor
  · intro passable
    refine ⟨passable _ (List.suffix_refl _) (List.cons_ne_nil c gap), ?_⟩
    intro back suffix filled
    exact passable back (suffix.trans (List.suffix_cons c gap)) filled
  · rintro ⟨here, passable⟩ back suffix filled
    rcases List.suffix_cons_iff.mp suffix with rfl | later
    · exact here
    · exact passable back later filled

/-- A gap is passed over. -/
theorem scanParameters_of_passable {gap rest : List Char} (passable : Passable gap rest) :
    scanParameters (gap ++ rest) = scanParameters rest := by
  induction gap with
  | nil => rfl
  | cons c gap ih =>
      obtain ⟨here, later⟩ := passable_cons.mp passable
      have none := parameterAt?_of_not_begins here
      rw [List.cons_append] at none ⊢
      rw [scanParameters_of_none none, ih later]

/-- A parameter that begins in a gap begins behind its last character. -/
theorem Passable.stop {gap front back rest : List Char} (passable : Passable gap rest)
    (split : gap = front ++ back) (begins : Begins (back ++ rest)) : back = [] := by
  by_contra filled
  exact passable back ⟨front, split.symm⟩ filled begins

/-- A gap ends where the first parameter begins. -/
theorem gap_eq {gap other rest tail : List Char} (passable : Passable gap rest)
    (passableToo : Passable other tail) (begins : Begins rest) (beginsToo : Begins tail)
    (same : gap ++ rest = other ++ tail) : gap = other ∧ rest = tail := by
  rcases List.append_eq_append_iff.mp same with ⟨back, split, text⟩ | ⟨back, split, text⟩
  · have empty := passableToo.stop split (text ▸ begins)
    rw [empty] at split text
    exact ⟨by simpa using split.symm, by simpa using text⟩
  · have empty := passable.stop split (text ▸ beginsToo)
    rw [empty] at split text
    exact ⟨by simpa using split, by simpa using text.symm⟩

/-- There is no parameter in the last gap. -/
theorem last_gap_ne {gap front rest : List Char} {pair : List Char × List Char}
    (passable : Passable gap []) (parameter : IsParameter pair) :
    gap ≠ front ++ (braced pair ++ rest) := by
  intro split
  have begins := begins_braced parameter rest
  rw [← List.append_nil (braced pair ++ rest)] at begins
  cases passable.stop split begins

/-! ### Cuts and scans -/

namespace Cut

variable {text : List Char} {gaps others : List (List Char)}
  {pairs more : List (List Char × List Char)}

/-- The parameters of a cut are those of the scan. -/
theorem pairs_eq (cut : Cut text gaps pairs) : pairs = scanParameters text := by
  induction cut with
  | last passable =>
      have scanned := scanParameters_of_passable passable
      rw [List.append_nil, scanParameters_nil] at scanned
      exact scanned.symm
  | next passable parameter _ ih =>
      rw [scanParameters_of_passable passable,
        scanParameters_of_some (parameterAt?_of_parameter parameter _), ih]

/-- A text can be cut in one way only. -/
theorem unique (cut : Cut text gaps pairs) (cutToo : Cut text others more) :
    gaps = others ∧ pairs = more := by
  refine ⟨?_, cut.pairs_eq.trans cutToo.pairs_eq.symm⟩
  induction cut generalizing others more with
  | @last gap passable =>
      cases cutToo with
      | last _ => rfl
      | next _ parameter _ =>
          exact absurd rfl (last_gap_ne passable parameter)
  | @next gap rest pair gaps pairs passable parameter later ih =>
      generalize whole : gap ++ (braced pair ++ rest) = text at cutToo
      cases cutToo with
      | last passableToo =>
          exact absurd whole.symm (last_gap_ne passableToo parameter)
      | next passableToo parameterToo laterToo =>
          obtain ⟨rfl, braces⟩ := gap_eq passable passableToo (begins_braced parameter rest)
            (begins_braced parameterToo _) whole
          obtain ⟨rfl, rfl⟩ := braced_append_inj parameter parameterToo braces
          exact congrArg (gap :: ·) (ih laterToo)

/-- A character that begins no parameter makes the first gap longer. -/
theorem pass {c : Char} (none : ¬Begins (c :: text)) (cut : Cut text gaps pairs) :
    ∃ longer, Cut (c :: text) longer pairs := by
  cases cut with
  | last passable =>
      refine ⟨_, .last (passable_cons.mpr ⟨?_, passable⟩)⟩
      rwa [List.append_nil]
  | @next gap rest pair gaps pairs passable parameter later =>
      refine ⟨(c :: gap) :: gaps, ?_⟩
      rw [← List.cons_append]
      exact .next (passable_cons.mpr ⟨none, passable⟩) parameter later

end Cut

/-- The parameters that a scan finds cut the text. -/
theorem exists_cut (text : List Char) : ∃ gaps, Cut text gaps (scanParameters text) := by
  fun_induction scanParameters text with
  | case1 text found scanned _ ih =>
      obtain ⟨gaps, cut⟩ := ih
      obtain ⟨parameter, rfl⟩ := parameter_of_parameterAt? scanned
      exact ⟨[] :: gaps, .next (passable_nil _) parameter cut⟩
  | case2 => exact ⟨[[]], .last (passable_nil [])⟩
  | case3 c rest none ih =>
      obtain ⟨gaps, cut⟩ := ih
      refine cut.pass fun begins => ?_
      obtain ⟨found, scanned⟩ := begins_iff.mp begins
      cases none.symm.trans scanned

/-- Any text is cut by the parameters that the scan finds in it, such that none begins inside
a gap, and it can be cut so in no other way. -/
theorem scan_is_leftmost (text : List Char) :
    ∃ gaps, Cut text gaps (scanParameters text) ∧
      ∀ others pairs, Cut text others pairs → others = gaps ∧ pairs = scanParameters text := by
  obtain ⟨gaps, cut⟩ := exists_cut text
  exact ⟨gaps, cut, fun others pairs cutToo => cutToo.unique cut⟩

end ExtcapHost.Sentence
