/-
Module: ExtcapHost.Proofs.Sentence.Spelling
Purpose: All ways to spell a sentence are read as the same sentence.
Main exports:
  Sentence.SpelledParameter, Sentence.Spelling, Sentence.scanParameters_spelled,
  Sentence.ofLine?_spelled, Sentence.spelled_sentence_read,
  Sentence.scatteredSpelling
-/
import ExtcapHost.Proofs.Sentence.LineByLine
import ExtcapHost.Proofs.Sentence.Skipping

/-!
A parameter begins at the first opening brace from which one can be read.  In front of a
parameter there is no brace but its own, so the scan comes to it; the key and the value may
hold more braces, because once a parameter is read the scan goes on behind it.
-/

namespace ExtcapHost.Sentence

open Text

/-- A parameter with blanks around its key, and text without an opening brace behind it. -/
structure SpelledParameter where
  before : Blanks
  key : String
  after : Blanks
  value : String
  gap : List Char
  isKey : IsKey key
  isValue : IsValue value
  unbraced : ∀ c ∈ gap, c ≠ '{'
  gapWithin : IsLine gap

/-- A line with blanks in front of its kind, whose letters may be small or capital, blanks
behind it, and parameters. -/
structure Spelling where
  lead : Blanks
  kind : List Char
  blanks : Blanks
  parameters : List SpelledParameter
  present : kind ≠ []
  letters : ∀ c ∈ kind, isKindLetter c = true

namespace SpelledParameter

/-- The key as it stands between the brace and the equals sign. -/
def spelledKey (parameter : SpelledParameter) : List Char :=
  parameter.before.text ++ parameter.key.toList ++ parameter.after.text

def text (parameter : SpelledParameter) : List Char :=
  '{' :: (parameter.spelledKey ++ '=' :: (parameter.value.toList ++ '}' :: parameter.gap))

/-- What the parameter says. -/
def pair (parameter : SpelledParameter) : String × String :=
  (parameter.key, parameter.value)

end SpelledParameter

/-- What stands behind the kind. -/
def Spelling.body (spelling : Spelling) : List Char :=
  spelling.blanks.text ++ spelling.parameters.flatMap SpelledParameter.text

def Spelling.text (spelling : Spelling) : List Char :=
  spelling.lead.text ++ (spelling.kind ++ spelling.body)

/-! ### Blanks among the characters of a sentence -/

theorem isKindLetter_of_isBlank {c : Char} (blank : isBlank c = true) :
    isKindLetter c = false := by
  cases letter : isKindLetter c with
  | false => rfl
  | true => exact absurd blank (by rw [isBlank_of_isKindLetter letter]; nofun)

theorem isKeyLetter_of_isBlank {c : Char} (blank : isBlank c = true) : isKeyLetter c = true := by
  have notEquals : c ≠ '=' := by
    rintro rfl
    cases blank
  have notBrace : c ≠ '}' := by
    rintro rfl
    cases blank
  simp [isKeyLetter, notEquals, notBrace]

theorem ne_brace_of_isBlank {c : Char} (blank : isBlank c = true) : c ≠ '{' := by
  rintro rfl
  cases blank

/-! ### Scanning -/

theorem parameterAt?_of_unbraced {c : Char} (unbraced : c ≠ '{') (rest : List Char) :
    parameterAt? (c :: rest) = none := by
  unfold parameterAt?
  split
  · rename_i same
    cases same
    exact absurd rfl unbraced
  · rfl

/-- Text without an opening brace is passed over. -/
theorem scanParameters_append {front : List Char} (unbraced : ∀ c ∈ front, c ≠ '{')
    (rest : List Char) : scanParameters (front ++ rest) = scanParameters rest := by
  induction front with
  | nil => rfl
  | cons c front ih =>
      have none := parameterAt?_of_unbraced (unbraced c (.head _)) (front ++ rest)
      rw [List.cons_append, scanParameters_of_none none,
        ih fun d member => unbraced d (.tail _ member)]

namespace SpelledParameter

theorem spelledKey_present (parameter : SpelledParameter) : parameter.spelledKey ≠ [] := by
  intro empty
  simp only [spelledKey, List.append_eq_nil_iff] at empty
  exact parameter.isKey.present empty.1.2

theorem spelledKey_letters (parameter : SpelledParameter) :
    ∀ c ∈ parameter.spelledKey, isKeyLetter c = true := by
  intro c member
  simp only [spelledKey, List.mem_append] at member
  rcases member with (front | inside) | back
  · exact isKeyLetter_of_isBlank (parameter.before.blank c front)
  · exact parameter.isKey.letters c inside
  · exact isKeyLetter_of_isBlank (parameter.after.blank c back)

/-- The blanks around the key are trimmed away. -/
theorem trim_spelledKey (parameter : SpelledParameter) :
    trim parameter.spelledKey = parameter.key.toList := by
  rw [spelledKey, trim_around parameter.before.blank parameter.after.blank,
    parameter.isKey.trimmed]

/-- The scan finds the parameter, and goes on behind the text that follows it. -/
theorem scanParameters_text (parameter : SpelledParameter) (rest : List Char) :
    scanParameters (parameter.text ++ rest) =
      (parameter.spelledKey, parameter.value.toList) :: scanParameters rest := by
  have split : parameter.text ++ rest =
      '{' :: (parameter.spelledKey ++ '=' ::
        (parameter.value.toList ++ '}' :: (parameter.gap ++ rest))) := by
    simp [text]
  have scanned := parameterAt?_braced parameter.spelledKey_present parameter.spelledKey_letters
    parameter.isValue.letters (parameter.gap ++ rest)
  rw [split, scanParameters_of_some scanned, scanParameters_append parameter.unbraced]

theorem text_isLine (parameter : SpelledParameter) : IsLine parameter.text := by
  intro c member
  simp only [text, spelledKey, List.mem_cons, List.mem_append] at member
  rcases member with rfl | ((front | inside) | back) | rfl | inValue | rfl | inGap
  · rfl
  · exact parameter.before.within c front
  · exact parameter.isKey.within c inside
  · exact parameter.after.within c back
  · rfl
  · exact parameter.isValue.within c inValue
  · rfl
  · exact parameter.gapWithin c inGap

end SpelledParameter

theorem scanParameters_spelled (parameters : List SpelledParameter) :
    scanParameters (parameters.flatMap SpelledParameter.text) =
      parameters.map fun parameter => (parameter.spelledKey, parameter.value.toList) := by
  induction parameters with
  | nil => exact scanParameters_nil
  | cons parameter rest ih =>
      rw [List.flatMap_cons, parameter.scanParameters_text, ih, List.map_cons]

namespace Spelling

theorem text_isLine (spelling : Spelling) : IsLine spelling.text := by
  intro c member
  simp only [text, body, List.mem_append, List.mem_flatMap] at member
  rcases member with front | inKind | behind | ⟨parameter, -, inside⟩
  · exact spelling.lead.within c front
  · exact isLineBreak_of_isKindLetter (spelling.letters c inKind)
  · exact spelling.blanks.within c behind
  · exact parameter.text_isLine c inside

/-- What stands behind the kind does not go on with a letter. -/
theorem body_stops (spelling : Spelling) : spelling.body.takeWhile isKindLetter = [] := by
  rw [body]
  cases split : spelling.blanks.text with
  | nil =>
      cases spelling.parameters with
      | nil => rfl
      | cons parameter rest => rfl
  | cons c rest =>
      have blank : isBlank c = true := spelling.blanks.blank c (by rw [split]; exact .head _)
      have stops : ¬isKindLetter c = true := by
        rw [isKindLetter_of_isBlank blank]
        exact Bool.false_ne_true
      rw [List.cons_append, List.takeWhile_cons_of_neg stops]

theorem trimStart_text (spelling : Spelling) :
    trimStart spelling.text = spelling.kind ++ spelling.body := by
  obtain ⟨first, more, split⟩ := List.exists_cons_of_ne_nil spelling.present
  have stays : ¬isBlank first = true := by
    rw [isBlank_of_isKindLetter (spelling.letters first (by rw [split]; exact .head _))]
    exact Bool.false_ne_true
  rw [text, trimStart_append spelling.lead.blank, split, trimStart, List.cons_append,
    List.dropWhile_cons_of_neg stays]

theorem leadingLetters_text (spelling : Spelling) :
    leadingLetters spelling.text = spelling.kind := by
  rw [leadingLetters, trimStart_text, List.takeWhile_append_of_pos spelling.letters, body_stops,
    List.append_nil]

theorem afterLetters_text (spelling : Spelling) : afterLetters spelling.text = spelling.body := by
  have whole := List.takeWhile_append_dropWhile (p := isKindLetter) (l := trimStart spelling.text)
  rw [← leadingLetters, ← afterLetters, leadingLetters_text, trimStart_text] at whole
  exact List.append_cancel_left whole

theorem readParameters_body (spelling : Spelling) :
    readParameters spelling.body =
      Ordered.ofPairs (spelling.parameters.map SpelledParameter.pair) := by
  have said : ∀ parameter : SpelledParameter,
      (String.ofList (trim parameter.spelledKey), String.ofList parameter.value.toList) =
        parameter.pair := by
    intro parameter
    rw [parameter.trim_spelledKey, String.ofList_toList, String.ofList_toList]
    rfl
  have unbraced : ∀ c ∈ spelling.blanks.text, c ≠ '{' :=
    fun c member => ne_brace_of_isBlank (spelling.blanks.blank c member)
  rw [readParameters, body, scanParameters_append unbraced, scanParameters_spelled, List.map_map]
  simp only [Function.comp_def, said]

end Spelling

theorem ofLine?_spelled (spelling : Spelling) :
    ofLine? spelling.text =
      some
        { kind := String.ofList (lower spelling.kind)
          parameters := Ordered.ofPairs (spelling.parameters.map SpelledParameter.pair) } := by
  have present : leadingLetters spelling.text ≠ [] := by
    rw [spelling.leadingLetters_text]
    exact spelling.present
  rw [ofLine?_of_letters present, spelling.leadingLetters_text, spelling.afterLetters_text,
    spelling.readParameters_body]

/-- However a sentence is spelled, exactly one sentence is read.  Its kind is in small
letters.  Its keys stand where they were written first, and have the values that were
written last. -/
theorem spelled_sentence_read (spelling : Spelling) :
    ∃ sentence, readAll (String.ofList spelling.text) = [sentence] ∧
      sentence.kind = String.ofList (lower spelling.kind) ∧
      Ordered.keys sentence.parameters =
        (spelling.parameters.map SpelledParameter.key).eraseDups ∧
      ∀ key, sentence.parameter? key =
        Ordered.get? key (spelling.parameters.map SpelledParameter.pair).reverse := by
  let pairs := spelling.parameters.map SpelledParameter.pair
  have read : readAll (String.ofList spelling.text) =
      [⟨String.ofList (lower spelling.kind), Ordered.ofPairs pairs⟩] := by
    rw [readAll_line spelling.text_isLine, ofLine?_spelled]
    rfl
  have keys : Ordered.keys (Ordered.ofPairs pairs) =
      (spelling.parameters.map SpelledParameter.key).eraseDups := by
    rw [Ordered.keys_ofPairs, Ordered.keys, List.map_map]
    rfl
  exact ⟨_, read, rfl, keys, fun key => Ordered.get?_ofPairs key pairs⟩

/-- Blanks and other text everywhere, braces in a key and in values, a key that comes again. -/
def scatteredSpelling : Spelling where
  lead := ⟨['\t', ' '], List.all_eq_true.mp rfl, by decide⟩
  kind := ['A', 'r', 'g']
  blanks := ⟨[], nofun, nofun⟩
  parameters :=
    [{ before := ⟨[' '], List.all_eq_true.mp rfl, by decide⟩
       key := "a\x7bb"
       after := ⟨[' '], List.all_eq_true.mp rfl, by decide⟩
       value := "\x7bc=1 "
       gap := [';', ' ', 'x', '=', '}']
       isKey := by decide
       isValue := by decide
       unbraced := by simp
       gapWithin := by decide },
     { before := ⟨[], nofun, nofun⟩
       key := "d"
       after := ⟨[], nofun, nofun⟩
       value := ""
       gap := [' ']
       isKey := by decide
       isValue := by decide
       unbraced := by simp
       gapWithin := by decide },
     { before := ⟨[], nofun, nofun⟩
       key := "a\x7bb"
       after := ⟨['\u00a0'], List.all_eq_true.mp rfl, by decide⟩
       value := "2"
       gap := []
       isKey := by decide
       isValue := by decide
       unbraced := nofun
       gapWithin := nofun }]
  present := nofun
  letters := List.all_eq_true.mp rfl

/-- The repeated key stands first and has its last value. -/
theorem scattered_spelling_read :
    String.ofList scatteredSpelling.text =
        "\t Arg\x7b a\x7bb =\x7bc=1 \x7d; x=\x7d\x7bd=\x7d \x7ba\x7bb\u00a0=2\x7d" ∧
      ∃ sentence, readAll (String.ofList scatteredSpelling.text) = [sentence] ∧
        sentence.kind = "arg" ∧ Ordered.keys sentence.parameters = ["a\x7bb", "d"] ∧
        sentence.parameter? "a\x7bb" = some "2" ∧ sentence.parameter? "d" = some "" := by
  refine ⟨by decide, ?_⟩
  obtain ⟨sentence, read, kind, keys, values⟩ := spelled_sentence_read scatteredSpelling
  exact ⟨sentence, read, kind.trans (by decide), keys.trans (by decide),
    (values _).trans (by decide), (values _).trans (by decide)⟩

end ExtcapHost.Sentence
