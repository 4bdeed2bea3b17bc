/-
Module: ExtcapHost.CommandLine.Grammar
Purpose: Telling options from operands on a command line.
Main exports:
  OptionShape, Grammar, Scanned, Grammar.scan
-/

/-!
A word that begins with a dash is an option, or several options of one letter in
a row; two dashes alone end the options.  An option with a value takes what
follows an equals sign, the rest of its word, or the next word.
-/

namespace ExtcapHost

/-- An option by what it means, the names it goes by, and whether it takes a
value. -/
structure OptionShape (ι : Type) where
  meaning : ι
  names : List String
  takesValue : Bool
deriving Repr

/-- The options that a command understands.  Where operands and options may not be
mixed, the first operand ends the options. -/
structure Grammar (ι : Type) where
  options : List (OptionShape ι)
  mixed : Bool

/-- The options of a command line with their values, and its operands. -/
structure Scanned (ι : Type) where
  options : List (ι × Option String)
  operands : List String
deriving Repr

namespace Grammar

variable {ι : Type}

/-- The option of a name. -/
def option? (grammar : Grammar ι) (name : String) : Option (OptionShape ι) :=
  grammar.options.find? fun shape => shape.names.contains name

/-- What one word says: options that are complete, and then perhaps one that waits
for its value. -/
structure Word (ι : Type) where
  complete : List (ι × Option String)
  waiting : Option ι
deriving Repr

/-- The options in a row of letters.  After a letter whose option takes a value,
the rest of the row is that value. -/
def readLetters (grammar : Grammar ι) : List Char → Option (Word ι)
  | [] => some ⟨[], none⟩
  | c :: rest =>
      match grammar.option? (String.ofList ['-', c]) with
      | none => none
      | some shape =>
          if shape.takesValue then
            if rest.isEmpty then some ⟨[], some shape.meaning⟩
            else some ⟨[(shape.meaning, some (String.ofList rest))], none⟩
          else
            (readLetters grammar rest).map fun word =>
              { word with complete := (shape.meaning, none) :: word.complete }

/-- The option in a word that begins with two dashes. -/
def readLong (grammar : Grammar ι) (word : List Char) : Option (Word ι) :=
  let name := word.takeWhile (· ≠ '=')
  let value :=
    match word.dropWhile (· ≠ '=') with
    | [] => none
    | _ :: value => some (String.ofList value)
  match grammar.option? (String.ofList name) with
  | none => none
  | some shape =>
      match shape.takesValue, value with
      | true, some value => some ⟨[(shape.meaning, some value)], none⟩
      | true, none => some ⟨[], some shape.meaning⟩
      | false, some _ => none
      | false, none => some ⟨[(shape.meaning, none)], none⟩

/-- The options in a word that begins with a dash. -/
def readWord (grammar : Grammar ι) : List Char → Option (Word ι)
  | '-' :: '-' :: rest => grammar.readLong ('-' :: '-' :: rest)
  | _ :: letters => grammar.readLetters letters
  | [] => none

/-- The word is an option: a dash with something after it. -/
def isOptionWord (word : String) : Bool :=
  match word.toList with
  | '-' :: _ :: _ => true
  | _ => false

/-- Options in front of what was scanned after them. -/
def prepend (options : List (ι × Option String)) (later : Scanned ι) : Scanned ι :=
  { later with options := options ++ later.options }

/-- Tell options from operands.  Nothing comes of a line with an unknown option, a
missing value, or a value too many. -/
def scan (grammar : Grammar ι) : List String → Option (Scanned ι)
  | [] => some ⟨[], []⟩
  | word :: rest =>
      if word = "--" then some ⟨[], rest⟩
      else if isOptionWord word then
        match grammar.readWord word.toList with
        | none => none
        | some ⟨complete, none⟩ => (scan grammar rest).map (prepend complete)
        | some ⟨complete, some waiting⟩ =>
            match rest with
            | [] => none
            | value :: rest =>
                (scan grammar rest).map (prepend (complete ++ [(waiting, some value)]))
      else if grammar.mixed then
        (scan grammar rest).map fun later => { later with operands := word :: later.operands }
      else
        some ⟨[], word :: rest⟩

end Grammar

namespace Scanned

variable {ι : Type} [DecidableEq ι]

/-- The option was given. -/
def has (scanned : Scanned ι) (meaning : ι) : Bool :=
  scanned.options.any fun option => option.1 = meaning

/-- The values of an option, in order. -/
def values (scanned : Scanned ι) (meaning : ι) : List String :=
  scanned.options.filterMap fun option => if option.1 = meaning then option.2 else none

/-- The value of an option that may be given only once; of several the last
counts. -/
def value? (scanned : Scanned ι) (meaning : ι) : Option String :=
  (scanned.values meaning).getLast?

/-- The first of some options that was given. -/
def firstOf? (scanned : Scanned ι) (meanings : List ι) : Option ι :=
  (scanned.options.find? fun option => meanings.contains option.1).map fun option => option.1

end Scanned

end ExtcapHost
