/-
Module: ExtcapHost.Proofs.Text.Blank
Purpose: What trimming leaves of a text.
Main exports:
  Text.Blanks, Text.Unpadded, Text.trim_unpadded, Text.trim_of_unblank, Text.trim_around
-/
import ExtcapHost.Proofs.Text.Line
import ExtcapHost.Text.Blank
import Mathlib.Data.List.DropRight
import Mathlib.Data.List.TakeWhile

namespace ExtcapHost.Text

/-- Blanks within one line. -/
structure Blanks where
  text : List Char
  blank : ∀ c ∈ text, isBlank c = true
  within : IsLine text

/-- A text begins and ends with characters that are not blank, if it has any. -/
structure Unpadded (text : List Char) : Prop where
  front : ∀ c ∈ text.head?, isBlank c = false
  back : ∀ c ∈ text.getLast?, isBlank c = false

theorem trimStart_of_front {text : List Char} (front : ∀ c ∈ text.head?, isBlank c = false) :
    trimStart text = text := by
  cases text with
  | nil => rfl
  | cons c rest =>
      have unblank := front c rfl
      rw [trimStart, List.dropWhile_cons_of_neg (by rw [unblank]; nofun)]

theorem trimEnd_of_back {text : List Char} (back : ∀ c ∈ text.getLast?, isBlank c = false) :
    trimEnd text = text := by
  have reversed : trimStart text.reverse = text.reverse := by
    apply trimStart_of_front
    intro c first
    rw [List.head?_reverse] at first
    exact back c first
  rw [trimEnd, ← trimStart, reversed, List.reverse_reverse]

/-- There is nothing to trim where the ends are not blank. -/
theorem Unpadded.trim_eq {text : List Char} (unpadded : Unpadded text) : trim text = text := by
  rw [trim, trimStart_of_front unpadded.front, trimEnd_of_back unpadded.back]

theorem head?_trimStart (text : List Char) :
    ∀ c ∈ (trimStart text).head?, isBlank c = false := by
  intro c first
  have unblank := List.head?_dropWhile_not isBlank text
  rw [← trimStart, first] at unblank
  exact unblank

/-- What trimming leaves has no blanks at its ends. -/
theorem trim_unpadded (text : List Char) : Unpadded (trim text) where
  front := by
    intro c first
    apply head?_trimStart text c
    -- What stays after trimming the end begins as before.
    obtain ⟨blanks, whole⟩ := List.rdropWhile_prefix isBlank (trimStart text)
    rw [Option.mem_def, List.head?_eq_some_iff] at first ⊢
    obtain ⟨rest, kept⟩ := first
    have same : List.rdropWhile isBlank (trimStart text) = c :: rest := kept
    rw [same] at whole
    exact ⟨rest ++ blanks, whole.symm⟩
  back := by
    intro c last
    rw [trim, trimEnd, List.getLast?_reverse] at last
    exact head?_trimStart _ c last

theorem mem_of_mem_trim {text : List Char} {c : Char} (member : c ∈ trim text) : c ∈ text := by
  have inner : c ∈ (trimStart text).reverse :=
    (List.dropWhile_sublist isBlank).mem (List.mem_reverse.mp member)
  exact (List.dropWhile_sublist isBlank).mem (List.mem_reverse.mp inner)

theorem trim_of_unblank {text : List Char} (unblank : ∀ c ∈ text, isBlank c = false) :
    trim text = text := by
  apply Unpadded.trim_eq
  constructor
  · exact fun c first => unblank c (List.mem_of_mem_head? first)
  · exact fun c last => unblank c (List.mem_of_mem_getLast? last)

theorem trimStart_append {front : List Char} (blank : ∀ c ∈ front, isBlank c = true)
    (text : List Char) : trimStart (front ++ text) = trimStart text :=
  List.dropWhile_append_of_pos blank

theorem trimEnd_append {back : List Char} (blank : ∀ c ∈ back, isBlank c = true)
    (text : List Char) : trimEnd (text ++ back) = trimEnd text := by
  have reversed : ∀ c ∈ back.reverse, isBlank c = true :=
    fun c member => blank c (List.mem_reverse.mp member)
  rw [trimEnd, List.reverse_append, List.dropWhile_append_of_pos reversed, trimEnd]

/-- Blanks around a text are trimmed away with those that it has itself. -/
theorem trim_around {front back : List Char} (before : ∀ c ∈ front, isBlank c = true)
    (after : ∀ c ∈ back, isBlank c = true) (text : List Char) :
    trim (front ++ text ++ back) = trim text := by
  rw [List.append_assoc, trim, trimStart_append before, trim]
  cases left : trimStart text with
  | nil =>
      -- All is blank, so what stands behind goes from the front.
      have allBlank : ∀ c ∈ text ++ back, isBlank c = true := by
        intro c member
        rcases List.mem_append.mp member with inside | behind
        · exact List.dropWhile_eq_nil_iff.mp left c inside
        · exact after c behind
      rw [trimStart, List.dropWhile_eq_nil_iff.mpr allBlank]
  | cons first rest =>
      have stays : trimStart (text ++ back) = first :: rest ++ back := by
        rw [trimStart, List.dropWhile_append, ← trimStart, left]
        rfl
      rw [stays, trimEnd_append after]

end ExtcapHost.Text
