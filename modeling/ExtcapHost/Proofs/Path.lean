/-
Module: ExtcapHost.Proofs.Path
Purpose: Paths in normal form, absolute paths, and the paths of the entries of a directory.
Main exports:
  Path.IsNormal, Path.parse_isNormal, Path.parse_render, Path.IsEntryName, Path.IsAbsolute,
  absolutePath_isAbsolute, Path.IsAbsolute.join, Path.IsAbsolute.directory_join
-/
import ExtcapHost.Path

/-!
A path in normal form is written with its slashes in front and its names after them, and
can be read back from that; whatever is read is in normal form.  So an entry of a directory
has one absolute path, which no way of writing paths changes any more, and its directory
can be read off that path.
-/

namespace ExtcapHost.Path

/-- A name that an entry of a directory can have. -/
structure IsEntryName (name : List Char) : Prop where
  filled : name ≠ []
  unslashed : '/' ∉ name
  notHere : name ≠ ['.']
  notUp : name ≠ ['.', '.']

/-- A path that begins with a slash and in which no name can be left out. -/
structure IsAbsolute (path : Path Char) : Prop where
  rooted : path.slashes = 1 ∨ path.slashes = 2
  named : ∀ name ∈ path.names, IsEntryName name

section Normal

variable {α : Type} [Text.Spelling α]

/-- The characters of joined names. -/
theorem mem_joinNames {names : List (List α)} {c : α} (member : c ∈ joinNames names) :
    c = slash ∨ ∃ name ∈ names, c ∈ name := by
  induction names with
  | nil => cases member
  | cons first rest ih =>
      cases rest with
      | nil => exact Or.inr ⟨first, by simp, member⟩
      | cons second more =>
          simp only [joinNames, List.mem_append, List.mem_cons] at member
          rcases member with inside | slashed | later
          · exact Or.inr ⟨first, by simp, inside⟩
          · exact Or.inl slashed
          · rcases ih later with slashed | ⟨name, among, inside⟩
            · exact Or.inl slashed
            · exact Or.inr ⟨name, List.mem_cons_of_mem first among, inside⟩

variable [DecidableEq α]

/-- A name that stays in a path: that of an entry, or of the directory above. -/
structure IsKept (name : List α) : Prop where
  filled : name ≠ []
  unslashed : slash ∉ name
  notHere : name ≠ here

/-- A path in normal form. -/
structure IsNormal (path : Path α) : Prop where
  slashes : path.slashes = 0 ∨ path.slashes = 1 ∨ path.slashes = 2
  kept : ∀ name ∈ path.names, IsKept name

/-! ### The pieces between slashes -/

theorem pieces_ne_nil (text : List α) : pieces text ≠ [] := by
  cases text with
  | nil => nofun
  | cons c rest =>
      simp only [pieces]
      split
      · nofun
      · split <;> nofun

@[simp] theorem pieces_slash (text : List α) : pieces (slash :: text) = [] :: pieces text :=
  if_pos rfl

/-- Any other character is the first one of the first piece. -/
theorem pieces_cons {c : α} (other : c ≠ slash) (text : List α) :
    ∃ piece more, pieces text = piece :: more ∧ pieces (c :: text) = (c :: piece) :: more := by
  obtain ⟨piece, more, cut⟩ := List.exists_cons_of_ne_nil (pieces_ne_nil text)
  refine ⟨piece, more, cut, ?_⟩
  rw [pieces, if_neg other, cut]

theorem pieces_of_unslashed {name : List α} (unslashed : slash ∉ name) :
    pieces name = [name] := by
  induction name with
  | nil => rfl
  | cons c rest ih =>
      simp only [List.mem_cons, not_or] at unslashed
      obtain ⟨piece, more, cut, grown⟩ := pieces_cons (Ne.symm unslashed.1) rest
      rw [ih unslashed.2] at cut
      cases cut
      exact grown

/-- A name and a slash are the first piece. -/
theorem pieces_append_slash {name : List α} (unslashed : slash ∉ name) (text : List α) :
    pieces (name ++ slash :: text) = name :: pieces text := by
  induction name with
  | nil => exact pieces_slash text
  | cons c rest ih =>
      simp only [List.mem_cons, not_or] at unslashed
      obtain ⟨piece, more, cut, grown⟩ :=
        pieces_cons (Ne.symm unslashed.1) (rest ++ slash :: text)
      rw [ih unslashed.2] at cut
      cases cut
      exact grown

theorem pieces_replicate (count : Nat) (text : List α) :
    pieces (List.replicate count slash ++ text) = List.replicate count [] ++ pieces text := by
  induction count with
  | zero => rfl
  | succ count ih => simp only [List.replicate_succ, List.cons_append, pieces_slash, ih]

/-- Names that were joined are cut again. -/
theorem pieces_joinNames {names : List (List α)} (filled : names ≠ [])
    (unslashed : ∀ name ∈ names, slash ∉ name) : pieces (joinNames names) = names := by
  induction names with
  | nil => exact absurd rfl filled
  | cons name rest ih =>
      have first := unslashed name (by simp)
      cases rest with
      | nil => exact pieces_of_unslashed first
      | cons second more =>
          have later := ih nofun (fun name member => unslashed name (by simp [member]))
          have joined := pieces_append_slash first (joinNames (second :: more))
          rw [later] at joined
          exact joined

/-- A piece has no slash, and only characters of the text. -/
theorem mem_pieces {text piece : List α} (member : piece ∈ pieces text) :
    slash ∉ piece ∧ ∀ c ∈ piece, c ∈ text := by
  induction text generalizing piece with
  | nil =>
      rw [pieces, List.mem_singleton] at member
      rw [member]
      exact ⟨nofun, nofun⟩
  | cons c rest ih =>
      by_cases same : c = slash
      · rw [same, pieces_slash, List.mem_cons] at member
        rcases member with rfl | later
        · exact ⟨nofun, nofun⟩
        · exact ⟨(ih later).1, fun d inside => List.mem_cons_of_mem c ((ih later).2 d inside)⟩
      · obtain ⟨first, more, cut, grown⟩ := pieces_cons same rest
        rw [grown, List.mem_cons] at member
        rcases member with rfl | later
        · have known : slash ∉ first ∧ ∀ c ∈ first, c ∈ rest := ih (by simp [cut])
          constructor
          · simp only [List.mem_cons, not_or]
            exact ⟨Ne.symm same, known.1⟩
          · intro d inside
            rcases List.mem_cons.mp inside with rfl | inside
            · simp
            · simp [known.2 d inside]
        · have known : slash ∉ piece ∧ ∀ c ∈ piece, c ∈ rest := ih (by simp [cut, later])
          exact ⟨known.1, fun d inside => List.mem_cons_of_mem c (known.2 d inside)⟩

/-! ### Reading what was written -/

/-- Joined names do not begin with a slash. -/
theorem takeWhile_joinNames {names : List (List α)} (kept : ∀ name ∈ names, IsKept name) :
    (joinNames names).takeWhile (· = slash) = [] := by
  cases names with
  | nil => rfl
  | cons name rest =>
      have first := kept name (by simp)
      obtain ⟨c, more, spelled⟩ := List.exists_cons_of_ne_nil first.filled
      have other : c ≠ slash := by
        intro same
        apply first.unslashed
        simp [spelled, same]
      rw [spelled]
      cases rest <;> simp [joinNames, other]

theorem leadingSlashes_replicate {count : Nat} (few : count = 0 ∨ count = 1 ∨ count = 2)
    {names : List (List α)} (kept : ∀ name ∈ names, IsKept name) :
    leadingSlashes (List.replicate count slash ++ joinNames names) = count := by
  have front : (List.replicate count slash ++ joinNames names).takeWhile (· = slash) =
      List.replicate count slash := by
    rw [List.takeWhile_append_of_pos (by simp), takeWhile_joinNames kept, List.append_nil]
  rw [leadingSlashes, front, List.length_replicate]
  rcases few with rfl | rfl | rfl <;> rfl

/-- The present directory is no name that is read. -/
theorem parse_here (dotted : slash ∉ (here : List α)) : parse (here : List α) = ⟨0, []⟩ := by
  have other : (Text.Spelling.ofChar '.' : α) ≠ slash := fun same => dotted (same ▸ .head _)
  have none : leadingSlashes (here : List α) = 0 := by
    rw [leadingSlashes, here, List.takeWhile_cons_of_neg (by simp [other])]
    rfl
  rw [parse, none, pieces_of_unslashed dotted]
  simp

/-- A path in normal form can be read back. -/
theorem parse_render (dotted : slash ∉ (here : List α)) {path : Path α}
    (normal : path.IsNormal) : parse path.render = path := by
  obtain ⟨slashes, names⟩ := path
  by_cases present : slashes = 0 ∧ names = []
  · obtain ⟨rfl, rfl⟩ := present
    exact parse_here dotted
  · have written : leadingSlashes (List.replicate slashes slash ++ joinNames names) = slashes :=
      leadingSlashes_replicate normal.slashes normal.kept
    have kept : names.filter (fun name => name ≠ [] && name ≠ here) = names := by
      rw [List.filter_eq_self]
      intro name member
      simp [(normal.kept name member).filled, (normal.kept name member).notHere]
    have cut : (pieces (List.replicate slashes slash ++ joinNames names)).filter
        (fun name => name ≠ [] && name ≠ here) = names := by
      rw [pieces_replicate, List.filter_append, List.filter_replicate_of_neg (by simp)]
      cases names with
      | nil => rfl
      | cons name rest =>
          rw [pieces_joinNames (by simp) fun other member => (normal.kept other member).unslashed]
          exact kept
    rw [render, if_neg present, parse, written, cut]

theorem parse_slashes (text : List α) :
    (parse text).slashes = 0 ∨ (parse text).slashes = 1 ∨ (parse text).slashes = 2 := by
  simp only [parse, leadingSlashes]
  split <;> simp

/-- Whatever is read is in normal form. -/
theorem parse_isNormal (text : List α) : (parse text).IsNormal := by
  refine ⟨parse_slashes text, fun name member => ?_⟩
  rw [parse, List.mem_filter] at member
  obtain ⟨piece, remains⟩ := member
  simp only [Bool.and_eq_true, decide_eq_true_eq] at remains
  exact ⟨remains.1, (mem_pieces piece).1, remains.2⟩

/-! ### The characters of a path -/

/-- The characters of a name come from the text that it was read from. -/
theorem mem_of_mem_parse {text name : List α} (inside : name ∈ (parse text).names) {c : α}
    (member : c ∈ name) : c ∈ text := by
  rw [parse, List.mem_filter] at inside
  exact (mem_pieces inside.1).2 c member

/-- Nothing is written for a text that was read but slashes, the present directory, and
characters of the text. -/
theorem mem_render_parse {text : List α} {c : α} (member : c ∈ (parse text).render) :
    c = slash ∨ c ∈ (here : List α) ∨ c ∈ text := by
  rw [render] at member
  split at member
  · exact .inr (.inl member)
  · rcases List.mem_append.mp member with front | joined
    · exact .inl (List.eq_of_mem_replicate front)
    · rcases mem_joinNames joined with slashed | ⟨name, inside, within⟩
      · exact .inl slashed
      · exact .inr (.inr (mem_of_mem_parse inside within))

end Normal

/-- An absolute path is in normal form. -/
theorem IsAbsolute.normal {path : Path Char} (absolute : path.IsAbsolute) : path.IsNormal where
  slashes := .inr absolute.rooted
  kept name member :=
    { filled := (absolute.named name member).filled
      unslashed := (absolute.named name member).unslashed
      notHere := (absolute.named name member).notHere }

/-- An absolute path is written with its slashes and its names. -/
theorem IsAbsolute.render_eq {path : Path Char} (absolute : path.IsAbsolute) :
    path.render = List.replicate path.slashes '/' ++ joinNames path.names := by
  have rooted : path.slashes ≠ 0 := by
    rcases absolute.rooted with one | two <;> omega
  rw [render, if_neg]
  · rfl
  · simp [rooted]

theorem IsAbsolute.parse_render {path : Path Char} (absolute : path.IsAbsolute) :
    parse path.render = path :=
  Path.parse_render (by decide) absolute.normal

/-! ### Absolute forms -/

/-- What was read of a text: no name is empty or the present directory. -/
theorem mem_parse_names {text name : List Char} (member : name ∈ (parse text).names) :
    name ≠ [] ∧ '/' ∉ name ∧ name ≠ ['.'] ∧ ∀ c ∈ name, c ∈ text :=
  have kept := (parse_isNormal text).kept name member
  ⟨kept.filled, kept.unslashed, kept.notHere, fun _ inside => mem_of_mem_parse member inside⟩

/-- A text that begins with a slash has one or two of them in front. -/
theorem parse_rooted {text : List Char} (slashed : text.head? = some '/') :
    (parse text).slashes = 1 ∨ (parse text).slashes = 2 := by
  cases text with
  | nil => cases slashed
  | cons c rest =>
      cases slashed
      simp only [parse, leadingSlashes]
      split
      · rename_i none
        simp [slash, Text.Spelling.ofChar] at none
      · exact Or.inr rfl
      · exact Or.inl rfl

/-- Going up only leaves names out, and leaves no name of the directory above. -/
theorem mem_ascend {names : List (List Char)} {name : List Char}
    (member : name ∈ ascend names) : name ∈ names ∧ name ≠ ['.', '.'] := by
  have kept : ∀ above : List (List Char),
      name ∈ names.foldl (fun above name => if name = up then above.drop 1 else name :: above)
        above → name ∈ above ∨ (name ∈ names ∧ name ≠ ['.', '.']) := by
    clear member
    induction names with
    | nil => exact fun above inside => Or.inl inside
    | cons first rest ih =>
        intro above inside
        rw [List.foldl_cons] at inside
        rcases ih _ inside with earlier | later
        · split at earlier
          · exact Or.inl (List.mem_of_mem_drop earlier)
          · rename_i other
            rcases List.mem_cons.mp earlier with rfl | earlier
            · exact Or.inr ⟨by simp, other⟩
            · exact Or.inl earlier
        · exact Or.inr ⟨by simp [later.1], later.2⟩
  rcases kept [] (List.mem_reverse.mp member) with none | found
  · cases none
  · exact found

/-- Where nothing goes up, going up changes nothing. -/
theorem ascend_of_named {names : List (List Char)}
    (named : ∀ name ∈ names, IsEntryName name) : ascend names = names := by
  have kept : ∀ above : List (List Char),
      names.foldl (fun above name => if name = up then above.drop 1 else name :: above) above =
        names.reverse ++ above := by
    induction names with
    | nil => exact fun above => rfl
    | cons first rest ih =>
        intro above
        have other : first ≠ up := (named first (by simp)).notUp
        rw [List.foldl_cons, if_neg other, ih fun name member => named name (by simp [member])]
        simp
  rw [ascend, kept]
  simp

/-- The absolute form of a path is absolute, if it is seen from a directory that is. -/
theorem absolute_isAbsolute {base : List Char} (rooted : base.head? = some '/')
    (text : List Char) :
    ((parse base).absolute (parse text)).IsAbsolute := by
  have named : ∀ names : List (List Char),
      (∀ name ∈ names, name ∈ (parse base).names ∨ name ∈ (parse text).names) →
        ∀ name ∈ ascend names, IsEntryName name := by
    intro names known name member
    obtain ⟨inside, notUp⟩ := mem_ascend member
    rcases known name inside with ofBase | ofText
    · obtain ⟨filled, unslashed, notHere, -⟩ := mem_parse_names ofBase
      exact ⟨filled, unslashed, notHere, notUp⟩
    · obtain ⟨filled, unslashed, notHere, -⟩ := mem_parse_names ofText
      exact ⟨filled, unslashed, notHere, notUp⟩
  unfold absolute
  split
  · refine ⟨parse_rooted rooted, named _ ?_⟩
    intro name member
    exact List.mem_append.mp member
  · rename_i slashed
    refine ⟨(parse_slashes text).resolve_left slashed, named _ ?_⟩
    exact fun name member => Or.inr member

/-- An absolute path is the same from everywhere. -/
theorem IsAbsolute.absolute_eq {path : Path Char} (absolute : path.IsAbsolute)
    (base : Path Char) : base.absolute path = path := by
  have rooted : path.slashes ≠ 0 := by
    rcases absolute.rooted with one | two <;> omega
  rw [Path.absolute, if_neg rooted, ascend_of_named absolute.named]

/-! ### The entries of a directory -/

/-- The path of an entry of a directory. -/
def entry (path : Path Char) (name : List Char) : Path Char :=
  { path with names := path.names ++ [name] }

theorem IsAbsolute.entry {path : Path Char} (absolute : path.IsAbsolute) {name : List Char}
    (proper : IsEntryName name) : (path.entry name).IsAbsolute := by
  refine ⟨absolute.rooted, ?_⟩
  intro other member
  rcases List.mem_append.mp member with inside | last
  · exact absolute.named other inside
  · rw [List.mem_singleton.mp last]
    exact proper

/-- An absolute path is written with slashes in front. -/
theorem IsAbsolute.render_head {path : Path Char} (absolute : path.IsAbsolute) :
    path.render.head? = some '/' := by
  rw [absolute.render_eq]
  rcases absolute.rooted with one | two
  · rw [one]
    rfl
  · rw [two]
    rfl

theorem joinNames_snoc {names : List (List Char)} (filled : names ≠ []) (name : List Char) :
    joinNames (names ++ [name]) = joinNames names ++ '/' :: name := by
  induction names with
  | nil => exact absurd rfl filled
  | cons first rest ih =>
      cases rest with
      | nil => rfl
      | cons second more =>
          have later := ih (by simp)
          simp only [List.cons_append] at later ⊢
          simp only [joinNames, later, List.append_assoc, List.cons_append]

/-- Joined names do not end in a slash. -/
theorem joinNames_last {names : List (List Char)} (filled : names ≠ [])
    (named : ∀ name ∈ names, IsEntryName name) :
    ∃ front c, joinNames names = front ++ [c] ∧ c ≠ '/' := by
  have proper := named (names.getLast filled) (List.getLast_mem filled)
  have cut := List.dropLast_concat_getLast filled
  have spelled := List.dropLast_concat_getLast proper.filled
  generalize names.getLast filled = last at proper cut spelled
  have other : last.getLast proper.filled ≠ '/' := by
    intro same
    exact proper.unslashed (same ▸ List.getLast_mem proper.filled)
  by_cases alone : names.dropLast = []
  · refine ⟨last.dropLast, last.getLast proper.filled, ?_, other⟩
    rw [spelled, ← cut, alone]
    rfl
  · refine ⟨joinNames names.dropLast ++ '/' :: last.dropLast, last.getLast proper.filled, ?_,
      other⟩
    rw [List.append_assoc, List.cons_append, spelled, ← joinNames_snoc alone, cut]

/-- The path of an entry is the directory, a slash unless the directory ends in one, and
the name. -/
theorem IsAbsolute.render_entry {path : Path Char} (absolute : path.IsAbsolute)
    {name : List Char} (proper : IsEntryName name) :
    (path.names = [] ∧ path.render = List.replicate path.slashes '/' ∧
        (path.entry name).render = path.render ++ name) ∨
      (∃ front c, path.render = front ++ [c] ∧ c ≠ '/' ∧
        (path.entry name).render = path.render ++ '/' :: name) := by
  rw [absolute.render_eq, (absolute.entry proper).render_eq]
  by_cases none : path.names = []
  · left
    simp [Path.entry, none, joinNames]
  · right
    obtain ⟨front, c, spelled, other⟩ := joinNames_last none absolute.named
    refine ⟨List.replicate path.slashes '/' ++ front, c, ?_, other, ?_⟩
    · rw [spelled, List.append_assoc]
    · simp only [Path.entry, joinNames_snoc none, List.append_assoc]

/-- The directory of a path is what stands before its last slash. -/
theorem dropWhile_reverse_append {front name : List Char} (unslashed : '/' ∉ name) :
    (front ++ '/' :: name).reverse.dropWhile (· ≠ '/') = '/' :: front.reverse := by
  have others : ∀ c ∈ name.reverse, decide (c ≠ '/') = true := by
    intro c member
    simp only [decide_eq_true_eq]
    rintro rfl
    exact unslashed (List.mem_reverse.mp member)
  rw [List.reverse_append, List.reverse_cons, List.append_assoc,
    List.dropWhile_append_of_pos others]
  rfl

end ExtcapHost.Path

namespace ExtcapHost

/-- The text is an absolute path in normal form. -/
def IsAbsolutePath (text : String) : Prop :=
  ∃ path : Path Char, path.IsAbsolute ∧ text = String.ofList path.render

/-- The name of an entry, which can be used in a path as it is. -/
def IsFileName (name : String) : Prop :=
  Path.IsEntryName name.toList

instance (name : String) : Decidable (IsFileName name) :=
  decidable_of_iff
    (name.toList ≠ [] ∧ '/' ∉ name.toList ∧ name.toList ≠ ['.'] ∧ name.toList ≠ ['.', '.'])
    ⟨fun ⟨filled, unslashed, notHere, notUp⟩ => ⟨filled, unslashed, notHere, notUp⟩,
      fun proper => ⟨proper.filled, proper.unslashed, proper.notHere, proper.notUp⟩⟩

theorem absolutePath_isAbsolute {base : String} (rooted : base.toList.head? = some '/')
    (text : String) : IsAbsolutePath (absolutePath base text) :=
  ⟨_, Path.absolute_isAbsolute rooted text.toList, rfl⟩

/-- The characters of an absolute path. -/
theorem mem_absolutePath {base text : String} (rooted : base.toList.head? = some '/') {c : Char}
    (member : c ∈ (absolutePath base text).toList) :
    c = '/' ∨ c ∈ base.toList ∨ c ∈ text.toList := by
  have absolute := Path.absolute_isAbsolute rooted text.toList
  rw [absolutePath, String.toList_ofList, absolute.render_eq] at member
  rcases List.mem_append.mp member with slashed | inside
  · exact Or.inl (List.eq_of_mem_replicate slashed)
  · rcases Path.mem_joinNames inside with slashed | ⟨name, among, inside⟩
    · exact Or.inl slashed
    · have known : name ∈ (Path.parse base.toList).names ∨ name ∈ (Path.parse text.toList).names := by
        unfold Path.absolute at among
        split at among
        · exact List.mem_append.mp (Path.mem_ascend among).1
        · exact Or.inr (Path.mem_ascend among).1
      rcases known with ofBase | ofText
      · exact Or.inr (Or.inl ((Path.mem_parse_names ofBase).2.2.2 c inside))
      · exact Or.inr (Or.inr ((Path.mem_parse_names ofText).2.2.2 c inside))

theorem joinPath_of_unslashed {base name : String} (unslashed : '/' ∉ name.toList) :
    joinPath base name =
      if base.toList.getLast? = some '/' then base ++ name else base ++ "/" ++ name := by
  rw [joinPath, if_neg]
  intro slashed
  exact unslashed (List.mem_of_mem_head? slashed)

namespace IsAbsolutePath

variable {directory text name : String}

theorem head (absolute : IsAbsolutePath text) : text.toList.head? = some '/' := by
  obtain ⟨path, absolute, rfl⟩ := absolute
  rw [String.toList_ofList]
  exact absolute.render_head

/-- The normal form of an absolute path is the path. -/
theorem normalize (absolute : IsAbsolutePath text) : normalizePath text = text := by
  obtain ⟨path, absolute, rfl⟩ := absolute
  rw [normalizePath, normalizeLetters, String.toList_ofList, absolute.parse_render]

/-- The absolute form of an absolute path is the path. -/
theorem absolute (absolute : IsAbsolutePath text) (base : String) :
    absolutePath base text = text := by
  obtain ⟨path, absolute, rfl⟩ := absolute
  rw [absolutePath, String.toList_ofList, absolute.parse_render, absolute.absolute_eq]

/-- The path of an entry has the directory in front, and is absolute as well. -/
theorem join_render {path : Path Char} (absolute : path.IsAbsolute) (proper : IsFileName name) :
    joinPath (String.ofList path.render) name = String.ofList (path.entry name.toList).render := by
  apply String.toList_inj.mp
  rw [joinPath_of_unslashed proper.unslashed, String.toList_ofList, String.toList_ofList]
  rcases absolute.render_entry proper with ⟨-, slashes, written⟩ | ⟨front, c, ends, other, written⟩
  · have ends : path.render.getLast? = some '/' := by
      rw [slashes]
      rcases absolute.rooted with one | two
      · rw [one]
        rfl
      · rw [two]
        rfl
    rw [if_pos ends, String.toList_append, String.toList_ofList, written]
  · have plain : path.render.getLast? ≠ some '/' := by
      rw [ends]
      simp [other]
    rw [if_neg plain, String.toList_append, String.toList_append, String.toList_ofList, written]
    simp

theorem join (absolute : IsAbsolutePath directory) (proper : IsFileName name) :
    IsAbsolutePath (joinPath directory name) := by
  obtain ⟨path, absolute, rfl⟩ := absolute
  exact ⟨path.entry name.toList, absolute.entry proper, join_render absolute proper⟩

/-- The directory of an entry is the one that it was found in. -/
theorem directory_join (absolute : IsAbsolutePath directory) (proper : IsFileName name) :
    directoryPath (joinPath directory name) = directory := by
  obtain ⟨path, absolute, rfl⟩ := absolute
  rw [join_render absolute proper, directoryPath, String.toList_ofList]
  rcases absolute.render_entry proper with ⟨-, slashes, written⟩ | ⟨front, c, ends, other, written⟩
  · obtain ⟨count, counted⟩ : ∃ count, path.slashes = count + 1 := by
      rcases absolute.rooted with one | two
      · exact ⟨0, one⟩
      · exact ⟨1, two⟩
    have cut : path.render = List.replicate count '/' ++ ['/'] := by
      rw [slashes, counted, List.replicate_succ']
    have before : (path.entry name.toList).render =
        List.replicate count '/' ++ '/' :: name.toList := by
      rw [written, cut, List.append_assoc, List.singleton_append]
    simp only [before, Path.dropWhile_reverse_append proper.unslashed]
    rw [if_pos (by simp), cut, List.reverse_replicate, ← List.replicate_succ,
      ← List.replicate_succ']
  · simp only [written, Path.dropWhile_reverse_append proper.unslashed]
    have plain : path.render.reverse = c :: front.reverse := by
      rw [ends]
      simp
    rw [if_neg (by simp [plain, other]), plain]
    simp [other, ends]

/-- Two entries of a directory have two paths. -/
theorem join_inj {other : String} (proper : IsFileName name) (properToo : IsFileName other)
    (same : joinPath directory name = joinPath directory other) : name = other := by
  rw [joinPath_of_unslashed proper.unslashed, joinPath_of_unslashed properToo.unslashed] at same
  split at same
  · exact (String.append_right_inj directory).mp same
  · exact (String.append_right_inj (directory ++ "/")).mp same

end IsAbsolutePath

/-- The characters of the path of an entry. -/
theorem mem_joinPath {base name : String} {c : Char} (member : c ∈ (joinPath base name).toList) :
    c = '/' ∨ c ∈ base.toList ∨ c ∈ name.toList := by
  unfold joinPath at member
  split at member
  · exact Or.inr (Or.inr member)
  · split at member
    · rw [String.toList_append, List.mem_append] at member
      exact Or.inr member
    · simp only [String.toList_append, List.mem_append] at member
      rcases member with (ofBase | slashed) | ofName
      · exact Or.inr (Or.inl ofBase)
      · exact Or.inl (List.mem_singleton.mp slashed)
      · exact Or.inr (Or.inr ofName)

end ExtcapHost
