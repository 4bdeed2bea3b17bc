/-
Module: ExtcapHost.Proofs.Session.Listing
Purpose: The entries of a session are a list that only grows at its end.
Main exports:
  EntryKeeper, EntryKeeper.run, RevisionTable, Session.keeper, RevisionTable.keeper, Listed,
  ListedRun, EntryKeeper.AsList, session_behaves_as_list
-/
import ExtcapHost.Proofs.Ordered
import ExtcapHost.Proofs.Session.Invariant

/-!
A session keeps its entries in a list.  They may as well be kept in a table under their
indexes, with a counter for the next index, and be put in order whenever they are read.
What both of them ought to answer is said by itself, on lists of entries, and it leaves no
choice.  So both are measured against it one request at a time, and agree in every run.
-/

namespace ExtcapHost

/-! ### Entries under indexes -/

/-- What keeps the entries of a capture under indexes. -/
structure EntryKeeper (α : Type) where
  add : α → Entry → Nat × α
  addNative : α → String → Nat × α
  addBacked : α → String → String → CaptureArguments → Except Fault Nat × α
  get : α → Int → Except Fault Entry
  replace : α → Int → Entry → Except Fault Unit × α
  items : α → List (Int × Entry)
  revisions : α → List Entry
  backedItems : α → List (Int × Entry)
  size : α → Nat

/-- What a keeper can be asked for. -/
inductive EntryRequest where
  | add (entry : Entry)
  | addNative (name : String)
  | addBacked (name helper : String) (arguments : CaptureArguments)
  | get (index : Int)
  | replace (index : Int) (entry : Entry)
  | items
  | revisions
  | backedItems
  | size
deriving DecidableEq, Repr

/-- What a keeper answers. -/
inductive EntryAnswer where
  | index (number : Nat)
  | entry (entry : Entry)
  | done
  | failed (fault : Fault)
  | rows (items : List (Int × Entry))
  | revisions (entries : List Entry)
  | count (number : Nat)
deriving DecidableEq, Repr

/-- The answer by the outcome of a request that can fail. -/
def EntryAnswer.of {α : Type} (answer : α → EntryAnswer) : Except Fault α → EntryAnswer
  | .ok value => answer value
  | .error fault => .failed fault

namespace EntryKeeper

variable {α : Type} (keeper : EntryKeeper α)

/-- Answer one request. -/
def serve (state : α) : EntryRequest → EntryAnswer × α
  | .add entry => (.index (keeper.add state entry).1, (keeper.add state entry).2)
  | .addNative name => (.index (keeper.addNative state name).1, (keeper.addNative state name).2)
  | .addBacked name helper arguments =>
      (.of .index (keeper.addBacked state name helper arguments).1,
        (keeper.addBacked state name helper arguments).2)
  | .get index => (.of .entry (keeper.get state index), state)
  | .replace index entry =>
      (.of (fun _ => .done) (keeper.replace state index entry).1,
        (keeper.replace state index entry).2)
  | .items => (.rows (keeper.items state), state)
  | .revisions => (.revisions (keeper.revisions state), state)
  | .backedItems => (.rows (keeper.backedItems state), state)
  | .size => (.count (keeper.size state), state)

/-- Answer requests one after the other. -/
def run (state : α) : List EntryRequest → List (EntryRequest × EntryAnswer) × α
  | [] => ([], state)
  | request :: later =>
      ((request, (keeper.serve state request).1) :: (run (keeper.serve state request).2 later).1,
        (run (keeper.serve state request).2 later).2)

end EntryKeeper

/-- A session keeps its entries in order. -/
def Session.keeper : EntryKeeper Session where
  add := Session.add
  addNative := Session.addNative
  addBacked := Session.addBacked
  get := Session.get
  replace := Session.replace
  items session := session.items.map fun item => ((item.1 : Int), item.2)
  revisions := Session.entries
  backedItems session := session.backedItems.map fun item => ((item.1 : Int), item.2)
  size := Session.size

/-- The current revisions under their indexes, in the order in which the indexes were first
written, and the index that is given next. -/
structure RevisionTable where
  rows : List (Int × Entry)
  next : Nat

namespace RevisionTable

/-- Nothing was added yet. -/
def empty : RevisionTable := ⟨[], 0⟩

/-- Write an entry under the next index, and count on. -/
def add (table : RevisionTable) (entry : Entry) : Nat × RevisionTable :=
  (table.next, ⟨Ordered.put (table.next : Int) entry table.rows, table.next + 1⟩)

/-- An entry that cannot be made is not added, and its index is not given away. -/
def addBacked (table : RevisionTable) (name helper : String) (arguments : CaptureArguments) :
    Except Fault Nat × RevisionTable :=
  match Entry.backed name helper arguments with
  | .ok entry => ((.ok (table.add entry).1 : Except Fault Nat), (table.add entry).2)
  | .error fault => (.error fault, table)

/-- The revision under an index. -/
def get (table : RevisionTable) (index : Int) : Except Fault Entry :=
  match Ordered.get? index table.rows with
  | some entry => .ok entry
  | none => .error (.missing index)

/-- Write another revision under an index that is taken. -/
def replace (table : RevisionTable) (index : Int) (entry : Entry) :
    Except Fault Unit × RevisionTable :=
  match Ordered.get? index table.rows with
  | some _ => (.ok (), { table with rows := Ordered.put index entry table.rows })
  | none => (.error (.missing index), table)

/-- All rows in the order of their indexes. -/
def items (table : RevisionTable) : List (Int × Entry) :=
  table.rows.mergeSort fun one two => decide (one.1 ≤ two.1)

/-- A table keeps entries under their indexes. -/
def keeper : EntryKeeper RevisionTable where
  add := add
  addNative table name := table.add (.native name)
  addBacked := addBacked
  get := get
  replace := replace
  items := items
  revisions table := table.items.map fun item => item.2
  backedItems table := table.items.filter fun item => item.2.isBacked
  size table := table.rows.length

end RevisionTable

/-! ### What a list of entries answers -/

/-- Entries with their positions, counted from a start. -/
def rowsFrom (start : Nat) (entries : List Entry) : List (Int × Entry) :=
  (entries.zipIdx start).map fun item => ((item.2 : Int), item.1)

/-- What a request for a list of entries is answered, and which list it leaves. -/
inductive Listed : List Entry → EntryRequest → EntryAnswer → List Entry → Prop where
  /-- A new entry goes to the end, and its index is the length before. -/
  | add {entries : List Entry} (entry : Entry) :
      Listed entries (.add entry) (.index entries.length) (entries ++ [entry])
  | addNative {entries : List Entry} (name : String) :
      Listed entries (.addNative name) (.index entries.length) (entries ++ [.native name])
  | addBacked {entries : List Entry} (name helper : String) (arguments : CaptureArguments)
      (path : helper ≠ "") :
      Listed entries (.addBacked name helper arguments) (.index entries.length)
        (entries ++ [.configured name helper arguments path])
  /-- Without a path of a helper nothing is added. -/
  | refused {entries : List Entry} (name : String) (arguments : CaptureArguments) :
      Listed entries (.addBacked name "" arguments)
        (.failed (.value ("Helper-backed interface " ++ name ++ " needs a helper path"))) entries
  | get {entries : List Entry} {position : Nat} {entry : Entry}
      (present : entries[position]? = some entry) :
      Listed entries (.get position) (.entry entry) entries
  /-- Another revision changes its own position and no other. -/
  | replace {entries : List Entry} {position : Nat} (inside : position < entries.length)
      (entry : Entry) :
      Listed entries (.replace position entry) .done (entries.set position entry)
  /-- No other index holds anything, and nothing can be written there. -/
  | getOutside {entries : List Entry} {index : Int}
      (outside : index < 0 ∨ entries.length ≤ index) :
      Listed entries (.get index) (.failed (.missing index)) entries
  | replaceOutside {entries : List Entry} {index : Int}
      (outside : index < 0 ∨ entries.length ≤ index) (entry : Entry) :
      Listed entries (.replace index entry) (.failed (.missing index)) entries
  /-- Entries are read in order. -/
  | items {entries : List Entry} : Listed entries .items (.rows (rowsFrom 0 entries)) entries
  | revisions {entries : List Entry} : Listed entries .revisions (.revisions entries) entries
  | backedItems {entries : List Entry} :
      Listed entries .backedItems
        (.rows ((rowsFrom 0 entries).filter fun item => item.2.isBacked)) entries
  | size {entries : List Entry} : Listed entries .size (.count entries.length) entries

/-- Requests to a list of entries with their answers, one after the other. -/
inductive ListedRun : List Entry → List (EntryRequest × EntryAnswer) → List Entry → Prop where
  | done (entries : List Entry) : ListedRun entries [] entries
  | step {entries middle last : List Entry} {request : EntryRequest} {answer : EntryAnswer}
      {later : List (EntryRequest × EntryAnswer)} (head : Listed entries request answer middle)
      (tail : ListedRun middle later last) :
      ListedRun entries ((request, answer) :: later) last

/-- Whatever is asked for, a list of entries leaves no choice. -/
theorem Listed.unique {entries one two : List Entry} {request : EntryRequest}
    {answer other : EntryAnswer}
    (listed : Listed entries request answer one) (listedToo : Listed entries request other two) :
    answer = other ∧ one = two := by
  have inside : ∀ {position : Nat} {entry : Entry}, entries[position]? = some entry →
      position < entries.length := fun present => (List.getElem?_eq_some_iff.mp present).1
  cases listed with
  | addBacked name helper arguments path =>
      cases listedToo with
      | addBacked => exact ⟨rfl, rfl⟩
      | refused => exact absurd rfl path
  | refused name arguments =>
      cases listedToo with
      | addBacked _ _ _ path => exact absurd rfl path
      | refused => exact ⟨rfl, rfl⟩
  | get present =>
      generalize asked : EntryRequest.get _ = request at listedToo
      cases listedToo with
      | get presentToo =>
          obtain rfl := Int.ofNat.inj (EntryRequest.get.inj asked)
          rw [present] at presentToo
          exact ⟨congrArg EntryAnswer.entry (Option.some.inj presentToo), rfl⟩
      | getOutside outside =>
          cases asked
          have within := inside present
          omega
      | _ => cases asked
  | replace within entry =>
      generalize asked : EntryRequest.replace _ _ = request at listedToo
      cases listedToo with
      | replace _ _ =>
          obtain ⟨same, rfl⟩ := EntryRequest.replace.inj asked
          obtain rfl := Int.ofNat.inj same
          exact ⟨rfl, rfl⟩
      | replaceOutside outside =>
          cases asked
          omega
      | _ => cases asked
  | getOutside outside =>
      cases listedToo with
      | get present =>
          have within := inside present
          omega
      | getOutside => exact ⟨rfl, rfl⟩
  | replaceOutside outside entry =>
      cases listedToo with
      | replace within => omega
      | replaceOutside => exact ⟨rfl, rfl⟩
  | _ =>
      cases listedToo
      exact ⟨rfl, rfl⟩

/-! ### Keepers measured against lists -/

/-- A state that holds a list of entries answers every request as the list does, and holds
the list that this leaves. -/
def EntryKeeper.AsList {α : Type} (keeper : EntryKeeper α) (holds : α → List Entry → Prop) :
    Prop :=
  ∀ state entries request, holds state entries →
    ∃ later, Listed entries request (keeper.serve state request).1 later ∧
      holds (keeper.serve state request).2 later

namespace EntryKeeper.AsList

variable {α β : Type} {keeper : EntryKeeper α} {holds : α → List Entry → Prop}

/-- What holds for one request holds for a run. -/
theorem run (asList : keeper.AsList holds) (requests : List EntryRequest) {state : α}
    {entries : List Entry} (held : holds state entries) :
    ∃ last, ListedRun entries (keeper.run state requests).1 last ∧
      holds (keeper.run state requests).2 last := by
  induction requests generalizing state entries with
  | nil => exact ⟨entries, .done entries, held⟩
  | cons request later ih =>
      obtain ⟨middle, head, heldNext⟩ := asList state entries request held
      obtain ⟨last, tail, heldLast⟩ := ih heldNext
      exact ⟨last, .step head tail, heldLast⟩

/-- Two keepers that hold the same list answer alike, and hold the same list afterwards. -/
theorem agree (asList : keeper.AsList holds) {other : EntryKeeper β}
    {holdsToo : β → List Entry → Prop} (otherAsList : other.AsList holdsToo)
    (requests : List EntryRequest) {state : α} {stateToo : β} {entries : List Entry}
    (held : holds state entries) (heldToo : holdsToo stateToo entries) :
    (keeper.run state requests).1 = (other.run stateToo requests).1 ∧
      ∃ last, holds (keeper.run state requests).2 last ∧
        holdsToo (other.run stateToo requests).2 last := by
  induction requests generalizing state stateToo entries with
  | nil => exact ⟨rfl, entries, held, heldToo⟩
  | cons request later ih =>
      obtain ⟨middle, head, heldNext⟩ := asList state entries request held
      obtain ⟨another, headToo, heldNextToo⟩ := otherAsList stateToo entries request heldToo
      obtain ⟨answer, rfl⟩ := head.unique headToo
      obtain ⟨answers, last⟩ := ih heldNext heldNextToo
      exact ⟨by simp only [EntryKeeper.run, answer, answers], last⟩

end EntryKeeper.AsList

/-! ### The session -/

theorem rowsFrom_cons (start : Nat) (entry : Entry) (rest : List Entry) :
    rowsFrom start (entry :: rest) = ((start : Int), entry) :: rowsFrom (start + 1) rest := rfl

/-- The index of an entry leads to a position, or there is none. -/
theorem position_or_outside (entries : List Entry) (index : Int) :
    (∃ position : Nat, index = position ∧ position < entries.length) ∨
      (index < 0 ∨ entries.length ≤ index) := by
  by_cases inside : 0 ≤ index ∧ index < entries.length
  · exact .inl ⟨index.toNat, by omega, by omega⟩
  · exact .inr (by omega)

namespace Session

variable {session : Session}

theorem position?_inside {position : Nat} (inside : position < session.entries.length) :
    session.position? position = some position := by
  simp [position?, size, inside]

theorem position?_outside {index : Int} (outside : index < 0 ∨ session.entries.length ≤ index) :
    session.position? index = none := by
  rw [position?, if_neg]
  rw [size]
  omega

theorem get_inside {position : Nat} (inside : position < session.entries.length) :
    session.get position = .ok session.entries[position] := by
  rw [get, position?_inside inside, Option.bind_some, List.getElem?_eq_getElem inside]

theorem get_outside {index : Int} (outside : index < 0 ∨ session.entries.length ≤ index) :
    session.get index = .error (.missing index) := by
  simp [get, position?_outside outside]

theorem replace_inside {position : Nat} (inside : position < session.entries.length)
    (entry : Entry) :
    session.replace position entry = (.ok (), ⟨session.entries.set position entry⟩) := by
  simp [replace, position?_inside inside]

theorem replace_outside {index : Int} (outside : index < 0 ∨ session.entries.length ≤ index)
    (entry : Entry) : session.replace index entry = (.error (.missing index), session) := by
  simp [replace, position?_outside outside]

theorem rows_items (session : Session) :
    (session.items.map fun item => ((item.1 : Int), item.2)) = rowsFrom 0 session.entries := by
  rw [items, List.map_map]
  rfl

theorem rows_backedItems (session : Session) :
    (session.backedItems.map fun item => ((item.1 : Int), item.2)) =
      (rowsFrom 0 session.entries).filter fun item => item.2.isBacked := by
  rw [backedItems, ← rows_items, List.filter_map]
  rfl

/-- A session answers as the list of its entries. -/
theorem keeper_asList : keeper.AsList fun session entries => session.entries = entries := by
  rintro session entries request rfl
  cases request with
  | add entry => exact ⟨_, .add entry, rfl⟩
  | addNative name => exact ⟨_, .addNative name, rfl⟩
  | addBacked name helper arguments =>
      by_cases path : helper = ""
      · rw [path]
        simp only [EntryKeeper.serve, keeper, addBacked, Entry.backed_of_empty]
        exact ⟨_, .refused name arguments, rfl⟩
      · simp only [EntryKeeper.serve, keeper, addBacked, Entry.backed_of_path path]
        exact ⟨_, .addBacked name helper arguments path, rfl⟩
  | get index =>
      rcases position_or_outside session.entries index with ⟨position, rfl, inside⟩ | outside
      · simp only [EntryKeeper.serve, keeper, get_inside inside]
        exact ⟨_, .get (List.getElem?_eq_getElem inside), rfl⟩
      · simp only [EntryKeeper.serve, keeper, get_outside outside]
        exact ⟨_, .getOutside outside, rfl⟩
  | replace index entry =>
      rcases position_or_outside session.entries index with ⟨position, rfl, inside⟩ | outside
      · simp only [EntryKeeper.serve, keeper, replace_inside inside]
        exact ⟨_, .replace inside entry, rfl⟩
      · simp only [EntryKeeper.serve, keeper, replace_outside outside]
        exact ⟨_, .replaceOutside outside entry, rfl⟩
  | items =>
      simp only [EntryKeeper.serve, keeper, rows_items]
      exact ⟨_, .items, rfl⟩
  | revisions => exact ⟨_, .revisions, rfl⟩
  | backedItems =>
      simp only [EntryKeeper.serve, keeper, rows_backedItems]
      exact ⟨_, .backedItems, rfl⟩
  | size => exact ⟨_, .size, rfl⟩

end Session

/-! ### The table -/

/-- What stands under an index in a list of rows. -/
theorem get?_rowsFrom (start position : Nat) (entries : List Entry) :
    Ordered.get? ((start + position : Nat) : Int) (rowsFrom start entries) =
      entries[position]? := by
  induction entries generalizing start position with
  | nil => rfl
  | cons entry rest ih =>
      rw [rowsFrom_cons, Ordered.get?]
      cases position with
      | zero => simp
      | succ position =>
          have later := ih (start + 1) position
          rw [show start + 1 + position = start + (position + 1) by omega] at later
          rw [if_neg (by omega), later, List.getElem?_cons_succ]

theorem get?_rowsFrom_outside {start : Nat} {entries : List Entry} {index : Int}
    (outside : index < start ∨ start + entries.length ≤ index) :
    Ordered.get? index (rowsFrom start entries) = none := by
  induction entries generalizing start with
  | nil => rfl
  | cons entry rest ih =>
      rw [List.length_cons] at outside
      rw [rowsFrom_cons, Ordered.get?, if_neg (by omega)]
      exact ih (by omega)

/-- An entry that is written behind the last row is appended. -/
theorem put_rowsFrom_end (start : Nat) (entries : List Entry) (entry : Entry) :
    Ordered.put ((start + entries.length : Nat) : Int) entry (rowsFrom start entries) =
      rowsFrom start (entries ++ [entry]) := by
  induction entries generalizing start with
  | nil => rfl
  | cons first rest ih =>
      have later := ih (start + 1)
      rw [show start + 1 + rest.length = start + (first :: rest).length by
        rw [List.length_cons]; omega] at later
      rw [rowsFrom_cons, Ordered.put, if_neg (by rw [List.length_cons]; omega), later,
        List.cons_append, rowsFrom_cons]

/-- An entry that is written over a row keeps its place. -/
theorem put_rowsFrom_inside {start position : Nat} {entries : List Entry}
    (inside : position < entries.length) (entry : Entry) :
    Ordered.put ((start + position : Nat) : Int) entry (rowsFrom start entries) =
      rowsFrom start (entries.set position entry) := by
  induction entries generalizing start position with
  | nil => cases inside
  | cons first rest ih =>
      rw [rowsFrom_cons, Ordered.put]
      cases position with
      | zero => simp [rowsFrom_cons]
      | succ position =>
          have later := @ih (start + 1) position (Nat.lt_of_succ_lt_succ inside)
          rw [show start + 1 + position = start + (position + 1) by omega] at later
          rw [if_neg (by omega), later, List.set_cons_succ, rowsFrom_cons]

/-- Rows stand in the order of their indexes. -/
theorem rowsFrom_sorted (start : Nat) (entries : List Entry) :
    (rowsFrom start entries).Pairwise fun one two => one.1 ≤ two.1 := by
  induction entries generalizing start with
  | nil => exact .nil
  | cons entry rest ih =>
      refine .cons ?_ (ih (start + 1))
      intro row member
      obtain ⟨item, inside, rfl⟩ := List.mem_map.mp member
      have later := List.le_snd_of_mem_zipIdx inside
      exact Int.ofNat_le.mpr (by omega)

theorem rowsFrom_revisions (start : Nat) (entries : List Entry) :
    ((rowsFrom start entries).map fun item => item.2) = entries := by
  rw [rowsFrom, List.map_map]
  exact List.zipIdx_map_fst start entries

namespace RevisionTable

/-- The table holds the entries under their positions, and counts them. -/
structure Holds (table : RevisionTable) (entries : List Entry) : Prop where
  rows : table.rows = rowsFrom 0 entries
  next : table.next = entries.length

namespace Holds

variable {table : RevisionTable} {entries : List Entry}

theorem add (held : table.Holds entries) (entry : Entry) :
    (table.add entry).1 = entries.length ∧ (table.add entry).2.Holds (entries ++ [entry]) := by
  refine ⟨held.next, ?_, ?_⟩
  · have written := put_rowsFrom_end 0 entries entry
    rw [Nat.zero_add] at written
    rw [RevisionTable.add, held.rows, held.next, written]
  · rw [RevisionTable.add, held.next, List.length_append, List.length_singleton]

theorem get_inside (held : table.Holds entries) {position : Nat}
    (inside : position < entries.length) : table.get position = .ok entries[position] := by
  have found := get?_rowsFrom 0 position entries
  rw [Nat.zero_add, List.getElem?_eq_getElem inside] at found
  simp only [RevisionTable.get, held.rows, found]

theorem get_outside (held : table.Holds entries) {index : Int}
    (outside : index < 0 ∨ entries.length ≤ index) :
    table.get index = .error (.missing index) := by
  have absent := @get?_rowsFrom_outside 0 entries index (by simpa using outside)
  simp only [RevisionTable.get, held.rows, absent]

theorem replace_inside (held : table.Holds entries) {position : Nat}
    (inside : position < entries.length) (entry : Entry) :
    ∃ later : RevisionTable, table.replace position entry = (.ok (), later) ∧
      later.Holds (entries.set position entry) := by
  have found := get?_rowsFrom 0 position entries
  have written := @put_rowsFrom_inside 0 position entries inside entry
  rw [Nat.zero_add, List.getElem?_eq_getElem inside] at found
  rw [Nat.zero_add] at written
  refine ⟨⟨rowsFrom 0 (entries.set position entry), table.next⟩, ?_, rfl, ?_⟩
  · simp only [RevisionTable.replace, held.rows, found, written]
  · rw [List.length_set, held.next]

theorem replace_outside (held : table.Holds entries) {index : Int}
    (outside : index < 0 ∨ entries.length ≤ index) (entry : Entry) :
    table.replace index entry = (.error (.missing index), table) := by
  have absent := @get?_rowsFrom_outside 0 entries index (by simpa using outside)
  simp only [RevisionTable.replace, held.rows, absent]

/-- Putting the rows in order changes nothing. -/
theorem items_eq (held : table.Holds entries) : table.items = rowsFrom 0 entries := by
  rw [items, held.rows]
  refine List.mergeSort_of_pairwise ((rowsFrom_sorted 0 entries).imp fun ordered => ?_)
  exact decide_eq_true ordered

end Holds

/-- A table answers as the list of the entries that it holds. -/
theorem keeper_asList : keeper.AsList Holds := by
  intro table entries request held
  cases request with
  | add entry =>
      obtain ⟨index, later⟩ := held.add entry
      simp only [EntryKeeper.serve, keeper, index]
      exact ⟨_, .add entry, later⟩
  | addNative name =>
      obtain ⟨index, later⟩ := held.add (.native name)
      simp only [EntryKeeper.serve, keeper, index]
      exact ⟨_, .addNative name, later⟩
  | addBacked name helper arguments =>
      by_cases path : helper = ""
      · rw [path]
        simp only [EntryKeeper.serve, keeper, addBacked, Entry.backed_of_empty]
        exact ⟨_, .refused name arguments, held⟩
      · obtain ⟨index, later⟩ := held.add (.configured name helper arguments path)
        simp only [EntryKeeper.serve, keeper, addBacked, Entry.backed_of_path path, index]
        exact ⟨_, .addBacked name helper arguments path, later⟩
  | get index =>
      rcases position_or_outside entries index with ⟨position, rfl, inside⟩ | outside
      · simp only [EntryKeeper.serve, keeper, held.get_inside inside]
        exact ⟨_, .get (List.getElem?_eq_getElem inside), held⟩
      · simp only [EntryKeeper.serve, keeper, held.get_outside outside]
        exact ⟨_, .getOutside outside, held⟩
  | replace index entry =>
      rcases position_or_outside entries index with ⟨position, rfl, inside⟩ | outside
      · obtain ⟨later, replaced, heldLater⟩ := held.replace_inside inside entry
        simp only [EntryKeeper.serve, keeper, replaced]
        exact ⟨_, .replace inside entry, heldLater⟩
      · simp only [EntryKeeper.serve, keeper, held.replace_outside outside]
        exact ⟨_, .replaceOutside outside entry, held⟩
  | items =>
      simp only [EntryKeeper.serve, keeper, held.items_eq]
      exact ⟨_, .items, held⟩
  | revisions =>
      simp only [EntryKeeper.serve, keeper, held.items_eq, rowsFrom_revisions]
      exact ⟨_, .revisions, held⟩
  | backedItems =>
      simp only [EntryKeeper.serve, keeper, held.items_eq]
      exact ⟨_, .backedItems, held⟩
  | size =>
      have counted : table.rows.length = entries.length := by
        rw [held.rows, rowsFrom, List.length_map, List.length_zipIdx]
      simp only [EntryKeeper.serve, keeper, counted]
      exact ⟨_, .size, held⟩

end RevisionTable

/-- Whatever a new session is asked for, it answers as a list of entries that only grows at
its end, and is left with the entries of that list.  A table with a counter, put in order
whenever it is read, gives the same answers and holds the same entries. -/
theorem session_behaves_as_list (requests : List EntryRequest) :
    let listed := Session.keeper.run .empty requests
    let tabled := RevisionTable.keeper.run .empty requests
    ListedRun [] listed.1 listed.2.entries ∧ tabled.1 = listed.1 ∧
      tabled.2.Holds listed.2.entries := by
  intro listed tabled
  have blank : RevisionTable.empty.Holds [] := ⟨rfl, rfl⟩
  have fresh : Session.empty.entries = [] := rfl
  obtain ⟨entries, run, rfl⟩ := Session.keeper_asList.run requests fresh
  obtain ⟨same, last, rfl, held⟩ := Session.keeper_asList.agree RevisionTable.keeper_asList
    requests fresh blank
  exact ⟨run, same.symm, held⟩

end ExtcapHost
