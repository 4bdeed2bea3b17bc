/-
Module: ExtcapHost.Proofs.Session.Invariant
Purpose: What every turn keeps is kept by every run.
Main exports:
  Entry.IsNew, Entry.configured, Entry.of_backed, Kept, Kept.step, Kept.run, Kept.run_opened
-/
import ExtcapHost.Proofs.Session.Turn

/-!
An invariant of the sessions that share a crew is a statement on all their entries and
on the books.  It is kept by a run if no turn of an entry breaks it and no new entry
does; the moves themselves need not be looked at again.
-/

namespace ExtcapHost

variable {σ : Type}

/-- An entry to which nothing has happened yet. -/
structure Entry.IsNew (entry : Entry) : Prop where
  stage : entry.stage = .configured
  channel : entry.channel = none
  handle : entry.handle = none
  pid : entry.pid = noProcess

theorem Entry.native_isNew (name : String) : (Entry.native name).IsNew :=
  ⟨rfl, rfl, rfl, rfl⟩

/-- The entry of a helper's interface, before its start. -/
def Entry.configured (name helper : String) (arguments : CaptureArguments)
    (path : helper ≠ "") : Entry where
  toRevision := { Revision.named name with source := .helper, helper := some helper, arguments }
  helperNamed _ := path

/-- With the path of a helper there is a new entry. -/
theorem Entry.backed_of_path {helper : String} (path : helper ≠ "") (name : String)
    (arguments : CaptureArguments) :
    Entry.backed name helper arguments = .ok (.configured name helper arguments path) := by
  unfold backed ofRevision
  split
  · rfl
  · rename_i unnamed
    exact absurd (fun _ => path) unnamed

/-- Without one there is none. -/
theorem Entry.backed_of_empty (name : String) (arguments : CaptureArguments) :
    Entry.backed name "" arguments =
      .error (.value ("Helper-backed interface " ++ name ++ " needs a helper path")) := by
  unfold backed ofRevision
  split
  · rename_i named
    exact absurd rfl (named rfl)
  · rfl

/-- A new entry of a helper is that of its interface, before its start. -/
theorem Entry.of_backed {name helper : String} {arguments : CaptureArguments} {entry : Entry}
    (made : Entry.backed name helper arguments = .ok entry) :
    ∃ path, entry = .configured name helper arguments path := by
  by_cases path : helper = ""
  · rw [path, backed_of_empty] at made
    cases made
  · rw [backed_of_path path] at made
    exact ⟨path, (Except.ok.inj made).symm⟩

theorem Entry.backed_isNew {name helper : String} {arguments : CaptureArguments}
    {entry : Entry} (made : Entry.backed name helper arguments = .ok entry) : entry.IsNew := by
  obtain ⟨path, rfl⟩ := of_backed made
  exact ⟨rfl, rfl, rfl, rfl⟩

/-- Neither a turn of an entry nor a new entry breaks a statement on the entries and the
books. -/
structure Kept (kept : List Entry → Books → Prop) : Prop where
  turn : ∀ (before after : List Entry) {entry next : Entry} {books last : Books},
    Turn entry books next last → kept (before ++ entry :: after) books →
      kept (before ++ next :: after) last
  added : ∀ (before after : List Entry) {entry : Entry} {books : Books}, entry.IsNew →
    kept (before ++ after) books → kept (before ++ entry :: after) books

namespace Kept

variable {kept : List Entry → Books → Prop}

/-- A round within a longer list of entries. -/
theorem round (keeps : Kept kept) (before after : List Entry) {first second : List Entry}
    {books last : Books} (round : Round first books second last)
    (start : kept (before ++ first ++ after) books) :
    kept (before ++ second ++ after) last := by
  refine Round.keeps (fun entries books => kept (before ++ entries ++ after) books) ?_
    round start
  intro front back entry next books last turn holds
  have moved := keeps.turn (before ++ front) (back ++ after) turn
    (by simpa [List.append_assoc] using holds)
  simpa [List.append_assoc] using moved

/-- A session within a hall that has one more entry. -/
theorem add (keeps : Kept kept) (before after : List Entry) {session : Session}
    {entry : Entry} {books : Books} (new : entry.IsNew)
    (start : kept (before ++ session.entries ++ after) books) :
    kept (before ++ (session.add entry).2.entries ++ after) books := by
  have added := keeps.added (before ++ session.entries) after new start
  simpa [Session.add, List.append_assoc] using added

theorem addBacked (keeps : Kept kept) (before after : List Entry) (session : Session)
    (name helper : String) (arguments : CaptureArguments) {books : Books}
    (start : kept (before ++ session.entries ++ after) books) :
    kept (before ++ (session.addBacked name helper arguments).2.entries ++ after) books := by
  unfold Session.addBacked
  split
  · rename_i entry made
    exact keeps.add before after (Entry.backed_isNew made) start
  · exact start

/-- Serving one session keeps what turns and new entries keep. -/
theorem serve (keeps : Kept kept) (crew : Crew σ) (before after : List Entry)
    (session : Session) (desk : Desk (Recorded σ)) (move : Move σ)
    (start : kept (before ++ session.entries ++ after) desk.books) :
    kept (before ++ (crew.recorded.serve session desk move.recorded).1.entries ++ after)
      (crew.recorded.serve session desk move.recorded).2.books := by
  cases move with
  | addNative name => exact keeps.add before after (Entry.native_isNew name) start
  | addBacked name helper arguments =>
      exact keeps.addBacked before after session name helper arguments start
  | addInterface registry name arguments =>
      simp only [Crew.serve, Move.recorded, addInterface]
      split
      · exact start
      · exact keeps.addBacked before after session name _ arguments start
  | start => exact keeps.round before after (crew.start_round session desk) start
  | cleanup => exact keeps.round before after (crew.cleanup_round session desk) start
  | running =>
      simp only [Crew.serve, Move.recorded, Crew.running]
      rw [crew.runningEach_books session.entries desk]
      exact start
  | elapse change => exact start

/-- One move keeps what turns and new entries keep. -/
theorem step (keeps : Kept kept) (crew : Crew σ) (hall : Hall (Recorded σ)) (number : Nat)
    (move : Move σ) (start : kept hall.entries hall.desk.books) :
    kept (hall.step crew.recorded number move.recorded).entries
      (hall.step crew.recorded number move.recorded).desk.books := by
  unfold Hall.step
  cases found : hall.sessions[number]? with
  | none => exact start
  | some session =>
      obtain ⟨inside, there⟩ := List.getElem?_eq_some_iff.mp found
      let served := crew.recorded.serve session hall.desk move.recorded
      obtain ⟨front, back, cut, -, changed⟩ :
          ∃ front back, hall.sessions = front ++ hall.sessions[number] :: back ∧
            front.length = number ∧ hall.sessions.set number served.1 = front ++ served.1 :: back :=
        List.exists_of_set inside
      rw [there] at cut
      have kept := keeps.serve crew (front.flatMap fun session => session.entries)
        (back.flatMap fun session => session.entries) session hall.desk move (by
          rw [Hall.entries, cut] at start
          simpa [List.append_assoc] using start)
      simpa [Hall.entries, changed, served, List.append_assoc] using kept

/-- A run keeps what turns and new entries keep. -/
theorem run (keeps : Kept kept) (crew : Crew σ) (moves : List (Nat × Move σ))
    (hall : Hall (Recorded σ)) (start : kept hall.entries hall.desk.books) :
    kept (hall.run crew.recorded (Hall.recordedMoves moves)).entries
      (hall.run crew.recorded (Hall.recordedMoves moves)).desk.books := by
  induction moves generalizing hall with
  | nil => exact start
  | cons move rest ih => exact ih _ (keeps.step crew hall move.1 move.2 start)

/-- What holds without any entries and deeds holds after every run that begins so. -/
theorem run_opened (keeps : Kept kept) (crew : Crew σ) (count : Nat) (launcher : Launcher)
    (journal : List Note) (machine : σ) (moves : List (Nat × Move σ))
    (start : kept [] ⟨[], launcher.tracked⟩) :
    let hall := (Hall.opened count ⟨launcher, journal, .blank machine⟩).run crew.recorded
      (Hall.recordedMoves moves)
    kept hall.entries hall.desk.books := by
  refine keeps.run crew moves (Hall.opened count ⟨launcher, journal, .blank machine⟩) ?_
  rw [Hall.opened_entries]
  exact start

end Kept

end ExtcapHost
