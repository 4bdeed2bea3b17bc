/-
Module: ExtcapHost.Proofs.Session.Ownership
Purpose: Of which process an entry records the number, and whom a number concerns later.
Main exports:
  Entry.Owns, Hall.ownProcess?, Hall.run_owns, Crew.ServesOwn,
  Hall.numbers_concern_their_holders, Dispenser
-/
import ExtcapHost.Proofs.Session.History
import ExtcapHost.Proofs.Session.Tabled

/-!
An entry records a number and nothing else of the process that was started for it.  The
number stays recorded when that process ends, and once a poll has made the end known the
system may give the number to another process, also to one of another session.  From then
on the requests for the entry concern the other process.
-/

namespace ExtcapHost

variable {σ : Type}

/-! ### The own process of an entry -/

/-- The process that a call has started. -/
def Call.startedChild? : Call → Option Child
  | .started _ child => some child
  | _ => none

/-- The first process that was started in these deeds. -/
def startedIn? (deeds : List Call) : Option Child :=
  deeds.findSome? Call.startedChild?

/-- What an entry records of its own process, if there is one. -/
structure Entry.Owns (entry : Entry) (own : Option Child) : Prop where
  /-- Its number stays recorded until the entry is stopped. -/
  pid : entry.pid = if entry.stage = .stopped then noProcess else own.elim noProcess Child.pid
  /-- An entry that waits has none yet. -/
  waiting : entry.waiting = true → own = none
  /-- An interface of the system never has one. -/
  native : entry.isBacked = false → own = none

/-- By the deeds that are done for an entry it is given its own process, if it had none. -/
def Entry.Inherits (entry : Entry) (deeds : List Call) (next : Entry) : Prop :=
  ∀ own, entry.Owns own → next.Owns (own.or (startedIn? deeds))

namespace Entry

variable {entry next : Entry} {own : Option Child} {deeds : List Call}

theorem IsNew.owns (new : entry.IsNew) : entry.Owns none where
  pid := by simp [new.pid, new.stage]
  waiting _ := rfl
  native _ := rfl

namespace Owns

theorem pid_of_waiting (owns : entry.Owns own) (waiting : entry.waiting = true) :
    entry.pid = noProcess := by
  rw [owns.pid, owns.waiting waiting]
  split <;> rfl

/-- A number that is recorded is the number of the own process. -/
theorem own_of_recorded (owns : entry.Owns own) (recorded : entry.hasProcess = true) :
    ∃ child, own = some child ∧ entry.pid = child.pid ∧ entry.stage ≠ .stopped := by
  have present : entry.pid ≠ noProcess := by simpa [hasProcess] using recorded
  have told := owns.pid
  by_cases stopped : entry.stage = .stopped
  · rw [if_pos stopped] at told
    exact absurd told present
  · rw [if_neg stopped] at told
    cases own with
    | none => exact absurd told present
    | some child => exact ⟨child, rfl, told, stopped⟩

theorem promoted (owns : entry.Owns own) : entry.promoted.Owns own := by
  unfold Entry.promoted
  split
  · rename_i started
    obtain ⟨backed, stage, -⟩ := started
    have told := owns.pid
    rw [stage] at told
    exact ⟨told, fun waiting => by simp [Entry.waiting] at waiting,
      fun native => owns.native native⟩
  · exact owns

theorem closed (owns : entry.Owns own) (kind : next.source = entry.source)
    (pid : next.pid = noProcess) (stopped : next.stage = .stopped) : next.Owns own where
  pid := by rw [pid, if_pos stopped]
  waiting waiting := by
    rw [(waiting_iff.mp waiting).2] at stopped
    cases stopped
  native native := owns.native (by rw [← native, isBacked, isBacked, kind])

end Owns

/-- Where nothing is started, the own process is the one it was before. -/
theorem Inherits.ofIdle (idle : startedIn? deeds = none)
    (keeps : ∀ own, entry.Owns own → next.Owns own) : entry.Inherits deeds next := by
  intro own owns
  rw [idle, Option.or_none]
  exact keeps own owns

end Entry

/-- An entry is given its own process in the turn that starts it. -/
theorem Turn.inherits {entry next : Entry} {books last : Books}
    (turn : Turn entry books next last) :
    ∃ deeds, last.deeds = books.deeds ++ deeds ∧ entry.Inherits deeds next := by
  cases turn with
  | refused waiting fault => exact ⟨_, rfl, .ofIdle rfl fun own owns => owns⟩
  | stranded waiting channel fault =>
      refine ⟨_, rfl, .ofIdle rfl fun own owns => ?_⟩
      rw [owns.waiting waiting]
      exact ⟨owns.pid_of_waiting waiting, fun _ => rfl, fun _ => rfl⟩
  | unmanned waiting channel fault =>
      refine ⟨_, rfl, .ofIdle rfl fun own owns => ?_⟩
      rw [owns.waiting waiting]
      exact ⟨rfl, fun _ => rfl, fun _ => rfl⟩
  | manned waiting channel child =>
      refine ⟨_, rfl, fun own owns => ?_⟩
      have backed := (Entry.waiting_iff.mp waiting).1
      rw [owns.waiting waiting]
      refine ⟨rfl, fun still => ?_, fun native => ?_⟩
      · cases (Entry.waiting_iff.mp still).2
      · cases backed.symm.trans native
  | promoted => exact ⟨[], (List.append_nil _).symm, .ofIdle rfl fun own owns => owns.promoted⟩
  | stuck backed has fault => exact ⟨_, rfl, .ofIdle rfl fun own owns => owns⟩
  | retained backed has fault =>
      exact ⟨_, Books.letGo_deeds _ _, .ofIdle rfl fun own owns => owns.closed rfl rfl rfl⟩
  | cleared backed has =>
      exact ⟨_, Books.letGo_deeds _ _, .ofIdle rfl fun own owns => owns.closed rfl rfl rfl⟩
  | bare backed hasNot =>
      exact ⟨[], by rw [Books.letGo_deeds, List.append_nil],
        .ofIdle rfl fun own owns => owns.closed rfl rfl rfl⟩

theorem Entry.Inherits.traced : Traced Entry.Inherits where
  refl entry := .ofIdle rfl fun own owns => owns
  trans one two own owns := by
    have later := two _ (one own owns)
    rw [startedIn?, List.findSome?_append, ← Option.or_assoc]
    exact later
  turn := Turn.inherits

/-! ### Entries that are added -/

namespace Session

variable {session : Session} {index : Nat} {entry : Entry}

/-- What is added to a session is a new entry at its end. -/
theorem isNew_of_added {added : Entry} (new : added.IsNew)
    (absent : session.entries[index]? = none)
    (present : (session.add added).2.entries[index]? = some entry) : entry.IsNew := by
  rw [Session.add, List.getElem?_append_right (List.getElem?_eq_none_iff.mp absent)] at present
  rw [List.mem_singleton.mp (List.mem_of_getElem? present)]
  exact new

theorem isNew_of_addedBacked {name helper : String} {arguments : CaptureArguments}
    (absent : session.entries[index]? = none)
    (present : (session.addBacked name helper arguments).2.entries[index]? = some entry) :
    entry.IsNew := by
  unfold Session.addBacked at present
  split at present
  · rename_i added made
    exact isNew_of_added (Entry.backed_isNew made) absent present
  · rw [absent] at present
    cases present

end Session

namespace Crew

variable (crew : Crew σ) {index : Nat} {entry : Entry}

/-- An entry that was not there before a move has just been added. -/
theorem serve_new {session : Session} (absent : session.entries[index]? = none)
    (desk : Desk (Recorded σ)) (move : Move σ)
    (present : (crew.recorded.serve session desk move.recorded).1.entries[index]? = some entry) :
    entry.IsNew := by
  have short := List.getElem?_eq_none_iff.mp absent
  have inside := (List.getElem?_eq_some_iff.mp present).1
  cases move with
  | addNative name => exact Session.isNew_of_added (Entry.native_isNew name) absent present
  | addBacked name helper arguments => exact Session.isNew_of_addedBacked absent present
  | addInterface registry name arguments =>
      simp only [serve, Move.recorded, addInterface] at present
      split at present
      · rw [absent] at present
        cases present
      · exact Session.isNew_of_addedBacked absent present
  | start =>
      have same := (crew.start_round session desk).length_eq
      simp only [serve, Move.recorded] at inside
      omega
  | cleanup =>
      have same := (crew.cleanup_round session desk).length_eq
      simp only [serve, Move.recorded] at inside
      omega
  | running => exact absurd short (Nat.not_le.mpr inside)
  | elapse change => exact absurd short (Nat.not_le.mpr inside)

end Crew

namespace Hall

variable (crew : Crew σ) {number index : Nat} {hall : Hall (Recorded σ)} {entry : Entry}

/-- The process that was started for an entry in a run. -/
def ownProcess? (number index : Nat) (hall : Hall (Recorded σ)) (moves : List (Nat × Move σ)) :
    Option Child :=
  startedIn? (deedsFor crew number index hall moves)

theorem step_new (absent : hall.place? number index = none) (move : Nat × Move σ)
    (present : (hall.step crew.recorded move.1 move.2.recorded).place? number index = some entry) :
    entry.IsNew := by
  obtain ⟨session, found, place⟩ := Option.bind_eq_some_iff.mp present
  unfold Hall.step at found
  cases served : hall.sessions[move.1]? with
  | none =>
      simp only [served] at found
      simp only [place?, found, Option.bind_some, place] at absent
      cases absent
  | some other =>
      simp only [served] at found
      by_cases same : move.1 = number
      · subst same
        have inside := (List.getElem?_eq_some_iff.mp served).1
        rw [List.getElem?_set_self inside] at found
        rw [place?, served, Option.bind_some] at absent
        cases found
        exact crew.serve_new absent hall.desk move.2 place
      · rw [List.getElem?_set_ne same] at found
        simp only [place?, found, Option.bind_some, place] at absent
        cases absent

/-- What is recorded in an entry after a run is of the process that the run has started
for it. -/
theorem run_owns (absent : hall.place? number index = none) (moves : List (Nat × Move σ))
    (present : (hall.run crew.recorded (recordedMoves moves)).place? number index = some entry) :
    entry.Owns (ownProcess? crew number index hall moves) := by
  -- The induction is on the moves up to the one that adds the entry; from there on the
  -- run carries what the new entry owns, which is nothing.
  induction moves generalizing hall with
  | nil => cases absent.symm.trans present
  | cons move rest ih =>
      rw [ownProcess?, deedsFor, deedsOf_of_absent crew absent, List.nil_append]
      cases added : (hall.step crew.recorded move.1 move.2.recorded).place? number index with
      | none => exact ih added present
      | some first =>
          obtain ⟨next, place, inherits⟩ := Entry.Inherits.traced.run crew added rest
          obtain rfl : next = entry := Option.some.inj (place.symm.trans present)
          exact inherits none (step_new crew absent move added).owns

end Hall

/-! ### Whom the requests concern -/

/-- Requests for a session concern the processes that were started for its entries. -/
structure Crew.ServesOwn (crew : Crew σ) (table : ProcessTable) (own : Nat → Option Child)
    (session : Session) (desk : Desk σ) : Prop where
  /-- Running are the entries whose own process was not let go of and runs. -/
  running : (crew.running session desk).1 =
    (session.items.filter fun item =>
      item.2.stage ≠ .stopped && (own item.1).any table.runs).map Prod.snd
  /-- Only own processes are dropped. -/
  dropped : ∀ row ∈ crew.dropped session desk, ∃ index < session.size, own index = some row.2

namespace Session

/-- The entries of a session record what they do of their own processes. -/
def Owns (session : Session) (own : Nat → Option Child) : Prop :=
  ∀ (index : Nat) (entry : Entry), session.entries[index]? = some entry → entry.Owns (own index)

/-- Each number that is recorded in a session is held by the own process of its entry: it
was not given to another one since. -/
def HoldsNumbers (session : Session) (table : ProcessTable) (own : Nat → Option Child) : Prop :=
  ∀ (index : Nat) (entry : Entry), session.entries[index]? = some entry →
    entry.hasProcess = true → table.holder? entry.pid = own index

variable {session : Session}

theorem mem_items {item : Nat × Entry} (member : item ∈ session.items) :
    session.entries[item.1]? = some item.2 := by
  obtain ⟨pair, among, rfl⟩ := List.mem_map.mp member
  exact List.mem_zipIdx_iff_getElem?.mp among

/-- Entries may be chosen with the help of their indexes. -/
theorem filter_entries {chosen : Entry → Bool} {indexed : Nat × Entry → Bool}
    (agree : ∀ item ∈ session.items, chosen item.2 = indexed item) :
    session.entries.filter chosen = (session.items.filter indexed).map Prod.snd := by
  have entries : session.items.map Prod.snd = session.entries := by
    rw [items, List.map_map]
    exact List.zipIdx_map_fst 0 session.entries
  calc session.entries.filter chosen
      = (session.items.map Prod.snd).filter chosen := by rw [entries]
    _ = (session.items.filter (chosen ∘ Prod.snd)).map Prod.snd := List.filter_map
    _ = (session.items.filter indexed).map Prod.snd :=
      congrArg _ (List.filter_congr agree)

end Session

/-- Where the number of an entry is held by its own process, the holder runs when the own
process does. -/
theorem Entry.Owns.holderRuns_eq {entry : Entry} {own : Option Child} {table : ProcessTable}
    (owns : entry.Owns own) (holder : entry.hasProcess = true → table.holder? entry.pid = own)
    (numbered : ∀ child, table.runs child = true → child.pid ≠ noProcess) :
    (entry.isBacked && entry.hasProcess && table.holderRuns entry.pid) =
      (entry.stage ≠ .stopped && own.any table.runs) := by
  cases recorded : entry.hasProcess with
  | true =>
      obtain ⟨child, known, -, stage⟩ := owns.own_of_recorded recorded
      have backed : entry.isBacked = true := by
        by_contra native
        cases known.symm.trans (owns.native (Bool.not_eq_true _ ▸ native))
      rw [ProcessTable.holderRuns, holder recorded]
      simp [backed, stage]
  | false =>
      rw [Bool.and_false, Bool.false_and]
      symm
      by_contra claimed
      obtain ⟨stage, runs⟩ := (Bool.and_eq_true ..).mp (Bool.not_eq_false _ ▸ claimed)
      obtain ⟨child, known, running⟩ := (Option.any_eq_true ..).mp runs
      have pid := owns.pid
      rw [if_neg (of_decide_eq_true stage), known] at pid
      apply numbered child running
      rw [← show entry.pid = child.pid from pid]
      simpa [hasProcess] using recorded

/-- While no number of a session was given to another process, its own processes are the
holders. -/
theorem Crew.ServesHolders.servesOwn {crew : Crew σ} {table : ProcessTable} {session : Session}
    {desk : Desk σ} {own : Nat → Option Child} (serves : crew.ServesHolders table session desk)
    (owns : session.Owns own) (holders : session.HoldsNumbers table own)
    (numbered : ∀ child, table.runs child = true → child.pid ≠ noProcess) :
    crew.ServesOwn table own session desk where
  running := by
    rw [serves.running]
    apply Session.filter_entries
    intro item member
    have place := Session.mem_items member
    exact (owns item.1 item.2 place).holderRuns_eq (holders item.1 item.2 place) numbered
  dropped row gone := by
    obtain ⟨holder, entry, member, -, recorded, pid⟩ := serves.dropped row gone
    obtain ⟨index, place⟩ := List.mem_iff_getElem?.mp member
    refine ⟨index, (List.getElem?_eq_some_iff.mp place).1, ?_⟩
    rw [← holders index entry place recorded, pid, holder]

namespace Hall

/-- After every run of sessions that share a launcher, on a system that gives a number again
once the end of its process is known:

* an entry records the number of its own process until it is stopped, and the own process
  holds that number as long as its end is not known;
* what is asked for a session concerns the processes that hold the recorded numbers then;
* these are the own processes of the session if no recorded number was given to another
  process since. -/
theorem numbers_concern_their_holders {crew : Crew σ} {table : σ → ProcessTable}
    (tabled : crew.Tabled table) {machine : σ} (fresh : table machine = .planned [])
    (count : Nat) (journal : List Note) {moves : List (Nat × Move σ)}
    (natural : ∀ move ∈ moves, move.2.Natural table) :
    let opening := opened count ⟨.empty, journal, .blank machine⟩
    let hall := opening.run crew.recorded (recordedMoves moves)
    let desk := hall.plain.desk
    let now := table desk.machine
    hall.plain = (opened count ⟨.empty, journal, machine⟩).run crew moves ∧
      ∀ number session, hall.sessions[number]? = some session →
        let own index := ownProcess? crew number index opening moves
        session.Owns own ∧
          (∀ index child, own index = some child → now.owed child = true →
            now.holder? child.pid = some child) ∧
          crew.ServesHolders now session desk ∧
          (session.HoldsNumbers now own → crew.ServesOwn now own session desk) := by
  intro opening hall desk now
  have plain : hall.plain = (opened count ⟨.empty, journal, machine⟩).run crew moves :=
    (run_recorded crew opening moves).symm
  have guarded : desk.Meets (AllGuarded table) := by
    have kept := tabled.guarded_run fresh count journal natural
    rw [← plain] at kept
    exact kept
  refine ⟨plain, ?_⟩
  intro number session found own
  have owns : session.Owns own := by
    intro index entry place
    have absent : opening.place? number index = none := by
      simp only [opening, place?, opened, List.getElem?_replicate]
      split <;> rfl
    apply run_owns crew absent moves
    rw [place?, found]
    exact place
  have serves := tabled.servesHolders session guarded
  refine ⟨owns, ?_, serves, fun holders => ?_⟩
  · intro index child _ owed
    exact guarded.exclusive.holder?_of_owed owed
  · exact serves.servesOwn owns holders fun child runs => guarded.ne_noProcess_of_runs runs

end Hall

/-! ### A system that gives a number again

What is asked for a session concerns its own processes no longer when a recorded number
was given again.  One process that has ended and one that is started later are enough.
-/

/-- A system that gives out numbers and channels in a given order. -/
structure Dispenser where
  table : ProcessTable
  numbers : List Int
  channels : List String

namespace Dispenser

/-- What is true of a process number. -/
def look (dispenser : Dispenser) (pid : Int) : ProcessStatus :=
  match dispenser.table.holder? pid with
  | none => .absent
  | some child =>
      if dispenser.table.runs child then .alive
      else if dispenser.table.owed child then .zombie
      else .absent

/-- A number is given out if it is free. -/
def spawn (command : List String) (dispenser : Dispenser) : Except Fault Child × Dispenser :=
  match dispenser.numbers with
  | [] => (.error (.system ProcessTable.refusal), dispenser)
  | pid :: numbers =>
      let (started, table) := (ProcessTable.kernel (.ok pid)).spawn command dispenser.table
      (started, { dispenser with table, numbers })

def poll (child : Child) (dispenser : Dispenser) : Option Int × Dispenser :=
  let (status, table) := dispenser.table.poll child
  (status, { dispenser with table })

def create (dispenser : Dispenser) : Except Fault Channel × Dispenser :=
  match dispenser.channels with
  | [] => (.error (.host (.channel "no channel left" none)), dispenser)
  | path :: channels => (.ok ⟨path, none⟩, { dispenser with channels })

def crew : Crew Dispenser where
  maker := { create, release := fun _ _ dispenser => (.ok (), dispenser) }
  kernel := { spawn, poll, status := look }

theorem tabled : crew.Tabled table where
  create dispenser := by
    refine ⟨[], ?_⟩
    simp only [crew, create]
    split <;> rfl
  remove _ _ _ := ⟨[], rfl⟩
  spawn command dispenser := by
    simp only [crew, spawn]
    split
    · exact ⟨.error (.system ProcessTable.refusal), rfl⟩
    · rename_i pid numbers given
      exact ⟨.ok pid, rfl⟩
  poll child dispenser := rfl
  truthful pid dispenser := by
    simp only [Launcher.livesBySystem, crew, look, ProcessTable.holderRuns]
    cases holder : dispenser.table.holder? pid with
    | none => rfl
    | some child =>
        cases runs : dispenser.table.runs child with
        | true => simp [runs]
        | false => cases owed : dispenser.table.owed child <;> simp [runs, owed]

/-- The number of the first process is the only one. -/
def oneNumber : Dispenser := ⟨.planned [], [1001, 1001], ["/tmp/first", "/tmp/second"]⟩

/-- The process of the first session has ended, and that is seen, before the second session
is started. -/
def endedAndReplaced : List (Nat × Move Dispenser) :=
  [(0, .addBacked "wlan0" "/extcap/a" []), (1, .addBacked "wlan1" "/extcap/b" []), (0, .start),
    (0, .elapse fun dispenser => { dispenser with table := dispenser.table.ended 0 0 }),
    (0, .running), (1, .start)]

theorem endedAndReplaced_natural : ∀ move ∈ endedAndReplaced, move.2.Natural table := by
  simp only [endedAndReplaced, List.forall_mem_cons, Move.Natural, true_and, List.not_mem_nil,
    false_implies, implies_true, and_true]
  exact fun dispenser => ⟨[(0, 0)], rfl⟩

/-- Two sessions that nothing was added to yet, and the system that they share. -/
def opening : Hall (Recorded Dispenser) :=
  .opened 2 ⟨.empty, [], .blank oneNumber⟩

/-- The sessions after the run. -/
def replaced : Hall (Recorded Dispenser) :=
  opening.run crew.recorded (Hall.recordedMoves endedAndReplaced)

/-- The session whose process holds the number is served rightly; the requests for the other
session concern the process that holds its number too. -/
theorem second_session_served :
    (∃ session, replaced.sessions[1]? = some session ∧
      crew.ServesOwn replaced.plain.desk.machine.table
        (fun index => Hall.ownProcess? crew 1 index opening endedAndReplaced) session
        replaced.plain.desk) ∧
      ∃ session, replaced.sessions[0]? = some session ∧
        crew.ServesHolders replaced.plain.desk.machine.table session replaced.plain.desk := by
  have served := (Hall.numbers_concern_their_holders tabled
    (rfl : table oneNumber = .planned []) 2 [] endedAndReplaced_natural).2
  constructor
  · refine ⟨_, rfl, (served 1 _ rfl).2.2.2 ?_⟩
    intro index entry place recorded
    cases index with
    | zero =>
        cases place
        decide
    | succ index => cases place
  · exact ⟨_, rfl, (served 0 _ rfl).2.2.1⟩

/-- The process of the first session has ended and its number was given to the second
session: the first session counts as running, and its cleanup drops the process of the
second one. -/
theorem first_session_misled :
    ∃ session, replaced.sessions[0]? = some session ∧
      Hall.ownProcess? crew 0 0 opening endedAndReplaced = some ⟨1001, 0⟩ ∧
      replaced.plain.desk.machine.table.runs ⟨1001, 0⟩ = false ∧
      ((crew.running session replaced.plain.desk).1.map fun entry => entry.name) = ["wlan0"] ∧
      crew.dropped session replaced.plain.desk = [(1001, ⟨1001, 1⟩)] ∧
      ¬crew.ServesOwn replaced.plain.desk.machine.table
        (fun index => Hall.ownProcess? crew 0 index opening endedAndReplaced) session
        replaced.plain.desk := by
  refine ⟨_, rfl, by decide, by decide, by decide, by decide, fun served => ?_⟩
  obtain ⟨index, inside, own⟩ := served.dropped (1001, ⟨1001, 1⟩) (by decide)
  cases index with
  | zero => cases own
  | succ index =>
      have alone : index + 1 < 1 := inside
      omega

end Dispenser
end ExtcapHost
