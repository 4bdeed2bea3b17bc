/-
Module: ExtcapHost.Proofs.Session.PidAgreement
Purpose: The processes in the entries are those that the launcher tracks.
Main exports:
  Entry.process?, Turn.processes, Agreed, Hall.stages_and_processes_agree
-/
import ExtcapHost.Machine.Platform
import ExtcapHost.Proofs.Session.Lifecycle
import ExtcapHost.Proofs.Session.Recording

/-!
A process number stands in two places, in the entry that it was started for and in the
table of the launcher.  They agree as long as the system gives no number twice: a number
given twice would be one row of the table and two entries.
-/

namespace ExtcapHost

variable {σ : Type}

/-- The number of the process of an entry, if it has one. -/
def Entry.process? (entry : Entry) : Option Int :=
  if entry.pid = noProcess then none else some entry.pid

/-- The numbers of the processes that were started, the oldest first. -/
def Recorded.startedPids (recorded : Recorded σ) : List Int :=
  recorded.calls.filterMap Call.startedPid?

/-- Numbers are positive, and none is given twice. -/
def FreshPids (pids : List Int) : Prop :=
  pids.Nodup ∧ ∀ pid ∈ pids, 0 < pid

/-- The numbers of the processes that were started, as they stand in the books. -/
def Books.started (books : Books) : List Int :=
  books.deeds.filterMap Call.startedPid?

/-- Deeds that start nothing leave the started processes as they are. -/
theorem Books.started_enter {deeds : List Call} (books : Books)
    (starts : deeds.filterMap Call.startedPid? = []) :
    (books.enter deeds).started = books.started := by
  rw [started, enter_deeds, List.filterMap_append, starts, List.append_nil, started]

namespace FreshPids

variable {earlier : List Int} {pid : Int}

theorem before (fresh : FreshPids (earlier ++ [pid])) : FreshPids earlier :=
  ⟨(List.nodup_append.mp fresh.1).1, fun other member => fresh.2 other (by simp [member])⟩

theorem not_mem (fresh : FreshPids (earlier ++ [pid])) : pid ∉ earlier := by
  intro member
  exact (List.nodup_append.mp fresh.1).2.2 pid member pid (by simp) rfl

theorem ne_noProcess (fresh : FreshPids (earlier ++ [pid])) : pid ≠ noProcess := by
  have positive := fresh.2 pid (by simp)
  intro equal
  rw [equal, noProcess] at positive
  omega

end FreshPids

namespace Entry

theorem process?_of_noProcess {entry : Entry} (absent : entry.pid = noProcess) :
    entry.process? = none := by
  simp [process?, absent]

theorem process?_of_ne {entry : Entry} (present : entry.pid ≠ noProcess) :
    entry.process? = some entry.pid := by
  simp [process?, present]

@[simp] theorem closed_process? (entry : Entry) : entry.closed.process? = none := rfl

@[simp] theorem promoted_process? (entry : Entry) :
    entry.promoted.process? = entry.process? := by
  unfold promoted
  split <;> rfl

end Entry

/-- What can become of the process of an entry. -/
inductive Handover (entry : Entry) (books : Books) (next : Entry) (last : Books) : Prop where
  /-- It stays with the entry, or the entry stays without one. -/
  | same (process : next.process? = entry.process?) (tracked : last.tracked = books.tracked)
      (started : last.started = books.started)
  /-- The entry gains one that was just started. -/
  | gained (child : Child) (without : entry.process? = none) (process : next.pid = child.pid)
      (tracked : last.tracked = Ordered.put child.pid child books.tracked)
      (started : last.started = books.started ++ [child.pid])
  /-- The entry loses the one that it had. -/
  | lost (pid : Int) (process : entry.process? = some pid) (without : next.process? = none)
      (tracked : last.tracked = Ordered.erase pid books.tracked)
      (started : last.started = books.started)

/-- An entry is closed, after deeds that start nothing. -/
theorem Handover.ofClosing {entry next : Entry} {deeds : List Call} (books : Books)
    (without : next.process? = none) (starts : deeds.filterMap Call.startedPid? = []) :
    Handover entry books next ((books.enter deeds).letGo entry.pid) := by
  have started : ((books.enter deeds).letGo entry.pid).started = books.started := by
    rw [Books.started, Books.letGo_deeds]
    exact books.started_enter starts
  by_cases absent : entry.pid = noProcess
  · refine .same ?_ ?_ started
    · rw [without, Entry.process?_of_noProcess absent]
    · rw [Books.letGo, if_pos absent, Books.enter_tracked]
  · refine .lost entry.pid (Entry.process?_of_ne absent) without ?_ started
    rw [Books.letGo, if_neg absent, Books.enter_tracked]

/-- Every turn of a consistent entry hands its process over in one of these ways. -/
theorem Turn.handover {entry next : Entry} {books last : Books}
    (turn : Turn entry books next last) (consistent : entry.Consistent) :
    Handover entry books next last := by
  have idle : entry.waiting = true → entry.process? = none := by
    intro waiting
    exact Entry.process?_of_noProcess (consistent.ofWaiting waiting).2.2
  cases turn with
  | refused => exact .same rfl rfl (books.started_enter rfl)
  | stranded => exact .same rfl rfl (books.started_enter rfl)
  | unmanned waiting =>
      refine .same ?_ rfl (books.started_enter rfl)
      rw [idle waiting, Entry.process?_of_noProcess rfl]
  | manned waiting channel child =>
      refine .gained child (idle waiting) rfl rfl ?_
      rw [Books.started, Books.track_deeds, Books.enter_deeds, List.filterMap_append]
      rfl
  | promoted => exact .same entry.promoted_process? rfl rfl
  | stuck => exact .same rfl rfl (books.started_enter rfl)
  | retained => exact .ofClosing books entry.closed_process? rfl
  | cleared => exact .ofClosing books entry.unlinked.closed_process? rfl
  | bare =>
      have closing : Handover entry books entry.closed ((books.enter []).letGo entry.pid) :=
        .ofClosing books entry.closed_process? rfl
      simpa [Books.enter] using closing

/-- The numbers of the processes of entries, in order. -/
def processes (entries : List Entry) : List Int :=
  entries.filterMap Entry.process?

@[simp] theorem processes_split (before after : List Entry) (entry : Entry) :
    processes (before ++ entry :: after) =
      processes before ++ entry.process?.toList ++ processes after := by
  cases process : entry.process? <;> simp [processes, process]

/-- The processes of the entries are the tracked ones, and have been started. -/
structure Agreed (entries : List Entry) (books : Books) : Prop where
  distinct : (processes entries).Nodup
  tracked : (processes entries).Perm books.pids
  started : ∀ pid ∈ processes entries, pid ∈ books.started

/-- A process that is handed over is so on both sides. -/
theorem Handover.agreed {before after : List Entry} {entry next : Entry} {books last : Books}
    (handover : Handover entry books next last) (fresh : FreshPids last.started)
    (agreed : FreshPids books.started → Agreed (before ++ entry :: after) books) :
    Agreed (before ++ next :: after) last := by
  cases handover with
  | same process tracked started =>
      rw [started] at fresh
      obtain ⟨distinct, agrees, known⟩ := agreed fresh
      have unchanged : processes (before ++ next :: after) =
          processes (before ++ entry :: after) := by
        rw [processes_split, processes_split, process]
      refine ⟨?_, ?_, ?_⟩
      · rw [unchanged]
        exact distinct
      · rw [unchanged, Books.pids, tracked]
        exact agrees
      · rw [unchanged, started]
        exact known
  | gained child without process tracked started =>
      rw [started] at fresh
      obtain ⟨distinct, agrees, known⟩ := agreed fresh.before
      have present : next.process? = some child.pid := by
        rw [← process]
        exact Entry.process?_of_ne (by rw [process]; exact fresh.ne_noProcess)
      simp only [processes_split, without, Option.toList_none, List.append_nil] at distinct agrees known
      have moved : (processes (before ++ next :: after)).Perm
          (child.pid :: (processes before ++ processes after)) := by
        rw [processes_split, present]
        simp
      -- The new number is not among the older ones, which were all started before.
      have new : child.pid ∉ processes before ++ processes after := by
        intro member
        exact fresh.not_mem (known child.pid member)
      have absent : child.pid ∉ Ordered.keys books.tracked := by
        intro member
        exact new (agrees.mem_iff.mpr member)
      refine ⟨?_, ?_, ?_⟩
      · exact moved.nodup_iff.mpr (List.nodup_cons.mpr ⟨new, distinct⟩)
      · have rows : last.pids = books.pids ++ [child.pid] := by
          rw [Books.pids, tracked]
          exact Ordered.keys_put_of_new absent child
        rw [rows]
        exact moved.trans ((agrees.cons child.pid).trans (List.perm_append_singleton _ _).symm)
      · intro pid member
        rw [started]
        rcases List.mem_cons.mp (moved.mem_iff.mp member) with rfl | older
        · simp
        · simp [known pid older]
  | lost pid process without tracked started =>
      rw [started] at fresh
      obtain ⟨distinct, agrees, known⟩ := agreed fresh
      have moved : (processes (before ++ entry :: after)).Perm
          (pid :: processes (before ++ next :: after)) := by
        rw [processes_split, processes_split, process, without]
        simp
      refine ⟨?_, ?_, ?_⟩
      · exact (List.nodup_cons.mp (moved.nodup_iff.mp distinct)).2
      · have rows : last.pids = books.pids.erase pid := by
          rw [Books.pids, tracked]
          exact Ordered.keys_erase pid books.tracked
        rw [rows]
        have both := moved.symm.trans agrees
        simpa using both.erase pid
      · intro other member
        rw [started]
        exact known other (moved.mem_iff.mpr (List.mem_cons_of_mem pid member))

/-- Entries and launcher go on to agree. -/
theorem Kept.agreed :
    Kept fun entries books => (∀ entry ∈ entries, entry.Consistent) ∧
      (FreshPids books.started → Agreed entries books) := by
  apply Kept.whileConsistent
  · intro before after entry next books last consistent turn agreed fresh
    exact (turn.handover consistent).agreed fresh agreed
  · intro before after entry books new agreed fresh
    have idle := Entry.process?_of_noProcess new.pid
    have unchanged : processes (before ++ entry :: after) = processes (before ++ after) := by
      rw [processes_split, idle]
      simp [processes]
    obtain ⟨distinct, tracked, started⟩ := agreed fresh
    rw [← unchanged] at distinct tracked started
    exact ⟨distinct, tracked, started⟩

namespace Hall

/-- After every run, in whatever way its moves have ended, the stage of each entry agrees
with its channel and its process.  If moreover the system gave no process number twice,
the numbers in the entries are distinct, and are those that the launcher tracks. -/
theorem stages_and_processes_agree (crew : Crew σ) (count : Nat) (journal : List Note)
    (machine : σ) (moves : List (Nat × Move σ)) :
    let hall := (opened count ⟨.empty, journal, .blank machine⟩).run crew.recorded
      (recordedMoves moves)
    hall.plain = (opened count ⟨.empty, journal, machine⟩).run crew moves ∧
      (∀ entry ∈ hall.entries, entry.Consistent) ∧
      (FreshPids hall.desk.machine.startedPids →
        (processes hall.entries).Nodup ∧
          (processes hall.entries).Perm hall.desk.launcher.pids) := by
  intro hall
  have kept := Kept.agreed.run_opened crew count .empty journal machine moves
    ⟨nofun, fun _ => ⟨.nil, .nil, nofun⟩⟩
  have plain := run_recorded crew (opened count ⟨.empty, journal, .blank machine⟩) moves
  refine ⟨plain.symm, kept.1, ?_⟩
  intro fresh
  have started : hall.desk.books.started = hall.desk.machine.startedPids :=
    hall.desk.machine.filterMap_startedPid?_deeds
  rw [← started] at fresh
  obtain ⟨distinct, tracked, -⟩ := kept.2 fresh
  exact ⟨distinct, tracked⟩

/-- A machine on which two channels can be made. -/
def twoChannels : Machine :=
  { Machine.initial "/" with
    channelPlan := [.ok ⟨"/tmp/first", none⟩, .ok ⟨"/tmp/second", some "H1"⟩] }

/-- Two sessions are started; the first process ends and its session is cleaned up. -/
def startedAndCleaned : List (Nat × Move Machine) :=
  [(0, .addNative "lo"), (0, .addBacked "wlan0" "/extcap/sniffer" []),
    (1, .addBacked "wlan1" "/extcap/sniffer" []), (0, .start), (1, .start),
    (0, .elapse fun machine => { machine with processes := machine.processes.finish 1001 0 }),
    (0, .cleanup), (1, .running)]

/-- The system gave the numbers 1001 and 1002.  Only the second one is still recorded,
and only that is tracked. -/
theorem second_process_agrees :
    let hall := (opened 2 ⟨.empty, [], .blank twoChannels⟩).run
      (Crew.recorded ⟨Machine.plannedMaker, Machine.kernel⟩) (recordedMoves startedAndCleaned)
    FreshPids hall.desk.machine.startedPids ∧ processes hall.entries = [1002] ∧
      (processes hall.entries).Perm hall.desk.launcher.pids := by
  intro hall
  have started : hall.desk.machine.startedPids = [1001, 1002] := rfl
  have fresh : FreshPids hall.desk.machine.startedPids := by
    rw [started]
    exact ⟨by decide, by decide⟩
  have agree := stages_and_processes_agree ⟨Machine.plannedMaker, Machine.kernel⟩ 2 []
    twoChannels startedAndCleaned
  exact ⟨fresh, rfl, (agree.2.2 fresh).2⟩

end Hall

end ExtcapHost
