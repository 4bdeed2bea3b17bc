/-
Module: ExtcapHost.Proofs.Session.Retrying
Purpose: Repeated cleanups try again what was refused, and come to what one cleanup without
  refusals comes to.
Main exports:
  Target, Removal, CleanupLog, Crew.cleanups, Crew.Logged, Retried,
  Crew.repeated_cleanups_converge
-/
import ExtcapHost.Proofs.Session.Attribution
import ExtcapHost.Proofs.Session.Closing

/-!
A cleanup leaves an entry without a process, and with its channel only if removing that was
refused.  So what the next cleanup has to do can be read off the log of this one, and the
entries that a cleanup without refusals would leave are the same before and after it.
-/

namespace ExtcapHost

variable {σ : Type}

/-! ### What cleanups have to do, and what they did -/

/-- The channel of the entry at an index, which has to be removed. -/
structure Target where
  index : Nat
  path : Option String
  handle : Option String
deriving DecidableEq, Repr

/-- A removal that was asked for, and why it was refused, if it was. -/
structure Removal extends Target where
  refusal : Option HostError
deriving DecidableEq, Repr

/-- The call to the maker of channels that a removal is. -/
def Removal.call (removal : Removal) : Call :=
  match removal.refusal with
  | none => .removed removal.path removal.handle
  | some error => .notRemoved removal.path removal.handle (.host error)

/-- A helper backs the entry, and it has a channel. -/
def Entry.due (entry : Entry) : Bool :=
  entry.isBacked && entry.hasChannel

/-- The channels that have to be removed, of entries that are counted from an index on. -/
def targetsFrom : Nat → List Entry → List Target
  | _, [] => []
  | index, entry :: rest =>
      if entry.due then ⟨index, entry.channel, entry.handle⟩ :: targetsFrom (index + 1) rest
      else targetsFrom (index + 1) rest

/-- The channels that a cleanup of the session has to remove. -/
def Session.targets (session : Session) : List Target :=
  targetsFrom 0 session.entries

/-- The numbers of the processes that stand with entries that a helper backs. -/
def heldPids (entries : List Entry) : List Int :=
  (entries.filter fun entry => entry.isBacked && entry.hasProcess).map fun entry => entry.pid

/-- What a cleanup did: the removals that it asked for, and the processes that it had the
launcher let go of. -/
structure CleanupLog where
  removals : List Removal
  letGo : List Int
deriving DecidableEq, Repr

namespace CleanupLog

/-- The channels that could not be removed. -/
def refused (log : CleanupLog) : List Target :=
  (log.removals.filter fun removal => removal.refusal.isSome).map Removal.toTarget

/-- Nothing was done. -/
def idle : CleanupLog := ⟨[], []⟩

end CleanupLog

/-- Cleanups one after the other.  The first one has given channels to remove and given
processes to let go of.  Each later one has the channels to remove that could not be removed
in the one before, and no process. -/
def Retried : List Target → List Int → List CleanupLog → Prop
  | _, _, [] => True
  | due, pids, log :: later =>
      log.removals.map Removal.toTarget = due ∧ log.letGo = pids ∧ Retried log.refused [] later

/-- The process that an act lets go of, if it does. -/
def CloseAct.letGo? : CloseAct → Option Int
  | .letGo pid => some pid
  | _ => none

/-- The machine of a desk changes by itself. -/
def Desk.drift (change : σ → σ) (desk : Desk σ) : Desk σ :=
  { desk with machine := change desk.machine }

/-- Clean up a session again and again.  Before each cleanup the machine may change by
itself. -/
def Crew.cleanups (crew : Crew σ) : List (σ → σ) → Session → Desk σ → Session × Desk σ
  | [], session, desk => (session, desk)
  | change :: rest, session, desk =>
      let cleaned := crew.cleanup session (desk.drift change)
      crew.cleanups rest cleaned.2.1 cleaned.2.2

/-- A cleanup returns, and does what a log says and nothing else. -/
structure CleanupLog.Tells (log : CleanupLog) (crew : Crew σ) (session : Session)
    (desk : Desk σ) : Prop where
  returns : (crew.cleanup session desk).1 = .ok ()
  performs : ∃ acts, crew.Performs acts desk (crew.cleanup session desk).2.2 ∧
    acts.filterMap CloseAct.deed? = log.removals.map Removal.call ∧
    acts.filterMap CloseAct.letGo? = log.letGo
  /-- What is left to be removed could not be removed. -/
  left : (crew.cleanup session desk).2.1.targets = log.refused

/-- Cleanups one after the other, each with its log. -/
inductive Crew.Logged (crew : Crew σ) :
    List (σ → σ) → Session → Desk σ → List CleanupLog → Prop where
  | nothing (session : Session) (desk : Desk σ) : Logged crew [] session desk []
  | cleanup {change : σ → σ} {rest : List (σ → σ)} {session : Session} {desk : Desk σ}
      {log : CleanupLog} {logs : List CleanupLog}
      (tells : log.Tells crew session (desk.drift change))
      (later : Logged crew rest (crew.cleanup session (desk.drift change)).2.1
        (crew.cleanup session (desk.drift change)).2.2 logs) :
      Logged crew (change :: rest) session desk (log :: logs)

/-! ### The log of one cleanup -/

/-- The removals for entries that are counted from an index on, by what they came to. -/
def removalsFrom : Nat → List Entry → List (Option HostError) → List Removal
  | index, entry :: rest, refusal :: refusals =>
      if entry.due then
        ⟨⟨index, entry.channel, entry.handle⟩, refusal⟩ ::
          removalsFrom (index + 1) rest refusals
      else
        removalsFrom (index + 1) rest refusals
  | _, _, _ => []

/-- The log of a cleanup of the entries. -/
def cleanupLog (entries : List Entry) (refusals : List (Option HostError)) : CleanupLog :=
  ⟨removalsFrom 0 entries refusals, heldPids entries⟩

theorem closeActs_cons (entry : Entry) (rest : List Entry) (refusal : Option HostError)
    (refusals : List (Option HostError)) :
    closeActs (entry :: rest) (refusal :: refusals) =
      (if entry.isBacked then entry.unlinkActs refusal ++ entry.letGoActs else []) ++
        closeActs rest refusals := rfl

namespace Entry

theorem due_of_native {entry : Entry} (native : entry.isBacked = false) : entry.due = false := by
  rw [due, native, Bool.false_and]

theorem due_of_backed {entry : Entry} (backed : entry.isBacked = true) :
    entry.due = entry.hasChannel := by
  rw [due, backed, Bool.true_and]

theorem unlinkActs_letGo (entry : Entry) (refusal : Option HostError) :
    (entry.unlinkActs refusal).filterMap CloseAct.letGo? = [] := by
  cases refusal <;> rw [unlinkActs] <;> split <;> rfl

theorem letGoActs_letGo (entry : Entry) :
    entry.letGoActs.filterMap CloseAct.letGo? = if entry.hasProcess then [entry.pid] else [] := by
  unfold letGoActs
  split <;> rfl

/-- An entry that was closed has no process. -/
theorem closedWith_hasProcess {entry : Entry} (backed : entry.isBacked = true)
    (refusal : Option HostError) : (entry.closedWith refusal).hasProcess = false := by
  rw [closedWith, if_pos backed]
  rfl

theorem closedWith_isBacked (entry : Entry) (refusal : Option HostError) :
    (entry.closedWith refusal).isBacked = entry.isBacked := by
  unfold closedWith
  split <;> rfl

/-- A channel that was removed has to be removed no more. -/
theorem closedWith_none_due (entry : Entry) : (entry.closedWith none).due = false := by
  cases backed : entry.isBacked with
  | false => rw [closedWith_of_native backed, due_of_native backed]
  | true =>
      rw [closedWith_of_removed backed, due]
      exact Bool.and_false _

/-- A channel that could not be removed is the same as before. -/
theorem closedWith_some (entry : Entry) (error : HostError) :
    (entry.closedWith (some error)).due = entry.due ∧
      (entry.closedWith (some error)).channel = entry.channel ∧
      (entry.closedWith (some error)).handle = entry.handle := by
  cases backed : entry.isBacked with
  | false =>
      rw [closedWith_of_native backed]
      exact ⟨rfl, rfl, rfl⟩
  | true =>
      rw [closedWith_of_refused backed]
      exact ⟨rfl, rfl, rfl⟩

/-- What was refused before makes no difference once it succeeds. -/
theorem closedWith_closedWith (entry : Entry) (refusal : Option HostError) :
    (entry.closedWith refusal).closedWith none = entry.closedWith none := by
  cases backed : entry.isBacked with
  | false => rw [closedWith_of_native backed, closedWith_of_native backed]
  | true =>
      have still : (entry.closedWith refusal).isBacked = true := by
        rw [closedWith_isBacked, backed]
      rw [closedWith_of_removed still, closedWith_of_removed backed]
      cases refusal with
      | none => rw [closedWith_of_removed backed]; rfl
      | some error => rw [closedWith_of_refused backed]; rfl

/-- Without a channel, it makes no difference what its removal would come to. -/
theorem closedWith_of_not_due {entry : Entry} (idle : entry.due = false)
    (refusal : Option HostError) : entry.closedWith refusal = entry.closedWith none := by
  cases backed : entry.isBacked with
  | false => rw [closedWith_of_native backed, closedWith_of_native backed]
  | true =>
      rw [due_of_backed backed] at idle
      cases refusal with
      | none => rfl
      | some error => rw [closedWith_of_refused backed, closedWith_of_bare backed idle]

end Entry

/-- The removals among the acts are those of the log. -/
theorem closeActs_deeds (index : Nat) (entries : List Entry)
    (refusals : List (Option HostError)) :
    (closeActs entries refusals).filterMap CloseAct.deed? =
      (removalsFrom index entries refusals).map Removal.call := by
  induction entries generalizing index refusals with
  | nil => rfl
  | cons entry rest ih =>
      cases refusals with
      | nil => rfl
      | cons refusal refusals =>
          rw [closeActs_cons, List.filterMap_append, ih (index + 1) refusals, removalsFrom]
          cases backed : entry.isBacked with
          | false => simp [entry.due_of_native backed]
          | true =>
              rw [entry.due_of_backed backed, if_pos rfl, List.filterMap_append,
                entry.letGoActs_deeds, List.append_nil]
              cases has : entry.hasChannel <;> cases refusal <;>
                simp [Entry.unlinkActs, has, CloseAct.deed?, Removal.call]

/-- The processes that are let go of are those of all entries that a helper backs. -/
theorem closeActs_letGo {entries : List Entry} {refusals : List (Option HostError)}
    (length : refusals.length = entries.length) :
    (closeActs entries refusals).filterMap CloseAct.letGo? = heldPids entries := by
  induction entries generalizing refusals with
  | nil => rfl
  | cons entry rest ih =>
      obtain ⟨refusal, refusals, rfl⟩ := List.exists_cons_of_length_eq_add_one length
      rw [closeActs_cons, List.filterMap_append, ih (Nat.succ.inj length)]
      cases backed : entry.isBacked with
      | false => simp [heldPids, backed]
      | true =>
          rw [if_pos rfl, List.filterMap_append, entry.unlinkActs_letGo, List.nil_append,
            entry.letGoActs_letGo]
          cases process : entry.hasProcess <;> simp [heldPids, backed, process]

/-- The removal of every channel that has to be removed is asked for. -/
theorem removalsFrom_targets (index : Nat) {entries : List Entry}
    {refusals : List (Option HostError)} (length : refusals.length = entries.length) :
    (removalsFrom index entries refusals).map Removal.toTarget = targetsFrom index entries := by
  induction entries generalizing index refusals with
  | nil => rfl
  | cons entry rest ih =>
      obtain ⟨refusal, refusals, rfl⟩ := List.exists_cons_of_length_eq_add_one length
      rw [removalsFrom, targetsFrom]
      have later := ih (index + 1) (Nat.succ.inj length)
      split
      · rw [List.map_cons, later]
      · exact later

/-- What the next cleanup has to remove is what was refused in this one. -/
theorem targetsFrom_closed (index : Nat) {entries : List Entry}
    {refusals : List (Option HostError)} (length : refusals.length = entries.length) :
    targetsFrom index (List.zipWith Entry.closedWith entries refusals) =
      ((removalsFrom index entries refusals).filter fun removal => removal.refusal.isSome).map
        Removal.toTarget := by
  induction entries generalizing index refusals with
  | nil => rfl
  | cons entry rest ih =>
      obtain ⟨refusal, refusals, rfl⟩ := List.exists_cons_of_length_eq_add_one length
      have later := ih (index + 1) (Nat.succ.inj length)
      rw [List.zipWith_cons_cons, targetsFrom, removalsFrom, later]
      cases refusal with
      | none =>
          rw [if_neg (by rw [entry.closedWith_none_due]; exact Bool.false_ne_true)]
          split <;> simp
      | some error =>
          obtain ⟨due, channel, handle⟩ := entry.closedWith_some error
          rw [due, channel, handle]
          split <;> simp

/-- No process is left for the next cleanup. -/
theorem heldPids_closed {entries : List Entry} {refusals : List (Option HostError)} :
    heldPids (List.zipWith Entry.closedWith entries refusals) = [] := by
  induction entries generalizing refusals with
  | nil => rfl
  | cons entry rest ih =>
      cases refusals with
      | nil => rfl
      | cons refusal refusals =>
          have idle : ((entry.closedWith refusal).isBacked &&
              (entry.closedWith refusal).hasProcess) = false := by
            cases backed : entry.isBacked with
            | false => rw [entry.closedWith_isBacked, backed, Bool.false_and]
            | true => rw [entry.closedWith_hasProcess backed, Bool.and_false]
          rw [List.zipWith_cons_cons, heldPids, List.filter_cons_of_neg (by simp [idle])]
          exact ih

/-- If nothing was refused, the entries have lost all their channels. -/
theorem zipWith_closedWith_of_unrefused (index : Nat) {entries : List Entry}
    {refusals : List (Option HostError)} (length : refusals.length = entries.length)
    (unrefused : ∀ removal ∈ removalsFrom index entries refusals, removal.refusal = none) :
    List.zipWith Entry.closedWith entries refusals = entries.map (Entry.closedWith · none) := by
  induction entries generalizing index refusals with
  | nil => rfl
  | cons entry rest ih =>
      obtain ⟨refusal, refusals, rfl⟩ := List.exists_cons_of_length_eq_add_one length
      rw [removalsFrom] at unrefused
      -- An entry that is not due has a place in the refusals too, but nothing was asked for.
      have first : entry.closedWith refusal = entry.closedWith none := by
        cases due : entry.due with
        | false => exact entry.closedWith_of_not_due due refusal
        | true =>
            rw [if_pos due] at unrefused
            rw [show refusal = none from unrefused _ (.head _)]
      have later : ∀ removal ∈ removalsFrom (index + 1) rest refusals,
          removal.refusal = none := by
        intro removal member
        apply unrefused
        split
        · exact .tail _ member
        · exact member
      rw [List.zipWith_cons_cons, first, ih (index + 1) (Nat.succ.inj length) later, List.map_cons]

/-- Refusals change nothing of what a cleanup without them would leave. -/
theorem map_closedWith_zipWith {entries : List Entry} {refusals : List (Option HostError)}
    (length : refusals.length = entries.length) :
    (List.zipWith Entry.closedWith entries refusals).map (Entry.closedWith · none) =
      entries.map (Entry.closedWith · none) := by
  induction entries generalizing refusals with
  | nil => rfl
  | cons entry rest ih =>
      obtain ⟨refusal, refusals, rfl⟩ := List.exists_cons_of_length_eq_add_one length
      rw [List.zipWith_cons_cons, List.map_cons, List.map_cons, entry.closedWith_closedWith,
        ih (Nat.succ.inj length)]

/-! ### The processes that stay tracked -/

/-- Those processes stay tracked that no act lets go of. -/
theorem Crew.Performs.pids {crew : Crew σ} {acts : List CloseAct} {desk last : Desk (Recorded σ)}
    (performs : crew.recorded.Performs acts desk last) :
    last.launcher.pids =
      (acts.filterMap CloseAct.letGo?).foldl List.erase desk.launcher.pids := by
  induction performs with
  | nothing desk => rfl
  | removed _ _ ih => exact ih
  | refused _ _ ih => exact ih
  | warned _ ih => exact ih
  | @letGo pid tracked launcher acts desk last next present call _ ih =>
      have kept := (Launcher.release_books present crew.kernel desk.launcher desk.machine).2
      rw [← recorded_kernel, call] at kept
      have rows : launcher.pids = desk.launcher.pids.erase pid := by
        rw [Launcher.pids, kept]
        exact Ordered.keys_erase pid desk.launcher.tracked
      calc last.launcher.pids
          = (acts.filterMap CloseAct.letGo?).foldl List.erase launcher.pids := ih
        _ = ((CloseAct.letGo pid :: acts).filterMap CloseAct.letGo?).foldl List.erase
              desk.launcher.pids := by rw [rows]; rfl

/-! ### One cleanup and its log -/

/-- No removal failed. -/
def Recorded.Unrefused (machine : Recorded σ) : Prop :=
  ∀ path handle fault, .notRemoved path handle fault ∉ machine.calls

/-- Removals that failed are not forgotten, so what is known of all of them is known of the
earlier ones. -/
theorem Recorded.OwnRefusals.earlier {machine later : Recorded σ} (own : later.OwnRefusals)
    (grown : ∃ deeds, later.deeds = machine.deeds ++ deeds) : machine.OwnRefusals := by
  intro path handle fault failed
  obtain ⟨deeds, grown⟩ := grown
  have deed : .notRemoved path handle fault ∈ later.deeds := by
    rw [grown]
    exact List.mem_append_left _ (List.mem_filter.mpr ⟨failed, rfl⟩)
  exact own path handle fault (List.mem_filter.mp deed).1

/-- The log tells the same of a cleanup on the machine itself. -/
theorem CleanupLog.Tells.plain {log : CleanupLog} {crew : Crew σ} {session : Session}
    {desk : Desk (Recorded σ)} (tells : log.Tells crew.recorded session desk) :
    log.Tells crew session desk.plain := by
  obtain ⟨returns, ⟨acts, performs, deeds, letGo⟩, left⟩ := tells
  have same := crew.cleanup_recorded session desk
  constructor
  · rw [same]
    exact returns
  · refine ⟨acts, ?_, deeds, letGo⟩
    rw [same]
    exact performs.plain
  · rw [same]
    exact left

namespace Crew

variable (crew : Crew σ)

/-- A cleanup whose refusals are all the host's own has a log. -/
theorem cleanup_told (session : Session) (desk : Desk (Recorded σ))
    (own : (crew.recorded.cleanup session desk).2.2.machine.OwnRefusals) :
    ∃ refusals : List (Option HostError), refusals.length = session.entries.length ∧
      (cleanupLog session.entries refusals).Tells crew.recorded session desk ∧
      (crew.recorded.cleanup session desk).2.1 =
        ⟨List.zipWith Entry.closedWith session.entries refusals⟩ := by
  obtain ⟨refusals, length, result, closed, performs⟩ :=
    closeEach_performs crew session.entries desk own
  have entries : (crew.recorded.cleanup session desk).2.1 =
      ⟨List.zipWith Entry.closedWith session.entries refusals⟩ := congrArg Session.mk closed
  refine ⟨refusals, length, ⟨result, ⟨_, performs, closeActs_deeds 0 _ _, closeActs_letGo length⟩,
    ?_⟩, entries⟩
  rw [entries]
  exact targetsFrom_closed 0 length

/-- The processes that a cleanup lets go of are no longer tracked, and no others. -/
theorem cleanup_pids {crew : Crew σ} {log : CleanupLog} {session : Session}
    {desk : Desk (Recorded σ)} (tells : log.Tells crew.recorded session desk) :
    (crew.recorded.cleanup session desk).2.2.launcher.pids =
      log.letGo.foldl List.erase desk.launcher.pids := by
  obtain ⟨acts, performs, -, letGo⟩ := tells.performs
  rw [performs.pids, letGo]

/-- A cleanup that meets no refusal removes all channels. -/
theorem cleanup_unrefused (session : Session) (desk : Desk σ)
    (unrefused : (crew.recorded.cleanup session desk.watched).2.2.machine.Unrefused) :
    (crew.cleanup session desk).2.1 = ⟨session.entries.map (Entry.closedWith · none)⟩ ∧
      (crew.cleanup session desk).2.2.launcher.pids =
        (heldPids session.entries).foldl List.erase desk.launcher.pids := by
  have own : (crew.recorded.cleanup session desk.watched).2.2.machine.OwnRefusals :=
    fun path handle fault failed => absurd failed (unrefused path handle fault)
  obtain ⟨refusals, length, tells, entries⟩ := cleanup_told crew session desk.watched own
  have same := crew.cleanup_recorded session desk.watched
  change crew.cleanup session desk = _ at same
  have none : ∀ removal ∈ removalsFrom 0 session.entries refusals, removal.refusal = none := by
    intro removal member
    obtain ⟨acts, performs, deeds, -⟩ := tells.performs
    cases refusal : removal.refusal with
    | none => rfl
    | some error =>
        have call : removal.call = .notRemoved removal.path removal.handle (.host error) := by
          rw [Removal.call, refusal]
        have deed : removal.call ∈
            (crew.recorded.cleanup session desk.watched).2.2.machine.deeds := by
          rw [performs.deeds, deeds]
          exact List.mem_append_right _ (List.mem_map_of_mem member)
        rw [call] at deed
        exact absurd (List.mem_filter.mp deed).1 (unrefused _ _ _)
  rw [same]
  constructor
  · rw [entries, zipWith_closedWith_of_unrefused 0 length none]
  · exact cleanup_pids tells

end Crew

/-! ### Cleanups without work -/

/-- Whatever a helper backs among the entries is stopped and has no process. -/
def Stopped (entries : List Entry) : Prop :=
  ∀ entry ∈ entries, entry.isBacked = true → entry.stage = .stopped ∧ entry.pid = noProcess

theorem stopped_zipWith_closedWith (entries : List Entry)
    (refusals : List (Option HostError)) :
    Stopped (List.zipWith Entry.closedWith entries refusals) := by
  induction entries generalizing refusals with
  | nil => exact nofun
  | cons entry rest ih =>
      cases refusals with
      | nil => exact nofun
      | cons refusal refusals =>
          rw [List.zipWith_cons_cons]
          intro other member backed
          rcases List.mem_cons.mp member with rfl | later
          · rw [entry.closedWith_isBacked] at backed
            rw [Entry.closedWith, if_pos backed]
            exact ⟨rfl, rfl⟩
          · exact ih refusals other later backed

theorem not_due_of_targets {index : Nat} {entry : Entry} {rest : List Entry}
    (empty : targetsFrom index (entry :: rest) = []) :
    entry.due = false ∧ targetsFrom (index + 1) rest = [] := by
  rw [targetsFrom] at empty
  split at empty
  · cases empty
  · rename_i idle
    exact ⟨Bool.eq_false_iff.mpr idle, empty⟩

/-- An entry that is stopped and has neither a process nor a channel is left as it is. -/
theorem Entry.closedWith_of_settled {entry : Entry}
    (stopped : entry.isBacked = true → entry.stage = .stopped ∧ entry.pid = noProcess)
    (idle : entry.due = false) : entry.closedWith none = entry := by
  cases backed : entry.isBacked with
  | false => exact closedWith_of_native backed none
  | true =>
      obtain ⟨stage, pid⟩ := stopped backed
      rw [due_of_backed backed] at idle
      rw [closedWith_of_bare backed idle, closed, ← stage, ← pid]

theorem map_closedWith_of_settled (index : Nat) {entries : List Entry} (stopped : Stopped entries)
    (empty : targetsFrom index entries = []) :
    entries.map (Entry.closedWith · none) = entries := by
  induction entries generalizing index with
  | nil => rfl
  | cons entry rest ih =>
      obtain ⟨idle, empty⟩ := not_due_of_targets empty
      have first := Entry.closedWith_of_settled (stopped entry (.head _)) idle
      have later := ih (index + 1) (fun other member => stopped other (.tail _ member)) empty
      rw [List.map_cons, first, later]

/-- Stopped entries without channels are left alone. -/
theorem Crew.closeEach_of_settled (crew : Crew σ) (index : Nat) {entries : List Entry}
    (stopped : Stopped entries) (empty : targetsFrom index entries = []) (desk : Desk σ) :
    crew.closeEach entries desk = ⟨.ok (), entries, desk⟩ := by
  induction entries generalizing index with
  | nil => rfl
  | cons entry rest ih =>
      obtain ⟨idle, empty⟩ := not_due_of_targets empty
      have later := ih (index + 1) (fun other member => stopped other (.tail _ member)) empty
      cases backed : entry.isBacked with
      | false =>
          rw [closeEach_of_native backed, later]
          rfl
      | true =>
          have same := Entry.closedWith_of_settled (stopped entry (.head _)) idle
          rw [Entry.due_of_backed backed] at idle
          rw [Entry.closedWith_of_bare backed idle] at same
          rw [closeEach_of_unlinked backed (unlink_of_bare idle),
            (stopped entry (.head _) backed).2, letGo_noProcess, later, same]
          rfl

/-! ### Cleanups one after the other -/

namespace Crew

variable (crew : Crew σ)

theorem cleanups_append (front back : List (σ → σ)) (session : Session) (desk : Desk σ) :
    crew.cleanups (front ++ back) session desk =
      crew.cleanups back (crew.cleanups front session desk).1
        (crew.cleanups front session desk).2 := by
  induction front generalizing session desk with
  | nil => rfl
  | cons change rest ih => exact ih _ _

/-- Recording the calls changes nothing. -/
theorem cleanups_recorded (changes : List (σ → σ)) (session : Session)
    (desk : Desk (Recorded σ)) :
    crew.cleanups changes session desk.plain =
      ((crew.recorded.cleanups (changes.map Recorded.drift) session desk).1,
        (crew.recorded.cleanups (changes.map Recorded.drift) session desk).2.plain) := by
  induction changes generalizing session desk with
  | nil => rfl
  | cons change rest ih =>
      have first := crew.cleanup_recorded session (desk.drift (Recorded.drift change))
      change crew.cleanup session (desk.plain.drift change) = _ at first
      rw [List.map_cons, cleanups, cleanups, first]
      exact ih _ _

/-- Deeds of cleanups are never undone. -/
theorem cleanups_deeds_grow (changes : List (σ → σ)) (session : Session)
    (desk : Desk (Recorded σ)) :
    ∃ deeds, (crew.recorded.cleanups (changes.map Recorded.drift) session desk).2.machine.deeds =
      desk.machine.deeds ++ deeds := by
  induction changes generalizing session desk with
  | nil => exact ⟨[], (List.append_nil _).symm⟩
  | cons change rest ih =>
      obtain ⟨first, grown⟩ :=
        (crew.cleanup_round session (desk.drift (Recorded.drift change))).deeds_grow
      obtain ⟨more, later⟩ := ih _ _
      refine ⟨first ++ more, later.trans ?_⟩
      rw [← List.append_assoc]
      exact congrArg (· ++ more) grown

/-- Without work, cleanups do nothing; the machine goes on changing by itself. -/
theorem cleanups_of_settled (changes : List (σ → σ)) {session : Session}
    (stopped : Stopped session.entries) (empty : session.targets = []) (desk : Desk σ) :
    crew.cleanups changes session desk =
      (session, changes.foldl (fun desk change => desk.drift change) desk) := by
  induction changes generalizing desk with
  | nil => rfl
  | cons change rest ih =>
      have nothing : crew.cleanup session (desk.drift change) =
          (.ok (), session, desk.drift change) := by
        rw [cleanup, crew.closeEach_of_settled 0 stopped empty]
      rw [cleanups, nothing]
      exact ih _

/-- After a cleanup all entries that a helper backs are stopped, however many follow. -/
theorem cleanups_stopped (changes : List (σ → σ)) (session : Session) (desk : Desk (Recorded σ))
    (own : (crew.recorded.cleanups (changes.map Recorded.drift) session
      desk).2.machine.OwnRefusals)
    (start : changes ≠ [] ∨ Stopped session.entries) :
    Stopped (crew.recorded.cleanups (changes.map Recorded.drift) session desk).1.entries := by
  induction changes generalizing session desk with
  | nil => exact start.resolve_left (· rfl)
  | cons change rest ih =>
      have ownFirst := own.earlier (crew.cleanups_deeds_grow rest _ _)
      obtain ⟨refusals, -, -, entries⟩ := crew.cleanup_told session _ ownFirst
      refine ih _ _ own (.inr ?_)
      rw [entries]
      exact stopped_zipWith_closedWith _ _

/-- Cleanups whose refusals are all the host's own have logs, in which each goes on with what
the one before has left. -/
theorem cleanups_logged (changes : List (σ → σ)) (session : Session) (desk : Desk (Recorded σ))
    (own : (crew.recorded.cleanups (changes.map Recorded.drift) session
      desk).2.machine.OwnRefusals) :
    ∃ logs, crew.Logged changes session desk.plain logs ∧
      Retried session.targets (heldPids session.entries) logs := by
  induction changes generalizing session desk with
  | nil => exact ⟨[], .nothing _ _, trivial⟩
  | cons change rest ih =>
      have ownFirst := own.earlier (crew.cleanups_deeds_grow rest _ _)
      obtain ⟨refusals, length, tells, entries⟩ := crew.cleanup_told session _ ownFirst
      obtain ⟨logs, logged, retried⟩ := ih _ _ own
      have same := crew.cleanup_recorded session (desk.drift (Recorded.drift change))
      refine ⟨cleanupLog session.entries refusals :: logs, .cleanup tells.plain ?_,
        removalsFrom_targets 0 length, rfl, ?_⟩
      · change crew.cleanup session (desk.plain.drift change) = _ at same
        rw [same]
        exact logged
      · rw [← tells.left]
        rw [entries] at retried ⊢
        rw [heldPids_closed] at retried
        exact retried

/-- What a cleanup without refusals would leave is the same before and after cleanups. -/
theorem cleanups_map_closed (changes : List (σ → σ)) (session : Session)
    (desk : Desk (Recorded σ))
    (own : (crew.recorded.cleanups (changes.map Recorded.drift) session
      desk).2.machine.OwnRefusals) :
    (crew.recorded.cleanups (changes.map Recorded.drift) session desk).1.entries.map
        (Entry.closedWith · none) =
      session.entries.map (Entry.closedWith · none) := by
  induction changes generalizing session desk with
  | nil => rfl
  | cons change rest ih =>
      have ownFirst := own.earlier (crew.cleanups_deeds_grow rest _ _)
      obtain ⟨refusals, length, -, entries⟩ := crew.cleanup_told session _ ownFirst
      refine (ih _ _ own).trans ?_
      rw [entries]
      exact map_closedWith_zipWith length

/-- However many cleanups there are, only the first one takes processes from the launcher. -/
theorem cleanups_pids (changes : List (σ → σ)) (session : Session) (desk : Desk (Recorded σ))
    (own : (crew.recorded.cleanups (changes.map Recorded.drift) session
      desk).2.machine.OwnRefusals)
    (start : changes ≠ [] ∨ heldPids session.entries = []) :
    (crew.recorded.cleanups (changes.map Recorded.drift) session desk).2.launcher.pids =
      (heldPids session.entries).foldl List.erase desk.launcher.pids := by
  induction changes generalizing session desk with
  | nil =>
      rw [start.resolve_left (· rfl)]
      rfl
  | cons change rest ih =>
      have ownFirst := own.earlier (crew.cleanups_deeds_grow rest _ _)
      obtain ⟨refusals, -, tells, entries⟩ := crew.cleanup_told session _ ownFirst
      have none : heldPids (crew.recorded.cleanup session
          (desk.drift (Recorded.drift change))).2.1.entries = [] := by
        rw [entries]
        exact heldPids_closed
      have later := ih _ _ own (.inr none)
      rw [none] at later
      exact later.trans (cleanup_pids tells)

/-- Cleanups after which no channel is left come to what one cleanup without refusals comes
to. -/
theorem cleanups_of_emptied (changes : List (σ → σ)) (session : Session) (desk : Desk σ)
    (own : (crew.recorded.cleanups (changes.map Recorded.drift) session
      desk.watched).2.machine.OwnRefusals)
    (begun : changes ≠ []) (empty : (crew.cleanups changes session desk).1.targets = []) :
    (crew.cleanups changes session desk).1 =
        ⟨session.entries.map (Entry.closedWith · none)⟩ ∧
      (crew.cleanups changes session desk).2.launcher.pids =
        (heldPids session.entries).foldl List.erase desk.launcher.pids := by
  have same := crew.cleanups_recorded changes session desk.watched
  change crew.cleanups changes session desk = _ at same
  have stopped := crew.cleanups_stopped changes session desk.watched own (.inl begun)
  have closed := crew.cleanups_map_closed changes session desk.watched own
  rw [same] at empty ⊢
  -- An entry that is stopped and has no channel is what a cleanup without refusals makes of it.
  rw [map_closedWith_of_settled 0 stopped empty] at closed
  constructor
  · rw [← closed]
  · exact crew.cleanups_pids changes session desk.watched own (.inl begun)

end Crew

namespace Crew.Logged

variable {crew : Crew σ}

/-- What the last cleanup could not remove is left. -/
theorem left {changes : List (σ → σ)} {session : Session} {desk : Desk σ}
    {logs : List CleanupLog} (logged : crew.Logged changes session desk logs) :
    ∀ log ∈ logs.getLast?, (crew.cleanups changes session desk).1.targets = log.refused := by
  induction logged with
  | nothing session desk => exact nofun
  | @cleanup change rest session desk log logs tells later ih =>
      cases later with
      | nothing =>
          rintro last ⟨⟩
          exact tells.left
      | cleanup => exact ih

/-- Behind some of the cleanups, the others go on with what is left, and without processes. -/
theorem retried_drop {first more : List (σ → σ)} {session : Session} {desk : Desk σ}
    {logs : List CleanupLog} (logged : crew.Logged (first ++ more) session desk logs)
    {due : List Target} {pids : List Int} (retried : Retried due pids logs) (begun : first ≠ []) :
    Retried (crew.cleanups first session desk).1.targets [] (logs.drop first.length) := by
  induction first generalizing session desk logs due pids with
  | nil => exact absurd rfl begun
  | cons change rest ih =>
      cases logged with
      | @cleanup _ _ _ _ log logs tells later =>
          obtain ⟨-, -, next⟩ := retried
          cases rest with
          | nil =>
              rw [← tells.left] at next
              exact next
          | cons => exact ih later next (List.cons_ne_nil _ _)

end Crew.Logged

/-- With nothing to do, nothing is done. -/
theorem Retried.idle {logs : List CleanupLog} (retried : Retried [] [] logs) :
    ∀ log ∈ logs, log = .idle := by
  induction logs with
  | nil => exact nofun
  | cons log later ih =>
      obtain ⟨removals, letGo, next⟩ := retried
      obtain ⟨asked, released⟩ := log
      obtain rfl : asked = [] := List.map_eq_nil_iff.mp removals
      obtain rfl : released = [] := letGo
      exact List.forall_mem_cons.mpr ⟨rfl, ih next⟩

namespace Crew

/-- However often a session is cleaned up, and whichever removals the host refuses, each
cleanup returns.  The first one asks for the removal of the channel of every entry that a
helper backs, and lets go of the processes of these entries; each later one asks again for
what was refused in the one before, and lets go of nothing.  Once no channel is left, further
cleanups do nothing.  If nothing was refused in the last one, the entries and the tracked
processes are those that one single cleanup leaves that meets no refusal. -/
theorem repeated_cleanups_converge (crew : Crew σ) (session : Session) (desk : Desk σ)
    (changes : List (σ → σ))
    (own : (crew.recorded.cleanups (changes.map Recorded.drift) session
      desk.watched).2.machine.OwnRefusals) :
    let ended := crew.cleanups changes session desk
    ∃ logs, crew.Logged changes session desk logs ∧
      Retried session.targets (heldPids session.entries) logs ∧
      (∀ first more, changes = first ++ more → first ≠ [] →
        let cleaned := crew.cleanups first session desk
        cleaned.1.targets = [] →
          ended = (cleaned.1, more.foldl (fun desk change => desk.drift change) cleaned.2) ∧
            ∀ log ∈ logs.drop first.length, log = .idle) ∧
      ∀ last ∈ logs.getLast?, last.refused = [] →
        ∀ {τ : Type} (other : Crew τ) (start : Desk τ),
          start.launcher.pids = desk.launcher.pids →
          (other.recorded.cleanup session start.watched).2.2.machine.Unrefused →
            ended.1 = (other.cleanup session start).2.1 ∧
              ended.2.launcher.pids = (other.cleanup session start).2.2.launcher.pids := by
  intro ended
  obtain ⟨logs, logged, retried⟩ := crew.cleanups_logged changes session desk.watched own
  refine ⟨logs, logged, retried, ?_, ?_⟩
  · rintro first more rfl begun cleaned empty
    have ownFirst : (crew.recorded.cleanups (first.map Recorded.drift) session
        desk.watched).2.machine.OwnRefusals := by
      rw [List.map_append, cleanups_append] at own
      exact own.earlier (crew.cleanups_deeds_grow more _ _)
    have same := crew.cleanups_recorded first session desk.watched
    have stopped : Stopped cleaned.1.entries := by
      change Stopped (crew.cleanups first session desk.watched.plain).1.entries
      rw [same]
      exact crew.cleanups_stopped first session desk.watched ownFirst (.inl begun)
    constructor
    · change crew.cleanups (first ++ more) session desk = _
      rw [cleanups_append]
      exact crew.cleanups_of_settled more stopped empty cleaned.2
    · have rest := logged.retried_drop retried begun
      change Retried cleaned.1.targets [] _ at rest
      rw [empty] at rest
      exact rest.idle
  · intro last isLast unrefused τ other start samePids unhindered
    obtain ⟨single, singlePids⟩ := other.cleanup_unrefused session start unhindered
    have begun : changes ≠ [] := by
      rintro rfl
      cases logged
      cases isLast
    have empty : ended.1.targets = [] := (logged.left last isLast).trans unrefused
    obtain ⟨entries, pids⟩ := crew.cleanups_of_emptied changes session desk own begun empty
    exact ⟨entries.trans single.symm, by rw [singlePids, samePids]; exact pids⟩

/-- The removal that is refused at first succeeds when it is tried again, and the two cleanups
leave what one does on a machine that refuses nothing. -/
theorem refused_removal_tried_again :
    let crew : Crew Machine := ⟨Machine.plannedMaker, Machine.kernel⟩
    let desk : Desk Machine := ⟨⟨[(1001, ⟨1001, 0⟩)], []⟩, [], firstRemovalRefused⟩
    let start : Desk Machine := ⟨⟨[(1001, ⟨1001, 0⟩)], []⟩, [], Machine.initial "/"⟩
    let ended := crew.cleanups [id, id] halfClosedSession desk
    (crew.recorded.cleanups [Recorded.drift id, Recorded.drift id] halfClosedSession
        desk.watched).2.machine.OwnRefusals ∧
      (crew.recorded.cleanup halfClosedSession start.watched).2.2.machine.Unrefused ∧
      ∃ first second, crew.Logged [id, id] halfClosedSession desk [first, second] ∧
        first.removals.map Removal.toTarget =
          [⟨0, some "/tmp/first", none⟩, ⟨2, none, some "H1"⟩] ∧
        first.letGo = [1001] ∧
        second.removals.map Removal.toTarget = [⟨0, some "/tmp/first", none⟩] ∧
        second.letGo = [] ∧ second.refused = [] ∧
        ended.1 = (crew.cleanup halfClosedSession start).2.1 ∧
        ended.2.launcher.pids = (crew.cleanup halfClosedSession start).2.2.launcher.pids := by
  intro crew desk start ended
  have calls : (crew.recorded.cleanups [Recorded.drift id, Recorded.drift id] halfClosedSession
      desk.watched).2.machine.calls =
      [.notRemoved (some "/tmp/first") none (.host (.channel "busy" none)),
        .polled ⟨1001, 0⟩ none, .removed none (some "H1"),
        .removed (some "/tmp/first") none] := rfl
  have own : (crew.recorded.cleanups [Recorded.drift id, Recorded.drift id] halfClosedSession
      desk.watched).2.machine.OwnRefusals := by
    intro path handle fault member
    rw [calls] at member
    simp only [List.mem_cons, List.not_mem_nil, Call.notRemoved.injEq, reduceCtorEq, or_false]
      at member
    exact ⟨_, member.2.2⟩
  have singleCalls : (crew.recorded.cleanup halfClosedSession start.watched).2.2.machine.calls =
      [.removed (some "/tmp/first") none, .polled ⟨1001, 0⟩ none,
        .removed none (some "H1")] := rfl
  have unhindered : (crew.recorded.cleanup halfClosedSession
      start.watched).2.2.machine.Unrefused := by
    intro path handle fault
    rw [singleCalls]
    simp
  obtain ⟨logs, logged, retried, -, converges⟩ :=
    repeated_cleanups_converge crew halfClosedSession desk [id, id] own
  cases logged with
  | @cleanup _ _ _ _ first _ told later =>
      cases later with
      | @cleanup _ _ _ _ second _ toldAgain last =>
          have logged := Logged.cleanup told (.cleanup toldAgain last)
          cases last
          obtain ⟨asked, released, again, kept, -⟩ := retried
          have left : first.refused = [⟨0, some "/tmp/first", none⟩] := told.left.symm.trans rfl
          have removed : second.refused = [] := toldAgain.left.symm.trans rfl
          exact ⟨own, unhindered, first, second, logged, asked, released, again.trans left, kept,
            removed, converges second rfl removed crew start rfl unhindered⟩

end Crew

end ExtcapHost
