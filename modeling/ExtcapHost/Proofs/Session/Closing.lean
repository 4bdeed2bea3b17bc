/-
Module: ExtcapHost.Proofs.Session.Closing
Purpose: A cleanup closes every entry, whichever channels cannot be removed.
Main exports:
  CloseAct, Crew.Performs, Entry.closedWith, closeActs, Crew.Removes, Crew.closeEach_deeds,
  Crew.closeEach_own, Crew.closeEach_performs, Crew.cleanup_closes_every_entry
-/
import ExtcapHost.Machine.Platform
import ExtcapHost.Proofs.Channel.Removal
import ExtcapHost.Proofs.Session.Recording
import ExtcapHost.Proofs.Session.Turn

/-!
What a cleanup does is told as a list of acts, in which every removal and every release
of a process stands with what it came to.  The list is made from the entries and from
the refusals alone, and performing it is all that a cleanup does: an act that is refused
adds a warning and takes nothing from the acts behind it.
-/

namespace ExtcapHost

variable {σ : Type}

/-! ### Acts and their performance -/

/-- What a cleanup does. -/
inductive CloseAct where
  /-- A channel is removed. -/
  | removed (path handle : Option String)
  /-- A channel cannot be removed. -/
  | refused (path handle : Option String) (error : HostError)
  /-- A warning is given. -/
  | warned (text : String)
  /-- The launcher lets go of a process. -/
  | letGo (pid : Int)
deriving DecidableEq, Repr

namespace CloseAct

/-- The call to the maker of channels that an act is, if it is one. -/
def deed? : CloseAct → Option Call
  | .removed path handle => some (.removed path handle)
  | .refused path handle error => some (.notRemoved path handle (.host error))
  | .warned _ => none
  | .letGo _ => none

/-- The message that an act is, if it is one. -/
def note? : CloseAct → Option Note
  | .warned text => some ⟨.warning, text⟩
  | _ => none

end CloseAct

/-- From one desk the acts lead to another.  A removal came to what its act says, and
each act begins where the one before it has ended. -/
inductive Crew.Performs (crew : Crew σ) : List CloseAct → Desk σ → Desk σ → Prop where
  | nothing (desk : Desk σ) : Performs crew [] desk desk
  | removed {path handle : Option String} {acts : List CloseAct} {desk last : Desk σ}
      {next : σ} (call : crew.maker.release path handle desk.machine = (.ok (), next))
      (later : Performs crew acts { desk with machine := next } last) :
      Performs crew (.removed path handle :: acts) desk last
  | refused {path handle : Option String} {error : HostError} {acts : List CloseAct}
      {desk last : Desk σ} {next : σ}
      (call : crew.maker.release path handle desk.machine = (.error (.host error), next))
      (later : Performs crew acts { desk with machine := next } last) :
      Performs crew (.refused path handle error :: acts) desk last
  | warned {text : String} {acts : List CloseAct} {desk last : Desk σ}
      (later : Performs crew acts (desk.note .warning text) last) :
      Performs crew (.warned text :: acts) desk last
  | letGo {pid : Int} {tracked : Bool} {launcher : Launcher} {acts : List CloseAct}
      {desk last : Desk σ} {next : σ} (present : pid ≠ noProcess)
      (call : desk.launcher.release crew.kernel pid desk.machine = (tracked, launcher, next))
      (later : Performs crew acts { desk with launcher, machine := next } last) :
      Performs crew (.letGo pid :: acts) desk last

/-- The acts on the channel of an entry: it is removed unless that is refused. -/
def Entry.unlinkActs (entry : Entry) : Option HostError → List CloseAct
  | none => if entry.hasChannel then [.removed entry.channel entry.handle] else []
  | some error =>
      if entry.hasChannel then
        [.refused entry.channel entry.handle error, .warned (entry.remark error.text)]
      else
        []

/-- The act on the process of an entry. -/
def Entry.letGoActs (entry : Entry) : List CloseAct :=
  if entry.hasProcess then [.letGo entry.pid] else []

/-- Letting go of a process removes no channel. -/
theorem Entry.letGoActs_deeds (entry : Entry) :
    entry.letGoActs.filterMap CloseAct.deed? = [] := by
  unfold letGoActs
  split <;> rfl

/-- The acts that close the entries that a helper backs, in order. -/
def closeActs (entries : List Entry) (refusals : List (Option HostError)) : List CloseAct :=
  (entries.zip refusals).flatMap fun closing =>
    if closing.1.isBacked then closing.1.unlinkActs closing.2 ++ closing.1.letGoActs else []

/-- The entry after a cleanup.  One that the system delivers is left as it is; any other
is stopped without a process, and its channel and handle are gone unless removing them
was refused. -/
def Entry.closedWith (entry : Entry) (refusal : Option HostError) : Entry :=
  if entry.isBacked then
    { entry with
      stage := .stopped
      pid := noProcess
      channel := if refusal.isNone then none else entry.channel
      handle := if refusal.isNone then none else entry.handle }
  else
    entry

/-- A desk on a machine that nothing has reached yet. -/
def Desk.watched (desk : Desk σ) : Desk (Recorded σ) :=
  ⟨desk.launcher, desk.journal, .blank desk.machine⟩

/-- Every removal that failed did so with a failure that the host itself reports. -/
def Recorded.OwnRefusals (machine : Recorded σ) : Prop :=
  ∀ path handle fault, .notRemoved path handle fault ∈ machine.calls →
    ∃ error, fault = .host error

namespace Crew.Performs

variable {crew : Crew σ}

theorem append {front back : List CloseAct} {desk middle last : Desk σ}
    (one : crew.Performs front desk middle) (two : crew.Performs back middle last) :
    crew.Performs (front ++ back) desk last := by
  induction one with
  | nothing desk => exact two
  | removed call _ ih => exact .removed call (ih two)
  | refused call _ ih => exact .refused call (ih two)
  | warned _ ih => exact .warned (ih two)
  | letGo present call _ ih => exact .letGo present call (ih two)

/-- Acts on a recorded machine are acts on the machine. -/
theorem plain {acts : List CloseAct} {desk last : Desk (Recorded σ)}
    (performs : crew.recorded.Performs acts desk last) :
    crew.Performs acts desk.plain last.plain := by
  induction performs with
  | nothing desk => exact .nothing desk.plain
  | @removed path handle acts desk last next call _ ih =>
      rw [recorded_maker, ChannelMaker.recorded_release, Prod.mk.injEq] at call
      rw [← call.2] at ih
      exact .removed (Prod.ext call.1 rfl) ih
  | @refused path handle error acts desk last next call _ ih =>
      rw [recorded_maker, ChannelMaker.recorded_release, Prod.mk.injEq] at call
      rw [← call.2] at ih
      exact .refused (Prod.ext call.1 rfl) ih
  | warned _ ih => exact .warned ih
  | @letGo pid tracked launcher acts desk last next present call _ ih =>
      have called := Launcher.release_recorded crew.kernel desk.launcher pid desk.machine
      rw [← recorded_kernel, call] at called
      exact .letGo present called ih

/-- The deeds of the machine are the removals, in order. -/
theorem deeds {acts : List CloseAct} {desk last : Desk (Recorded σ)}
    (performs : crew.recorded.Performs acts desk last) :
    last.machine.deeds = desk.machine.deeds ++ acts.filterMap CloseAct.deed? := by
  induction performs with
  | nothing desk => rw [List.filterMap_nil, List.append_nil]
  | removed call _ ih =>
      rw [recorded_maker, ChannelMaker.recorded_release, Prod.mk.injEq] at call
      rw [ih, ← call.2, Recorded.after_deeds_of_deed _ _ _ (by rw [call.1]; rfl), call.1,
        List.filterMap_cons, List.append_assoc]
      rfl
  | refused call _ ih =>
      rw [recorded_maker, ChannelMaker.recorded_release, Prod.mk.injEq] at call
      rw [ih, ← call.2, Recorded.after_deeds_of_deed _ _ _ (by rw [call.1]; rfl), call.1,
        List.filterMap_cons, List.append_assoc]
      rfl
  | warned _ ih =>
      rw [List.filterMap_cons_none rfl, ih]
      rfl
  | @letGo pid tracked launcher acts desk last next present call _ ih =>
      have kept := (Launcher.release_books present crew.kernel desk.launcher desk.machine).1
      rw [← recorded_kernel, call] at kept
      rw [List.filterMap_cons_none rfl, ih, kept]

/-- The new messages are the warnings, in order. -/
theorem journal {acts : List CloseAct} {desk last : Desk σ}
    (performs : crew.Performs acts desk last) :
    last.journal = desk.journal ++ acts.filterMap CloseAct.note? := by
  induction performs with
  | nothing desk => rw [List.filterMap_nil, List.append_nil]
  | removed _ _ ih => rw [List.filterMap_cons_none rfl, ih]
  | refused _ _ ih => rw [List.filterMap_cons_none rfl, ih]
  | warned _ ih =>
      rw [List.filterMap_cons, ih, Desk.note, List.append_assoc]
      rfl
  | letGo _ _ _ ih => rw [List.filterMap_cons_none rfl, ih]

/-- No process is tracked that was not tracked before. -/
theorem tracked_sublist {acts : List CloseAct} {desk last : Desk (Recorded σ)}
    (performs : crew.recorded.Performs acts desk last) :
    last.launcher.tracked.Sublist desk.launcher.tracked := by
  induction performs with
  | nothing desk => exact List.Sublist.refl _
  | removed _ _ ih => exact ih
  | refused _ _ ih => exact ih
  | warned _ ih => exact ih
  | @letGo pid tracked launcher acts desk last next present call _ ih =>
      have kept := (Launcher.release_books present crew.kernel desk.launcher desk.machine).2
      rw [← recorded_kernel, call] at kept
      exact ih.trans (kept ▸ Ordered.erase_sublist pid desk.launcher.tracked)

/-- A process that was let go of is tracked no more. -/
theorem untracked {acts : List CloseAct} {desk last : Desk (Recorded σ)}
    (performs : crew.recorded.Performs acts desk last)
    (distinct : (Ordered.keys desk.launcher.tracked).Nodup) {pid : Int}
    (listed : .letGo pid ∈ acts) : pid ∉ Ordered.keys last.launcher.tracked := by
  induction performs with
  | nothing desk => cases listed
  | removed _ _ ih => exact ih distinct ((List.mem_cons.mp listed).resolve_left nofun)
  | refused _ _ ih => exact ih distinct ((List.mem_cons.mp listed).resolve_left nofun)
  | warned _ ih => exact ih distinct ((List.mem_cons.mp listed).resolve_left nofun)
  | @letGo first tracked launcher acts desk last next present call later ih =>
      have kept := (Launcher.release_books present crew.kernel desk.launcher desk.machine).2
      rw [← recorded_kernel, call] at kept
      rcases List.mem_cons.mp listed with here | behind
      · cases here
        have gone : pid ∉ Ordered.keys launcher.tracked := by
          rw [← Ordered.get?_eq_none_iff, kept]
          exact Ordered.get?_erase_self distinct pid
        exact fun present => gone ((later.tracked_sublist.map _).subset present)
      · refine ih ?_ behind
        rw [kept]
        exact Ordered.nodup_keys_erase distinct first

end Crew.Performs

namespace Entry

theorem closedWith_of_native {entry : Entry} (native : entry.isBacked = false)
    (refusal : Option HostError) : entry.closedWith refusal = entry := by
  rw [closedWith, native, if_neg Bool.false_ne_true]

theorem closedWith_of_removed {entry : Entry} (backed : entry.isBacked = true) :
    entry.closedWith none = entry.unlinked.closed := by
  rw [closedWith, if_pos backed]
  rfl

theorem closedWith_of_refused {entry : Entry} (backed : entry.isBacked = true)
    (error : HostError) : entry.closedWith (some error) = entry.closed := by
  rw [closedWith, if_pos backed]
  rfl

/-- Removing nothing changes nothing. -/
theorem closedWith_of_bare {entry : Entry} (backed : entry.isBacked = true)
    (bare : entry.hasChannel = false) : entry.closedWith none = entry.closed := by
  have nothing : entry.channel = none ∧ entry.handle = none := by
    simpa [hasChannel] using bare
  rw [closedWith_of_removed backed, unlinked, closed, closed, nothing.1, nothing.2]

end Entry

namespace Crew

variable (crew : Crew σ)

/-- A call that hands a channel over to the maker, with what the maker says to that. -/
def Removes (call : Call) : Prop :=
  ∃ path handle machine, call = .ofRemoval path handle (crew.maker.release path handle machine).1

/-- Letting go of the process of an entry is the act for it, if there is one. -/
theorem letGo_performs (entry : Entry) (desk : Desk σ) :
    crew.Performs entry.letGoActs desk (crew.letGo entry.pid desk) := by
  by_cases absent : entry.pid = noProcess
  · have none : entry.hasProcess = false := by simp [Entry.hasProcess, absent]
    rw [Entry.letGoActs, none, absent, letGo_noProcess]
    exact .nothing desk
  · have some : entry.hasProcess = true := by simp [Entry.hasProcess, absent]
    rcases released : desk.launcher.release crew.kernel entry.pid desk.machine with
      ⟨tracked, launcher, next⟩
    rw [Entry.letGoActs, some, letGo_of_release absent released]
    exact .letGo absent released (.nothing _)

/-- Removing the channel of an entry ends in a fault that is not the host's own, or it is
performed, and the entry can be closed. -/
theorem unlink_performs {entry : Entry} (backed : entry.isBacked = true)
    (desk : Desk (Recorded σ)) :
    (∃ fault later, crew.recorded.unlink entry desk = (.error fault, later) ∧
        (∀ error, fault ≠ .host error) ∧
        .notRemoved entry.channel entry.handle fault ∈ later.machine.calls) ∨
      ∃ refusal unlinked later, crew.recorded.unlink entry desk = (.ok unlinked, later) ∧
        unlinked.closed = entry.closedWith refusal ∧
        crew.recorded.Performs (entry.unlinkActs refusal) desk later := by
  cases has : entry.hasChannel with
  | false =>
      right
      refine ⟨none, entry, desk, unlink_of_bare has, ?_, ?_⟩
      · exact (Entry.closedWith_of_bare backed has).symm
      · rw [Entry.unlinkActs, has]
        exact .nothing desk
  | true =>
      rcases removed : crew.recorded.maker.release entry.channel entry.handle desk.machine with
        ⟨outcome, next⟩
      cases outcome with
      | ok _ =>
          right
          refine ⟨none, entry.unlinked, _, unlink_of_removed has removed, ?_, ?_⟩
          · exact (Entry.closedWith_of_removed backed).symm
          · rw [Entry.unlinkActs, has]
            exact .removed removed (.nothing _)
      | error fault =>
          rcases fault.foreign_or_own with foreign | ⟨error, rfl⟩
          · left
            refine ⟨fault, _, unlink_of_failed has foreign removed, foreign, ?_⟩
            rw [recorded_maker, ChannelMaker.recorded_release, Prod.mk.injEq] at removed
            rw [← removed.2, removed.1, Recorded.after_calls]
            exact List.mem_append_right _ (.head _)
          · right
            refine ⟨some error, entry, _, unlink_of_refused has removed, ?_, ?_⟩
            · exact (Entry.closedWith_of_refused backed error).symm
            · rw [Entry.unlinkActs, has]
              exact .refused removed (.warned (.nothing _))

/-- All that is done to remove the channel of an entry is to hand it over, and without a
channel nothing is done. -/
theorem unlink_deeds (entry : Entry) (desk : Desk (Recorded σ)) :
    ∃ removals, (crew.recorded.unlink entry desk).2.machine.deeds =
        desk.machine.deeds ++ removals ∧
      ∀ call ∈ removals, crew.Removes call ∧ entry.hasChannel = true := by
  cases has : entry.hasChannel with
  | false =>
      rw [unlink_of_bare has]
      exact ⟨[], (List.append_nil _).symm, nofun⟩
  | true =>
      rcases removed : crew.maker.release entry.channel entry.handle desk.machine.machine with
        ⟨outcome, next⟩
      have removedToo : crew.recorded.maker.release entry.channel entry.handle desk.machine =
          (outcome, desk.machine.after next (.ofRemoval entry.channel entry.handle outcome)) := by
        rw [recorded_maker, ChannelMaker.recorded_release, removed]
      have deeds := desk.machine.after_deeds_of_deed next
        (.ofRemoval entry.channel entry.handle outcome) (by cases outcome <;> rfl)
      refine ⟨[.ofRemoval entry.channel entry.handle outcome], ?_, ?_⟩
      · cases outcome with
        | ok _ =>
            rw [unlink_of_removed has removedToo]
            exact deeds
        | error fault =>
            rcases fault.foreign_or_own with foreign | ⟨error, rfl⟩
            · rw [unlink_of_failed has foreign removedToo]
              exact deeds
            · rw [unlink_of_refused has removedToo]
              exact deeds
      · intro call member
        rw [List.mem_singleton.mp member]
        exact ⟨⟨entry.channel, entry.handle, desk.machine.machine, by rw [removed]⟩, rfl⟩

/-- All that a cleanup does is to hand over the channels that are recorded. -/
theorem closeEach_deeds (entries : List Entry) (desk : Desk (Recorded σ)) :
    ∃ removals, (crew.recorded.closeEach entries desk).desk.machine.deeds =
        desk.machine.deeds ++ removals ∧
      ∀ call ∈ removals, crew.Removes call ∧ ∃ entry ∈ entries, entry.hasChannel = true := by
  induction entries generalizing desk with
  | nil => exact ⟨[], (List.append_nil _).symm, nofun⟩
  | cons entry rest ih =>
      cases backed : entry.isBacked with
      | false =>
          obtain ⟨removals, deeds, only⟩ := ih desk
          rw [closeEach_of_native backed]
          refine ⟨removals, deeds, fun call member => ?_⟩
          obtain ⟨removal, other, among, has⟩ := only call member
          exact ⟨removal, other, .tail _ among, has⟩
      | true =>
          obtain ⟨first, deeds, only⟩ := crew.unlink_deeds entry desk
          rcases done : crew.recorded.unlink entry desk with ⟨result, later⟩
          rw [done] at deeds
          cases result with
          | error fault =>
              rw [closeEach_of_stuck backed done]
              refine ⟨first, deeds, fun call member => ?_⟩
              exact ⟨(only call member).1, entry, .head _, (only call member).2⟩
          | ok unlinked =>
              rw [closeEach_of_unlinked backed done]
              obtain ⟨others, more, onlyToo⟩ := ih (crew.recorded.letGo entry.pid later)
              have released : (crew.recorded.letGo entry.pid later).machine.deeds =
                  later.machine.deeds := by
                have books := congrArg Books.deeds (crew.letGo_books entry.pid later)
                rwa [Books.letGo_deeds] at books
              refine ⟨first ++ others, ?_, fun call member => ?_⟩
              · rw [released, deeds, List.append_assoc] at more
                exact more
              · rcases List.mem_append.mp member with here | behind
                · exact ⟨(only call here).1, entry, .head _, (only call here).2⟩
                · obtain ⟨removal, other, among, has⟩ := onlyToo call behind
                  exact ⟨removal, other, .tail _ among, has⟩

/-- Where the maker refuses removals with failures of the host, so does a cleanup. -/
theorem closeEach_own (refuses : crew.maker.RefusesOwn) (entries : List Entry)
    {desk : Desk (Recorded σ)} (own : desk.machine.OwnRefusals) :
    (crew.recorded.closeEach entries desk).desk.machine.OwnRefusals := by
  obtain ⟨removals, deeds, only⟩ := crew.closeEach_deeds entries desk
  intro path handle fault failed
  have deed : .notRemoved path handle fault ∈ desk.machine.deeds ++ removals := by
    rw [← deeds]
    exact List.mem_filter.mpr ⟨failed, rfl⟩
  rcases List.mem_append.mp deed with before | here
  · exact own path handle fault (List.mem_filter.mp before).1
  · obtain ⟨⟨path, handle, machine, told⟩, -⟩ := only _ here
    rcases answer : crew.maker.release path handle machine with ⟨outcome, next⟩
    rw [answer] at told
    cases outcome with
    | ok _ => cases told
    | error cause =>
        cases told
        exact refuses answer

/-- Closing the entries performs the acts that close each of them. -/
theorem closeEach_performs (entries : List Entry) (desk : Desk (Recorded σ))
    (own : (crew.recorded.closeEach entries desk).desk.machine.OwnRefusals) :
    ∃ refusals : List (Option HostError), refusals.length = entries.length ∧
      (crew.recorded.closeEach entries desk).result = .ok () ∧
      (crew.recorded.closeEach entries desk).entries =
        List.zipWith Entry.closedWith entries refusals ∧
      crew.recorded.Performs (closeActs entries refusals) desk
        (crew.recorded.closeEach entries desk).desk := by
  induction entries generalizing desk with
  | nil => exact ⟨[], rfl, rfl, rfl, .nothing desk⟩
  | cons entry rest ih =>
      cases backed : entry.isBacked with
      | false =>
          rw [closeEach_of_native backed] at own ⊢
          obtain ⟨refusals, length, result, closed, performs⟩ := ih desk own
          refine ⟨none :: refusals, by simp [length], result, ?_, ?_⟩
          · rw [List.zipWith_cons_cons, Entry.closedWith_of_native backed, ← closed]
            rfl
          · rw [closeActs, List.zip_cons_cons, List.flatMap_cons, if_neg (by simp [backed])]
            exact performs
      | true =>
          rcases unlink_performs crew backed desk with
            ⟨fault, later, stuck, foreign, recorded⟩ |
              ⟨refusal, unlinked, later, done, closing, acts⟩
          · rw [closeEach_of_stuck backed stuck] at own
            obtain ⟨error, same⟩ := own _ _ _ recorded
            exact absurd same (foreign error)
          · rw [closeEach_of_unlinked backed done] at own ⊢
            obtain ⟨refusals, length, result, closed, performs⟩ := ih _ own
            refine ⟨refusal :: refusals, by simp [length], result, ?_, ?_⟩
            · rw [List.zipWith_cons_cons, ← closing, ← closed]
              rfl
            · rw [closeActs, List.zip_cons_cons, List.flatMap_cons, if_pos backed]
              exact (acts.append (letGo_performs crew.recorded entry later)).append performs

/-- The processes of all entries that a helper backs are let go of. -/
theorem letGo_mem_closeActs {entries : List Entry} {refusals : List (Option HostError)}
    (length : refusals.length = entries.length) {entry : Entry} (member : entry ∈ entries)
    (backed : entry.isBacked = true) (process : entry.hasProcess = true) :
    .letGo entry.pid ∈ closeActs entries refusals := by
  obtain ⟨index, inside, there⟩ := List.mem_iff_getElem.mp member
  have paired : (entry, refusals[index]) ∈ entries.zip refusals := by
    refine List.mem_iff_getElem.mpr ⟨index, by simpa [length] using inside, ?_⟩
    rw [List.getElem_zip, there]
  refine List.mem_flatMap.mpr ⟨_, paired, ?_⟩
  rw [if_pos backed, Entry.letGoActs, if_pos process]
  exact List.mem_append_right _ (.head _)

/-- Whatever the entries of a session are like, and whichever removals are refused by the
host, a cleanup returns.  For each entry that a helper backs, in order, it removes the
channel once if there is one, warns once if that is refused, and lets go of the process
once if there is one; it does nothing else.  Afterwards these entries are stopped and have
no process, and their channels are gone unless they could not be removed; the other
entries are as they were; and no process that was let go of is tracked. -/
theorem cleanup_closes_every_entry (session : Session) (desk : Desk σ)
    (distinct : desk.launcher.pids.Nodup)
    (own : (crew.recorded.cleanup session desk.watched).2.2.machine.OwnRefusals) :
    ∃ refusals : List (Option HostError), refusals.length = session.size ∧
      let acts := closeActs session.entries refusals
      let later := (crew.recorded.cleanup session desk.watched).2.2
      crew.cleanup session desk =
          (.ok (), ⟨List.zipWith Entry.closedWith session.entries refusals⟩, later.plain) ∧
        crew.Performs acts desk later.plain ∧
        later.machine.deeds = acts.filterMap CloseAct.deed? ∧
        later.journal = desk.journal ++ acts.filterMap CloseAct.note? ∧
        ∀ entry ∈ session.entries, entry.isBacked = true → entry.hasProcess = true →
          entry.pid ∉ later.launcher.pids := by
  obtain ⟨refusals, length, result, closed, performs⟩ :=
    closeEach_performs crew session.entries desk.watched own
  refine ⟨refusals, length, ?_, performs.plain, performs.deeds, performs.journal, ?_⟩
  · rw [← closed, ← result]
    exact cleanup_recorded crew session desk.watched
  · intro entry member backed process
    exact performs.untracked distinct (letGo_mem_closeActs length member backed process)

/-- A machine on which the first removal of a channel is refused. -/
def firstRemovalRefused : Machine :=
  { Machine.initial "/" with releasePlan := [some (.host (.channel "busy" none))] }

/-- An entry whose process runs, one that the system delivers, and a stopped one of which
only the handle was left. -/
def halfClosedSession : Session where
  entries :=
    [{ name := "wlan0", source := .helper, helper := some "/extcap/monitor",
       channel := some "/tmp/first", handle := none, pid := 1001, arguments := [],
       stage := .running, helperNamed := by decide },
      .native "lo",
      { name := "wlan1", source := .helper, helper := some "/extcap/monitor",
        channel := none, handle := some "H1", pid := noProcess, arguments := [],
        stage := .stopped, helperNamed := by decide }]

/-- The entry behind the one that keeps its channel loses its handle, and there is one
warning. -/
theorem refused_removal_spares_later_entry :
    let crew : Crew Machine := ⟨Machine.plannedMaker, Machine.kernel⟩
    let desk : Desk Machine := ⟨⟨[(1001, ⟨1001, 0⟩)], []⟩, [], firstRemovalRefused⟩
    let ended := crew.recorded.cleanup halfClosedSession desk.watched
    desk.launcher.pids.Nodup ∧ ended.2.2.machine.OwnRefusals ∧
      (ended.2.1.entries.map fun entry => (entry.channel, entry.handle)) =
        [(some "/tmp/first", none), (none, none), (none, none)] ∧
      ∃ refusals : List (Option HostError), refusals.length = 3 ∧
        crew.Performs (closeActs halfClosedSession.entries refusals) desk ended.2.2.plain ∧
        ((closeActs halfClosedSession.entries refusals).filterMap CloseAct.note?).length = 1 := by
  intro crew desk ended
  have distinct : desk.launcher.pids.Nodup := by decide
  have calls : ended.2.2.machine.calls =
      [.notRemoved (some "/tmp/first") none (.host (.channel "busy" none)),
        .polled ⟨1001, 0⟩ none, .removed none (some "H1")] := rfl
  have own : ended.2.2.machine.OwnRefusals := by
    intro path handle fault member
    rw [calls] at member
    simp only [List.mem_cons, List.not_mem_nil, Call.notRemoved.injEq, reduceCtorEq, or_false]
      at member
    exact ⟨_, member.2.2⟩
  obtain ⟨refusals, length, -, performs, -, journal, -⟩ :=
    cleanup_closes_every_entry crew halfClosedSession desk distinct own
  have notes : ended.2.2.journal = [⟨.warning, "Extcap [wlan0] - busy"⟩] := rfl
  rw [notes, List.nil_append] at journal
  refine ⟨distinct, own, rfl, refusals, length, performs, ?_⟩
  rw [← journal]
  rfl

end Crew

end ExtcapHost
