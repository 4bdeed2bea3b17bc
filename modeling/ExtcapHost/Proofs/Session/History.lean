/-
Module: ExtcapHost.Proofs.Session.History
Purpose: Entries only go forward, and each is started once at most.
Main exports:
  Entry.Becomes, Turn.becomes, Traced, Traced.run, Hall.place?, Hall.deedsFor,
  Hall.entries_go_forward
-/
import ExtcapHost.Machine.Platform
import ExtcapHost.Proofs.Session.Attribution
import ExtcapHost.Proofs.Session.Lifecycle
import ExtcapHost.Proofs.Session.Recording

/-!
A start takes up the entries that wait and no others, and an entry that was taken up never
waits again.  So whether an entry waits is an account of one: each channel made for it and
each command started for it is paid from it, and nothing ever pays in.
-/

namespace ExtcapHost

variable {σ : Type}

namespace Call

/-- A channel was made. -/
def isMade : Call → Bool
  | .made _ => true
  | _ => false

/-- A command was to be started, whatever came of it. -/
def isLaunch : Call → Bool
  | .started _ _ => true
  | .notStarted _ _ => true
  | _ => false

end Call

/-- How often an entry may still be started. -/
def Entry.openings (entry : Entry) : Nat :=
  if entry.waiting then 1 else 0

/-- What can become of an entry, with the deeds that are done for it on the way. -/
structure Entry.Becomes (entry : Entry) (deeds : List Call) (next : Entry) : Prop where
  name : next.name = entry.name
  source : next.source = entry.source
  helper : next.helper = entry.helper
  arguments : next.arguments = entry.arguments
  forward : entry.stage.rank ≤ next.stage.rank
  /-- Each channel that is made for it uses up an opening. -/
  made : deeds.countP Call.isMade + next.openings ≤ entry.openings
  /-- So does each command that is started for it. -/
  launched : deeds.countP Call.isLaunch + next.openings ≤ entry.openings
  /-- Once it is stopped it can only lose its channel. -/
  stopped : entry.stage = .stopped →
    next.channel = entry.channel ∧ next.handle = entry.handle ∨
      next.channel = none ∧ next.handle = none
  /-- Nothing is ever done for an interface of the system. -/
  native : entry.source = .native → next = entry ∧ deeds = []

namespace Entry

theorem openings_of_waiting {entry : Entry} (waiting : entry.waiting = true) :
    entry.openings = 1 := by
  simp [openings, waiting]

theorem openings_le_one (entry : Entry) : entry.openings ≤ 1 := by
  unfold openings
  split <;> omega

/-- A stopped entry has no openings, and neither has any other that does not wait. -/
theorem openings_of_stage {entry : Entry} (started : entry.stage ≠ .configured) :
    entry.openings = 0 := by
  simp [openings, waiting, started]

/-- A stage that nothing lies behind is the last one. -/
theorem stopped_of_forward {entry next : Entry} (stopped : entry.stage = .stopped)
    (forward : entry.stage.rank ≤ next.stage.rank) : next.stage = .stopped := by
  rw [stopped] at forward
  cases stage : next.stage with
  | stopped => rfl
  | _ =>
      rw [stage] at forward
      exact absurd forward (by decide)

namespace Becomes

variable {entry next last : Entry} {deeds first second : List Call}

theorem refl (entry : Entry) : entry.Becomes [] entry where
  name := rfl
  source := rfl
  helper := rfl
  arguments := rfl
  forward := Nat.le_refl _
  made := by simp
  launched := by simp
  stopped _ := .inl ⟨rfl, rfl⟩
  native _ := ⟨rfl, rfl⟩

theorem trans (one : entry.Becomes first next) (two : next.Becomes second last) :
    entry.Becomes (first ++ second) last where
  name := two.name.trans one.name
  source := two.source.trans one.source
  helper := two.helper.trans one.helper
  arguments := two.arguments.trans one.arguments
  forward := Nat.le_trans one.forward two.forward
  made := by
    have before := one.made
    have after := two.made
    rw [List.countP_append]
    omega
  launched := by
    have before := one.launched
    have after := two.launched
    rw [List.countP_append]
    omega
  stopped stage := by
    rcases two.stopped (stopped_of_forward stage one.forward) with ⟨channel, handle⟩ | gone
    · rw [channel, handle]
      exact one.stopped stage
    · exact .inr gone
  native stage := by
    obtain ⟨rfl, nothing⟩ := one.native stage
    obtain ⟨same, nothingMore⟩ := two.native stage
    exact ⟨same, by rw [nothing, nothingMore]; rfl⟩

/-- An entry that a helper backs may be tried in vain. -/
theorem ofFailure (backed : entry.isBacked = true) (made : deeds.countP Call.isMade = 0)
    (launched : deeds.countP Call.isLaunch = 0) : entry.Becomes deeds entry where
  name := rfl
  source := rfl
  helper := rfl
  arguments := rfl
  forward := Nat.le_refl _
  made := by omega
  launched := by omega
  stopped _ := .inl ⟨rfl, rfl⟩
  native native := absurd native (source_ne_native backed)

/-- A waiting entry that is given a channel, and for which a command is started once, waits
no more. -/
theorem ofStarting (waiting : entry.waiting = true)
    (made : deeds.countP Call.isMade = 1) (launched : deeds.countP Call.isLaunch = 1)
    (options : next.name = entry.name ∧ next.source = entry.source ∧
      next.helper = entry.helper ∧ next.arguments = entry.arguments)
    (started : next.stage ≠ .configured) : entry.Becomes deeds next where
  name := options.1
  source := options.2.1
  helper := options.2.2.1
  arguments := options.2.2.2
  forward := by
    rw [(waiting_iff.mp waiting).2]
    exact Nat.zero_le _
  made := by
    have before := openings_of_waiting waiting
    have after := openings_of_stage started
    omega
  launched := by
    have before := openings_of_waiting waiting
    have after := openings_of_stage started
    omega
  stopped stage := by
    rw [(waiting_iff.mp waiting).2] at stage
    cases stage
  native native := absurd native (source_ne_native (waiting_iff.mp waiting).1)

theorem ofPromotion (entry : Entry) : entry.Becomes [] entry.promoted := by
  unfold promoted
  split
  · rename_i started
    obtain ⟨backed, stage, -⟩ := started
    constructor
    · rfl
    · rfl
    · rfl
    · rfl
    · rw [stage]
      exact Nat.le_succ 2
    · rw [openings_of_stage (by rintro ⟨⟩)]
      exact Nat.zero_le _
    · rw [openings_of_stage (by rintro ⟨⟩)]
      exact Nat.zero_le _
    · intro stopped
      rw [stage] at stopped
      cases stopped
    · intro native
      exact absurd native (source_ne_native backed)
  · exact refl entry

/-- An entry is closed, with its channel or without it. -/
theorem ofClosing (backed : entry.isBacked = true)
    (options : next.name = entry.name ∧ next.source = entry.source ∧
      next.helper = entry.helper ∧ next.arguments = entry.arguments)
    (closed : next.stage = .stopped)
    (channel : next.channel = entry.channel ∧ next.handle = entry.handle ∨
      next.channel = none ∧ next.handle = none)
    (made : deeds.countP Call.isMade = 0) (launched : deeds.countP Call.isLaunch = 0) :
    entry.Becomes deeds next where
  name := options.1
  source := options.2.1
  helper := options.2.2.1
  arguments := options.2.2.2
  forward := by
    rw [closed]
    cases entry.stage <;> decide
  made := by
    rw [openings_of_stage (by rw [closed]; nofun), made]
    exact Nat.zero_le _
  launched := by
    rw [openings_of_stage (by rw [closed]; nofun), launched]
    exact Nat.zero_le _
  stopped _ := channel
  native native := absurd native (source_ne_native backed)

/-- For a stopped entry nothing is started any more. -/
theorem idle_of_stopped (becomes : entry.Becomes deeds next) (stopped : entry.stage = .stopped) :
    next.stage = .stopped ∧ deeds.countP Call.isMade = 0 ∧
      deeds.countP Call.isLaunch = 0 := by
  have none : entry.openings = 0 := openings_of_stage (by rw [stopped]; nofun)
  have made := becomes.made
  have launched := becomes.launched
  exact ⟨stopped_of_forward stopped becomes.forward, by omega, by omega⟩

end Becomes

end Entry

/-- An entry becomes in its turn what it can become. -/
theorem Turn.becomes {entry next : Entry} {books last : Books}
    (turn : Turn entry books next last) :
    ∃ deeds, last.deeds = books.deeds ++ deeds ∧ entry.Becomes deeds next := by
  cases turn with
  | refused waiting fault =>
      exact ⟨_, rfl, .ofFailure (Entry.waiting_iff.mp waiting).1 rfl rfl⟩
  | stranded waiting channel fault =>
      exact ⟨_, rfl, .ofStarting waiting rfl rfl ⟨rfl, rfl, rfl, rfl⟩ nofun⟩
  | unmanned waiting channel fault =>
      exact ⟨_, rfl, .ofStarting waiting rfl rfl ⟨rfl, rfl, rfl, rfl⟩ nofun⟩
  | manned waiting channel child =>
      exact ⟨_, rfl, .ofStarting waiting rfl rfl ⟨rfl, rfl, rfl, rfl⟩ nofun⟩
  | promoted => exact ⟨[], (List.append_nil _).symm, .ofPromotion entry⟩
  | stuck backed has fault => exact ⟨_, rfl, .ofFailure backed rfl rfl⟩
  | retained backed has fault =>
      exact ⟨_, Books.letGo_deeds _ _,
        .ofClosing backed ⟨rfl, rfl, rfl, rfl⟩ rfl (.inl ⟨rfl, rfl⟩) rfl rfl⟩
  | cleared backed has =>
      exact ⟨_, Books.letGo_deeds _ _,
        .ofClosing backed ⟨rfl, rfl, rfl, rfl⟩ rfl (.inr ⟨rfl, rfl⟩) rfl rfl⟩
  | bare backed hasNot =>
      exact ⟨[], by rw [Books.letGo_deeds, List.append_nil],
        .ofClosing backed ⟨rfl, rfl, rfl, rfl⟩ rfl (.inl ⟨rfl, rfl⟩) rfl rfl⟩

/-- A relation between an entry, the deeds that are done for it, and what has become of it
then.  Every turn keeps to it, and turns may follow each other. -/
structure Traced (relates : Entry → List Call → Entry → Prop) : Prop where
  refl : ∀ entry, relates entry [] entry
  trans : ∀ {entry next last first second}, relates entry first next →
    relates next second last → relates entry (first ++ second) last
  turn : ∀ {entry next books last}, Turn entry books next last →
    ∃ deeds, last.deeds = books.deeds ++ deeds ∧ relates entry deeds next

/-- What an entry can become is such a relation. -/
theorem Entry.Becomes.traced : Traced Entry.Becomes where
  refl := .refl
  trans := .trans
  turn := Turn.becomes

namespace Traced

variable {relates : Entry → List Call → Entry → Prop}

/-- A round of an entry of its own keeps to the relation. -/
theorem round (traced : Traced relates) {entry next : Entry} {books last : Books}
    (round : Round [entry] books [next] last) :
    ∃ deeds, last.deeds = books.deeds ++ deeds ∧ relates entry deeds next := by
  have kept := Round.keeps
    (fun entries now => ∃ other deeds, entries = [other] ∧
      now.deeds = books.deeds ++ deeds ∧ relates entry deeds other)
    (by
      rintro before after moved changed now later turn ⟨other, deeds, alone, done, related⟩
      obtain ⟨rfl, rfl, rfl⟩ : before = [] ∧ after = [] ∧ moved = other := by
        simpa [List.append_eq_cons_iff, and_comm, and_assoc] using alone
      obtain ⟨more, doneMore, relatedMore⟩ := traced.turn turn
      refine ⟨changed, deeds ++ more, rfl, ?_, traced.trans related relatedMore⟩
      rw [doneMore, done, List.append_assoc])
    round ⟨entry, [], rfl, (List.append_nil _).symm, traced.refl entry⟩
  obtain ⟨other, deeds, alone, done, related⟩ := kept
  cases alone
  exact ⟨deeds, done, related⟩

/-- A move relates an entry to what becomes of it, by the deeds that are done for it. -/
theorem serve (traced : Traced relates) (crew : Crew σ) {session : Session} {index : Nat}
    {entry : Entry} (present : session.entries[index]? = some entry) (desk : Desk (Recorded σ))
    (move : Move σ) :
    ∃ next, (crew.recorded.serve session desk move.recorded).1.entries[index]? = some next ∧
      relates entry (crew.deedsFor session desk move index) next := by
  obtain ⟨next, books, last, place, round, before, after⟩ := crew.serve_round present desk move
  obtain ⟨deeds, done, related⟩ := traced.round round
  have same : crew.deedsFor session desk move index = deeds := by
    rw [before, after, Crew.deedsUpTo_succ] at done
    exact List.append_cancel_left done
  exact ⟨next, place, by rw [same]; exact related⟩

end Traced

namespace Hall

/-- The entry of an index in the session of a number. -/
def place? (hall : Hall σ) (number index : Nat) : Option Entry :=
  hall.sessions[number]?.bind fun session => session.entries[index]?

/-- What is done in a move for the entry of an index in the session of a number. -/
def deedsOf (crew : Crew σ) (number index : Nat) (hall : Hall (Recorded σ))
    (move : Nat × Move σ) : List Call :=
  if move.1 = number then
    match hall.sessions[number]? with
    | some session => crew.deedsFor session hall.desk move.2 index
    | none => []
  else
    []

/-- What is done in a run for the entry of an index in the session of a number. -/
def deedsFor (crew : Crew σ) (number index : Nat) : Hall (Recorded σ) →
    List (Nat × Move σ) → List Call
  | _, [] => []
  | hall, move :: rest =>
      deedsOf crew number index hall move ++
        deedsFor crew number index (hall.step crew.recorded move.1 move.2.recorded) rest

end Hall

namespace Traced

variable {relates : Entry → List Call → Entry → Prop} (traced : Traced relates) (crew : Crew σ)
  {number index : Nat} {hall : Hall (Recorded σ)} {entry : Entry}

include traced

theorem step (present : hall.place? number index = some entry) (move : Nat × Move σ) :
    ∃ next, (hall.step crew.recorded move.1 move.2.recorded).place? number index = some next ∧
      relates entry (Hall.deedsOf crew number index hall move) next := by
  obtain ⟨session, found, place⟩ := Option.bind_eq_some_iff.mp present
  obtain ⟨served, move⟩ := move
  by_cases same : served = number
  · subst same
    obtain ⟨next, there, related⟩ := traced.serve crew place hall.desk move
    refine ⟨next, ?_, ?_⟩
    · have inside := (List.getElem?_eq_some_iff.mp found).1
      simp only [Hall.step, found, Hall.place?, List.getElem?_set_self inside, Option.bind_some]
      exact there
    · simp only [Hall.deedsOf, found, if_true]
      exact related
  · refine ⟨entry, ?_, ?_⟩
    · simp only [Hall.step]
      cases hall.sessions[served]? with
      | none => exact present
      | some other =>
          simp only [Hall.place?, List.getElem?_set_ne same]
          exact present
    · rw [Hall.deedsOf, if_neg same]
      exact traced.refl entry

/-- A run relates an entry to what becomes of it, by the deeds that are done for it. -/
theorem run (present : hall.place? number index = some entry) (moves : List (Nat × Move σ)) :
    ∃ next,
      (hall.run crew.recorded (Hall.recordedMoves moves)).place? number index = some next ∧
        relates entry (Hall.deedsFor crew number index hall moves) next := by
  induction moves generalizing hall entry with
  | nil => exact ⟨entry, present, traced.refl entry⟩
  | cons move rest ih =>
      obtain ⟨between, there, related⟩ := traced.step crew present move
      obtain ⟨next, last, relatedMore⟩ := ih there
      exact ⟨next, last, traced.trans related relatedMore⟩

end Traced

namespace Hall

section

variable (crew : Crew σ) {number index : Nat}

/-- For an entry that is not there yet, nothing is done. -/
theorem deedsOf_of_absent {hall : Hall (Recorded σ)} (absent : hall.place? number index = none)
    (move : Nat × Move σ) : deedsOf crew number index hall move = [] := by
  unfold deedsOf
  split
  · split
    · rename_i session found
      rw [place?, found, Option.bind_some] at absent
      exact crew.deedsFor_of_absent absent hall.desk move.2
    · rfl
  · rfl

/-- An entry that is added in a run is started once at most. -/
theorem run_starts_once {hall : Hall (Recorded σ)} (absent : hall.place? number index = none)
    (moves : List (Nat × Move σ)) :
    (deedsFor crew number index hall moves).countP Call.isMade ≤ 1 ∧
      (deedsFor crew number index hall moves).countP Call.isLaunch ≤ 1 := by
  induction moves generalizing hall with
  | nil => exact ⟨Nat.zero_le _, Nat.zero_le _⟩
  | cons move rest ih =>
      rw [deedsFor, deedsOf_of_absent crew absent, List.nil_append]
      cases present : (hall.step crew.recorded move.1 move.2.recorded).place? number index with
      | none => exact ih present
      | some entry =>
          obtain ⟨next, -, becomes⟩ := Entry.Becomes.traced.run crew present rest
          have openings := entry.openings_le_one
          have made := becomes.made
          have launched := becomes.launched
          omega

theorem run_append {τ : Type} (crew : Crew τ) (hall : Hall τ)
    (before after : List (Nat × Move τ)) :
    hall.run crew (before ++ after) = (hall.run crew before).run crew after := by
  induction before generalizing hall with
  | nil => rfl
  | cons move rest ih => exact ih _

end

theorem mem_of_place? {hall : Hall σ} {number index : Nat} {entry : Entry}
    (present : hall.place? number index = some entry) : entry ∈ hall.entries := by
  obtain ⟨session, found, place⟩ := Option.bind_eq_some_iff.mp present
  exact List.mem_flatMap.mpr
    ⟨session, List.mem_of_getElem? found, List.mem_of_getElem? place⟩

/-- From any time of a run to any later one, an entry keeps its place, its name, its kind,
its helper and its arguments, and its stage does not go back.  In the whole run one channel
at most is made for it, and one command at most is started; once it is stopped, none is, and
it has no process. -/
theorem entries_go_forward (crew : Crew σ) (count : Nat) (launcher : Launcher)
    (journal : List Note) (machine : σ) (before after : List (Nat × Move σ))
    (number index : Nat) :
    let opening := opened count ⟨launcher, journal, .blank machine⟩
    let earlier := opening.run crew.recorded (recordedMoves before)
    let later := earlier.run crew.recorded (recordedMoves after)
    let inAll := deedsFor crew number index opening (before ++ after)
    let sinceThen := deedsFor crew number index earlier after
    later.plain = (opened count ⟨launcher, journal, machine⟩).run crew (before ++ after) ∧
      inAll.countP Call.isMade ≤ 1 ∧ inAll.countP Call.isLaunch ≤ 1 ∧
      ∀ entry, earlier.place? number index = some entry →
        ∃ next, later.place? number index = some next ∧ entry.Becomes sinceThen next ∧
          (entry.stage = .stopped →
            next.pid = noProcess ∧ sinceThen.countP Call.isMade = 0 ∧
              sinceThen.countP Call.isLaunch = 0) := by
  intro opening earlier later inAll sinceThen
  have whole : opening.run crew.recorded (recordedMoves (before ++ after)) = later := by
    rw [recordedMoves, List.map_append, run_append crew.recorded]
    rfl
  have absent : opening.place? number index = none := by
    simp only [opening, place?, opened, List.getElem?_replicate]
    split <;> rfl
  obtain ⟨made, launched⟩ := run_starts_once crew absent (before ++ after)
  have nobody : ∀ entry ∈ ([] : List Entry), entry.Consistent :=
    fun entry member => absurd member List.not_mem_nil
  have consistent : ∀ entry ∈ later.entries, entry.Consistent := by
    rw [← whole]
    exact Kept.consistent.run_opened crew count launcher journal machine (before ++ after) nobody
  have plain := run_recorded crew opening (before ++ after)
  rw [whole] at plain
  refine ⟨plain.symm, made, launched, fun entry present => ?_⟩
  obtain ⟨next, place, becomes⟩ := Entry.Becomes.traced.run crew present after
  refine ⟨next, place, becomes, fun stopped => ?_⟩
  obtain ⟨stays, noChannel, noCommand⟩ := becomes.idle_of_stopped stopped
  exact ⟨(consistent next (mem_of_place? place)).stopped stays, noChannel, noCommand⟩

/-- A machine on which the one channel that can be made cannot be removed at once. -/
def oneStubbornChannel : Machine :=
  { Machine.initial "/" with
    channelPlan := [.ok ⟨"/tmp/first", none⟩]
    releasePlan := [some (.host (.channel "busy" none))] }

/-- An entry that was started and stopped, and whose channel is still there. -/
def stoppedEntry : Entry where
  name := "wlan0"
  source := .helper
  helper := some "/extcap/scanner"
  channel := some "/tmp/first"
  handle := none
  pid := noProcess
  arguments := [("--band", some "5")]
  stage := .stopped
  helperNamed := by decide

/-- The stopped entry is neither started again nor changed, until its channel is gone. -/
theorem stopped_entry_loses_channel :
    let crew : Crew Machine := ⟨Machine.plannedMaker, Machine.kernel⟩
    let earlier := (opened 1 ⟨.empty, [], .blank oneStubbornChannel⟩).run crew.recorded
      (recordedMoves [(0, .addNative "lo"),
        (0, .addBacked "wlan0" "/extcap/scanner" [("--band", some "5")]), (0, .start),
        (0, .cleanup)])
    let later := earlier.run crew.recorded
      (recordedMoves [(0, .start), (0, .cleanup), (0, .running)])
    earlier.place? 0 1 = some stoppedEntry ∧
      ∃ next, later.place? 0 1 = some next ∧ next.name = "wlan0" ∧ next.channel = none ∧
        next.stage.rank = 4 ∧ next.pid = noProcess := by
  intro crew earlier later
  have present : earlier.place? 0 1 = some stoppedEntry := rfl
  have forward := entries_go_forward crew 1 .empty [] oneStubbornChannel
    [(0, .addNative "lo"), (0, .addBacked "wlan0" "/extcap/scanner" [("--band", some "5")]),
      (0, .start), (0, .cleanup)]
    [(0, .start), (0, .cleanup), (0, .running)] 0 1
  obtain ⟨next, place, becomes, idle⟩ := forward.2.2.2 stoppedEntry present
  have gone : later.place? 0 1 = some stoppedEntry.unlinked := rfl
  have same : next = stoppedEntry.unlinked := Option.some.inj (place.symm.trans gone)
  have name : next.name = "wlan0" := becomes.name
  have pid : next.pid = noProcess := (idle rfl).1
  have channel : next.channel = none := by
    rw [same]
    rfl
  have rank : next.stage.rank = 4 := by
    rw [same]
    rfl
  exact ⟨present, next, place, name, channel, rank, pid⟩

end Hall

end ExtcapHost
