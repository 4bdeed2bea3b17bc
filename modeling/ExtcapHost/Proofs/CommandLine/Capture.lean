/-
Module: ExtcapHost.Proofs.CommandLine.Capture
Purpose: A capture leaves neither a channel nor a process behind.
Main exports:
  Configured, Entry.StartedAlone, Crew.start_alone, EndsAfter, runCapture_ends,
  capture_leaves_nothing_behind
-/
import ExtcapHost.Proofs.Channel.Removal
import ExtcapHost.Proofs.CommandLine.Recording
import ExtcapHost.Proofs.Discovery.Survey
import ExtcapHost.Proofs.Session.Closing
import ExtcapHost.Proofs.Session.Lifecycle

/-!
A capture has a session with one entry.  Whether its channel is refused, its process
does not start, a call ends in a fault, the console refuses what is to be shown, or the wait
ends by itself, by the clock or by the operator: all of these ways lead to the same cleanup.
What they leave for it is told by one relation between the entry and the books, and the
cleanup settles every case of that relation.
-/

namespace ExtcapHost

variable {σ : Type}

/-- The command has read its arguments and found a helper for its interface: this is the
session with the interface, and this is the desk. -/
inductive Configured (platform : Platform σ) (settings : Settings) (interface : String)
    (arguments : List String) (stand : Stand σ) : Session → Desk σ → Prop where
  | added {options : CaptureArguments} {found : List Discovered} {registry : Registry}
      {searched : Stand σ} {index : Nat} {session : Session} {desk : Desk σ}
      (read : OperatorArgument.readAll arguments = .ok options)
      (survey : surveyPlace platform settings.helperDirectory stand =
        (.ok found, registry, searched))
      (addition : addInterface registry .empty interface options
        ⟨.empty, searched.journal, searched.machine⟩ = (.ok (some index), session, desk)) :
      Configured platform settings interface arguments stand session desk

/-- Those who do the work for a capture. -/
def Platform.crew (platform : Platform σ) (settings : Settings) : Crew σ :=
  ⟨platformMaker platform.channels settings, platform.kernel⟩

/-- The channel is handed over to be removed. -/
def Call.isRemovalOf (channel : Channel) : Call → Bool
  | .removed path handle => path = some channel.path ∧ handle = channel.handle
  | .notRemoved path handle _ => path = some channel.path ∧ handle = channel.handle
  | _ => false

/-- The system gives no process the number that stands for none. -/
def Recorded.ProperNumbers (machine : Recorded σ) : Prop :=
  ∀ command child, .started command child ∈ machine.calls → child.pid ≠ noProcess

/-! ### Before the start -/

theorem surveyPlace_shown (platform : Platform σ) (place : Place) (stand : Stand σ) :
    (surveyPlace platform place stand).2.2.shown = stand.shown := by
  unfold surveyPlace
  split <;> rfl

/-- A new entry of a helper waits for its start. -/
theorem Entry.backed_waiting {name helper : String} {arguments : CaptureArguments}
    {entry : Entry} (made : Entry.backed name helper arguments = .ok entry) :
    entry.waiting = true := by
  obtain ⟨path, rfl⟩ := of_backed made
  rfl

namespace Configured

variable {platform : Platform σ} {settings : Settings} {interface : String}
  {arguments : List String} {stand : Stand σ} {session : Session} {desk : Desk σ}

/-- From here on the command is a course and its end. -/
theorem capture_eq (configured : Configured platform settings interface arguments stand session desk)
    (duration : Option Binary64) :
    capture platform settings interface arguments duration stand =
      finishCapture platform (platform.crew settings)
        (runCapture platform (platform.crew settings) interface duration stand.shown session
          desk) := by
  cases configured with
  | @added options found registry searched index session desk read survey addition =>
      have shown : searched.shown = stand.shown := by
        rw [← surveyPlace_shown platform settings.helperDirectory stand, survey]
      simp only [capture, read, survey, addition, shown, Platform.crew]

/-- The session has one entry, which waits for its start, and no process is tracked. -/
theorem alone (configured : Configured platform settings interface arguments stand session desk) :
    ∃ entry, session = ⟨[entry]⟩ ∧ entry.waiting = true ∧ entry.IsNew ∧
      desk.launcher = .empty := by
  cases configured with
  | @added options found registry searched index session desk read survey addition =>
      unfold addInterface at addition
      split at addition
      · cases addition
      · rename_i helper owner
        simp only [Session.addBacked] at addition
        cases made : Entry.backed interface helper options with
        | error fault =>
            rw [made] at addition
            cases addition
        | ok entry =>
            rw [made] at addition
            cases addition
            exact ⟨entry, rfl, Entry.backed_waiting made, Entry.backed_isNew made, rfl⟩

end Configured

/-! ### What a start leaves for the cleanup -/

/-- An entry that was started alone, and what is in the books then. -/
inductive Entry.StartedAlone : Entry → Books → Prop where
  /-- There is no channel. -/
  | unopened {entry : Entry} (fault : Fault) (bare : entry.hasChannel = false)
      (idle : entry.pid = noProcess) : StartedAlone entry ⟨[.notMade fault], []⟩
  /-- There is a channel and no process. -/
  | unmanned {entry : Entry} (channel : Channel) (command : List String) (fault : Fault)
      (path : entry.channel = some channel.path) (handle : entry.handle = channel.handle)
      (idle : entry.pid = noProcess) :
      StartedAlone entry ⟨[.made channel, .notStarted command fault], []⟩
  /-- There is a channel, and a process that is tracked. -/
  | manned {entry : Entry} (channel : Channel) (command : List String) (child : Child)
      (path : entry.channel = some channel.path) (handle : entry.handle = channel.handle)
      (pid : entry.pid = child.pid) :
      StartedAlone entry ⟨[.made channel, .started command child], [(child.pid, child)]⟩

/-- Counting as running changes nothing of this. -/
theorem Entry.StartedAlone.promoted {entry : Entry} {books : Books}
    (started : entry.StartedAlone books) : entry.promoted.StartedAlone books := by
  unfold Entry.promoted
  split
  · cases started with
    | unopened fault bare idle => exact .unopened fault bare idle
    | unmanned channel command fault path handle idle =>
        exact .unmanned channel command fault path handle idle
    | manned channel command child path handle pid =>
        exact .manned channel command child path handle pid
  · exact started

theorem Entry.promoted_isBacked (entry : Entry) : entry.promoted.isBacked = entry.isBacked := by
  unfold Entry.promoted
  split <;> rfl

namespace Crew

variable (crew : Crew σ) {entry : Entry} {desk : Desk (Recorded σ)}

theorem startEach_alone (waiting : entry.waiting = true) (new : entry.IsNew)
    (blank : desk.books = ⟨[], []⟩) :
    ∃ next, (crew.recorded.startEach [entry] desk).entries = [next] ∧ next.isBacked = true ∧
      next.StartedAlone (crew.recorded.startEach [entry] desk).desk.books := by
  have backed : entry.isBacked = true := (Entry.waiting_iff.mp waiting).1
  rcases made : crew.maker.create desk.machine.machine with ⟨outcome, next⟩
  have madeToo : crew.recorded.maker.create desk.machine =
      (outcome, desk.machine.after next (.ofCreation outcome)) := by
    rw [recorded_maker, ChannelMaker.recorded_create, made]
  have booked : { desk with machine := desk.machine.after next (.ofCreation outcome) }.books =
      ⟨[.ofCreation outcome], []⟩ := by
    have deeds := desk.machine.after_deeds_of_deed next (.ofCreation outcome)
      (by cases outcome <;> rfl)
    rw [Desk.books, Books.mk.injEq] at blank
    rw [Desk.books, deeds, blank.1, blank.2]
    rfl
  cases outcome with
  | error fault =>
      have bare : entry.hasChannel = false := by simp [Entry.hasChannel, new.channel, new.handle]
      have started := Entry.StartedAlone.unopened fault bare new.pid
      rcases fault.foreign_or_own with foreign | ⟨error, rfl⟩
      · rw [startEach_of_failed waiting foreign madeToo]
        exact ⟨entry, rfl, backed, booked ▸ started⟩
      · rw [startEach_of_refused waiting madeToo]
        exact ⟨entry, rfl, backed, booked ▸ started⟩
  | ok channel =>
      obtain ⟨later, launched⟩ := launch_books crew (entry.opened channel) channel
        { desk with machine := desk.machine.after next (.ofCreation (.ok channel)) }
      rw [booked] at launched
      rcases launched with ⟨child, launched, after⟩ | ⟨fault, launched | stranded, after⟩
      · rw [startEach_of_launched waiting madeToo launched]
        refine ⟨(entry.opened channel).spawned child.pid, rfl, backed, ?_⟩
        simp only [startEach, Pass.after]
        rw [after]
        exact .manned channel _ child rfl rfl rfl
      · rw [startEach_of_launched waiting madeToo launched]
        refine ⟨(entry.opened channel).spawned noProcess, rfl, backed, ?_⟩
        simp only [startEach, Pass.after]
        rw [after]
        exact .unmanned channel _ fault rfl rfl rfl
      · rw [startEach_of_stranded waiting madeToo stranded]
        refine ⟨entry.opened channel, rfl, backed, ?_⟩
        rw [after]
        exact .unmanned channel _ fault rfl rfl new.pid

/-- However the start of a lone entry ends, what it has made is recorded in the entry. -/
theorem start_alone (waiting : entry.waiting = true) (new : entry.IsNew)
    (blank : desk.books = ⟨[], []⟩) :
    ∃ next, (crew.recorded.start ⟨[entry]⟩ desk).2.1 = ⟨[next]⟩ ∧ next.isBacked = true ∧
      next.StartedAlone (crew.recorded.start ⟨[entry]⟩ desk).2.2.books := by
  obtain ⟨next, entries, backed, started⟩ := startEach_alone crew waiting new blank
  by_cases completed : (crew.recorded.startEach [entry] desk).result = .ok true
  · rw [start_of_completed completed]
    refine ⟨next.promoted, by rw [entries]; rfl, ?_, started.promoted⟩
    rw [next.promoted_isBacked, backed]
  · rw [start_of_ended completed]
    exact ⟨next, by rw [entries], backed, started⟩

end Crew

/-! ### The course leaves what the start has left -/

section

variable (platform : Platform σ) (crew : Crew σ)

/-- Watching is not seen in the books. -/
theorem watch_books (isDue : Recorded σ → Bool) (session : Session) (patience : Nat)
    (desk : Desk (Recorded σ)) :
    (watch platform.recorded crew.recorded isDue session patience desk).2.books = desk.books := by
  induction patience generalizing desk with
  | zero =>
      have kept := crew.runningEach_books session.entries desk
      rcases asked : crew.recorded.running session desk with ⟨alive, later⟩
      have same : later.books = desk.books := by rw [← kept, ← Crew.running, asked]
      cases goes : alive.isEmpty || isDue later.machine with
      | true => rw [watch_of_over asked goes, same]
      | false =>
          rw [watch_of_interrupted asked goes, ← same]
          rfl
  | succ patience ih =>
      have kept := crew.runningEach_books session.entries desk
      rcases asked : crew.recorded.running session desk with ⟨alive, later⟩
      have same : later.books = desk.books := by rw [← kept, ← Crew.running, asked]
      cases goes : alive.isEmpty || isDue later.machine with
      | true => rw [watch_of_over asked goes, same]
      | false =>
          rw [watch_of_waited asked goes, ih, ← same]
          rfl

/-- Whatever happens in a course after the start, session and books stay as the start has
left them. -/
theorem runCapture_keeps (interface : String) (duration : Option Binary64) (shown : List Display)
    (session : Session) (desk : Desk (Recorded σ)) :
    let course :=
      runCapture platform.recorded crew.recorded interface duration shown session desk
    let start := crew.recorded.start session desk
    course.session = start.2.1 ∧ course.desk.books = start.2.2.books := by
  intro course start
  rcases started : crew.recorded.start session desk with ⟨result, session', later⟩
  simp only [course, start, started]
  cases result with
  | error fault =>
      rw [runCapture_of_raised started]
      exact ⟨rfl, rfl⟩
  | ok complete =>
      cases complete with
      | false =>
          rw [runCapture_of_refused started rfl]
          exact ⟨rfl, rfl⟩
      | true =>
          rcases telling : platform.recorded.tell later.machine shown
            (session'.entries.flatMap entryDisplays) with ⟨told, said⟩
          cases told with
          | error fault =>
              rw [runCapture_of_unshown started telling]
              exact ⟨rfl, rfl⟩
          | ok _ =>
              have kept := watch_books platform crew
                (dueAfter platform.recorded later.machine duration) session'
                (platform.recorded.patience later.machine) later
              rw [runCapture_of_watched started telling rfl rfl]
              exact ⟨rfl, kept⟩

end

/-! ### How a capture ends -/

/-- How a capture ends that began with such a start: as the start says, or with the fault for
which something was refused that was to be shown after it. -/
inductive EndsAfter (refused : Fault → Prop) : Except Fault Bool → Ending → Prop where
  | raised (fault : Fault) : EndsAfter refused (.error fault) (.escaped fault)
  | incomplete : EndsAfter refused (.ok false) (.exit 1)
  | complete : EndsAfter refused (.ok true) (.exit 0)
  | untold (complete : Bool) {fault : Fault} (because : refused fault) :
      EndsAfter refused (.ok complete) (.escaped fault)

namespace EndsAfter

variable {refused : Fault → Prop} {start : Except Fault Bool} {ending : Ending}

/-- What was told before an end can only turn it into a fault. -/
theorem told {complete : Bool} (ends : EndsAfter refused (.ok complete) ending)
    {outcome : Except Fault Unit} (because : ∀ fault, outcome = .error fault → refused fault) :
    EndsAfter refused (.ok complete) (ending.after outcome) := by
  cases outcome with
  | ok _ => exact ends
  | error fault => exact .untold complete (because fault rfl)

theorem imp {weaker : Fault → Prop} (ends : EndsAfter refused start ending)
    (still : ∀ fault, refused fault → weaker fault) : EndsAfter weaker start ending := by
  cases ends with
  | raised fault => exact .raised fault
  | incomplete => exact .incomplete
  | complete => exact .complete
  | untold complete because => exact .untold complete (still _ because)

/-- A capture ends well exactly when its start was complete and no fault has escaped. -/
theorem exit_iff (ends : EndsAfter refused start ending) :
    ending = .exit 0 ↔ start = .ok true ∧ ∀ fault, ending ≠ .escaped fault := by
  cases ends with
  | raised fault => simp
  | incomplete => simp
  | complete => simp
  | untold complete because => simp

theorem of_raised {fault : Fault} (ends : EndsAfter refused (.error fault) ending) :
    ending = .escaped fault := by
  cases ends
  rfl

/-- A fault that escapes is that of the start, or it is a refusal. -/
theorem of_escaped {fault : Fault} (ends : EndsAfter refused start (.escaped fault)) :
    start = .error fault ∨ refused fault := by
  cases ends with
  | raised => exact .inl rfl
  | untold complete because => exact .inr because

end EndsAfter

section

variable (platform : Platform σ) (crew : Crew σ)

/-- The start alone says how a course ends, unless the console refuses what it is given. -/
theorem runCapture_ends (interface : String) (duration : Option Binary64) (shown : List Display)
    (session : Session) (desk : Desk σ) :
    let course := runCapture platform crew interface duration shown session desk
    EndsAfter (platform.RefusedLast course.desk.machine course.shown)
      (crew.start session desk).1 course.ending := by
  intro course
  rcases started : crew.start session desk with ⟨result, session', later⟩
  cases result with
  | error fault =>
      simp only [course, runCapture_of_raised started]
      exact .raised fault
  | ok complete =>
      cases complete with
      | false =>
          rcases telling : platform.tell later.machine shown
            [errorDisplay ("Could not create capture channel for " ++ interface)] with
            ⟨told, said⟩
          simp only [course, runCapture_of_refused started telling]
          refine EndsAfter.incomplete.told ?_
          rintro fault rfl
          exact platform.refusedLast_of_tell telling
      | true =>
          rcases telling : platform.tell later.machine shown
            (session'.entries.flatMap entryDisplays) with ⟨told, said⟩
          cases told with
          | error fault =>
              simp only [course, runCapture_of_unshown started telling]
              exact .untold true (platform.refusedLast_of_tell telling)
          | ok _ =>
              rcases watched : watch platform crew (dueAfter platform later.machine duration)
                session' (platform.patience later.machine) later with ⟨interrupted, last⟩
              rcases tellingToo : platform.tell last.machine said
                (if interrupted then [.line "[dim]Interrupted[/dim]"] else []) with
                ⟨told, saidToo⟩
              simp only [course, runCapture_of_watched started telling watched tellingToo]
              refine EndsAfter.complete.told ?_
              rintro fault rfl
              exact platform.refusedLast_of_tell tellingToo

end

/-! ### What the cleanup settles -/

/-- The cleanup of an entry hands its channel over to be removed, once. -/
theorem Entry.unlinkActs_deeds {entry : Entry} {channel : Channel}
    (path : entry.channel = some channel.path) (handle : entry.handle = channel.handle)
    (refusal : Option HostError) :
    ∃ call, (entry.unlinkActs refusal).filterMap CloseAct.deed? = [call] ∧
      (∀ other, call.isRemovalOf other = decide (channel = other)) ∧
      ∀ other, call ≠ .made other := by
  have has : entry.hasChannel = true := by simp [hasChannel, path]
  cases refusal with
  | none =>
      rw [unlinkActs, if_pos has, path, handle]
      refine ⟨_, rfl, fun other => ?_, fun other => ?_⟩
      · cases channel
        cases other
        simp [Call.isRemovalOf]
      · simp
  | some error =>
      rw [unlinkActs, if_pos has, path, handle]
      refine ⟨_, rfl, fun other => ?_, fun other => ?_⟩
      · cases channel
        cases other
        simp [Call.isRemovalOf]
      · simp

/-- Between a channel and its removal there is one call at most that is neither. -/
theorem Call.made_and_removed {made : Channel} {launch removal : Call}
    (keeps : ∀ other, launch.isRemovalOf other = false) (unmade : ∀ other, launch ≠ .made other)
    (removes : ∀ other, removal.isRemovalOf other = decide (made = other))
    (unmadeToo : ∀ other, removal ≠ .made other) (channel : Channel) :
    [.made made, launch, removal].countP (Call.isRemovalOf channel) =
        [.made made, launch, removal].count (.made channel) ∧
      [.made made, launch, removal].count (.made channel) ≤ 1 := by
  have neither : Call.isRemovalOf channel (.made made) = false := rfl
  have removals : [.made made, launch, removal].countP (Call.isRemovalOf channel) =
      if made = channel then 1 else 0 := by
    simp only [List.countP_cons, List.countP_nil, neither, keeps, removes, decide_eq_true_eq,
      Bool.false_eq_true, if_false, Nat.zero_add, Nat.add_zero]
  have makings : [.made made, launch, removal].count (.made channel) =
      if made = channel then 1 else 0 := by
    simp [List.count_cons, unmade, unmadeToo]
  rw [removals, makings]
  refine ⟨rfl, ?_⟩
  split
  · exact Nat.le_refl 1
  · exact Nat.zero_le 1

/-- The cleanup of an entry that was started alone hands over what was made, as often as
it was made. -/
theorem Entry.StartedAlone.settled {entry : Entry} {books : Books}
    (started : entry.StartedAlone books) (refusal : Option HostError) (channel : Channel) :
    let deeds := books.deeds ++
      (entry.unlinkActs refusal ++ entry.letGoActs).filterMap CloseAct.deed?
    deeds.countP (Call.isRemovalOf channel) = deeds.count (.made channel) ∧
      deeds.count (.made channel) ≤ 1 := by
  rw [List.filterMap_append, entry.letGoActs_deeds, List.append_nil]
  cases started with
  | unopened fault bare idle =>
      have nothing : (entry.unlinkActs refusal).filterMap CloseAct.deed? = [] := by
        cases refusal <;> rw [Entry.unlinkActs, bare] <;> rfl
      rw [nothing]
      exact ⟨rfl, by simp⟩
  | unmanned made command fault path handle idle =>
      obtain ⟨call, deeds, removes, other⟩ := Entry.unlinkActs_deeds path handle refusal
      rw [deeds]
      have unmade : ∀ other, Call.notStarted command fault ≠ .made other := by simp
      exact Call.made_and_removed (fun _ => rfl) unmade removes other channel
  | manned made command child path handle pid =>
      obtain ⟨call, deeds, removes, other⟩ := Entry.unlinkActs_deeds path handle refusal
      rw [deeds]
      have unmade : ∀ other, Call.started command child ≠ .made other := by simp
      exact Call.made_and_removed (fun _ => rfl) unmade removes other channel

/-- The cleanup of an entry that was started alone leaves no tracked process. -/
theorem Entry.StartedAlone.untracked {crew : Crew σ} {entry : Entry}
    {desk last : Desk (Recorded σ)} (started : entry.StartedAlone desk.books)
    {refusal : Option HostError}
    (performs : crew.recorded.Performs (entry.unlinkActs refusal ++ entry.letGoActs) desk last)
    (proper : desk.machine.ProperNumbers) : last.launcher.tracked = [] := by
  have fewer := performs.tracked_sublist
  generalize booked : desk.books = books at started
  rw [Desk.books] at booked
  cases started with
  | unopened fault bare idle =>
      rw [Books.mk.injEq] at booked
      rw [booked.2] at fewer
      exact List.sublist_nil.mp fewer
  | unmanned channel command fault path handle idle =>
      rw [Books.mk.injEq] at booked
      rw [booked.2] at fewer
      exact List.sublist_nil.mp fewer
  | manned channel command child path handle pid =>
      rw [Books.mk.injEq] at booked
      have given : .started command child ∈ desk.machine.calls := by
        have member : .started command child ∈ desk.machine.deeds := by
          rw [booked.1]
          exact .tail _ (.head _)
        exact (List.mem_filter.mp member).1
      have process : entry.hasProcess = true := by
        simp [Entry.hasProcess, pid, proper _ _ given]
      have listed : .letGo child.pid ∈ entry.unlinkActs refusal ++ entry.letGoActs := by
        rw [Entry.letGoActs, if_pos process, pid]
        exact List.mem_append_right _ (.head _)
      have gone := performs.untracked (by rw [booked.2]; simp) listed
      rw [booked.2] at fewer
      cases tracked : last.launcher.tracked with
      | nil => rfl
      | cons process rest =>
          have only : process = (child.pid, child) :=
            List.mem_singleton.mp (fewer.subset (tracked ▸ .head _))
          rw [tracked, only] at gone
          exact absurd (.head _) gone

/-! ### Files of removed channels -/

theorem platformMaker_release {calls : ChannelCalls σ} (fifo : calls.prefersPipes = false)
    (settings : Settings) (path handle : Option String) (machine : σ) :
    (platformMaker calls settings).release path handle machine =
      removeFifo calls.files path machine := by
  simp only [platformMaker, platformKind, fifo, Bool.false_eq_true, if_false, ChannelKind.maker]
  split <;> rfl

/-- The file of a channel that could be removed is absent after the cleanup. -/
theorem FileLaws.closed {platform : Platform σ} (laws : FileLaws platform.channels.files platform.kernel)
    (fifo : platform.channels.prefersPipes = false) {settings : Settings} {entry : Entry}
    {desk last : Desk σ} {channel : Channel} (path : entry.channel = some channel.path)
    (performs : (platform.crew settings).Performs (entry.unlinkActs none ++ entry.letGoActs)
      desk last) :
    platform.channels.files.present last.machine channel.path = false := by
  have has : entry.hasChannel = true := by simp [Entry.hasChannel, path]
  rw [Entry.unlinkActs, if_pos has, List.singleton_append, path] at performs
  cases performs with
  | removed call later =>
      rw [Platform.crew, platformMaker_release fifo] at call
      have gone := laws.removeFifo call
      unfold Entry.letGoActs at later
      split at later
      · cases later with
        | letGo present released rest =>
            cases rest
            exact laws.release released gone
      · cases later
        exact gone

/-- No channel was handed over before the cleanup of an entry that was started alone. -/
theorem Entry.StartedAlone.own {entry : Entry} {desk : Desk (Recorded σ)}
    (started : entry.StartedAlone desk.books) : desk.machine.OwnRefusals := by
  intro path handle fault failed
  have deed : .notRemoved path handle fault ∈ desk.books.deeds :=
    List.mem_filter.mpr ⟨failed, rfl⟩
  generalize desk.books = books at started deed
  cases started with
  | unopened => simp at deed
  | unmanned => simp at deed
  | manned => simp at deed

/-! ### The whole command -/

/-- The desk at the end of a capture, with a record of the calls since its interface was
added.  By then the console was given what is named first. -/
def captureEnd (platform : Platform σ) (settings : Settings) (interface : String)
    (duration : Option Binary64) (shown : List Display) (session : Session) (desk : Desk σ) :
    Desk (Recorded σ) :=
  let crew := (platform.crew settings).recorded
  let course :=
    runCapture platform.recorded crew interface duration shown session desk.watched
  (crew.cleanup course.session course.desk).2.2

/-- Cleaning up well leaves the end of a course as it is, unless the console then refuses the
last line. -/
theorem finishCapture_of_closed {platform : Platform σ} {crew : Crew σ} {course : Course σ}
    {session : Session} {later : Desk σ} {start : Except Fault Bool}
    (cleanup : crew.cleanup course.session course.desk = (.ok (), session, later))
    (ends : EndsAfter (platform.RefusedLast course.desk.machine course.shown) start
      course.ending) :
    let ended := finishCapture platform crew course
    ended.2.machine = later.machine ∧ ended.2.journal = later.journal ∧
      EndsAfter (fun fault => ∃ machine, platform.RefusedLast machine ended.2.shown fault)
        start ended.1 := by
  intro ended
  by_cases good : course.ending = .exit 0
  · obtain ⟨rfl, -⟩ := ends.exit_iff.mp good
    let stand : Stand σ := ⟨course.shown, later.journal, later.machine⟩
    rcases telling : platform.tell stand.machine stand.shown
      [successDisplay "Capture session closed"] with ⟨told, said⟩
    have whole : ended = ((Ending.exit 0).after told, { stand with shown := said }) :=
      (finishCapture_of_good cleanup good).trans (Stand.conclude_of_told platform telling _)
    rw [whole]
    refine ⟨rfl, rfl, EndsAfter.complete.told ?_⟩
    rintro fault rfl
    exact ⟨later.machine, platform.refusedLast_of_tell telling⟩
  · simp only [ended, finishCapture_of_bad cleanup good]
    exact ⟨trivial, trivial, ends.imp fun fault refused => ⟨_, refused⟩⟩

section

variable {platform : Platform σ} {settings : Settings} {interface : String}
  {duration : Option Binary64} {session : Session} {desk : Desk σ}

/-- The cleanup of a capture closes its one entry. -/
theorem captureEnd_performs {entry : Entry} (lone : session = ⟨[entry]⟩)
    (waiting : entry.waiting = true) (new : entry.IsNew) (blank : desk.launcher = .empty)
    (refuses : (platform.crew settings).maker.RefusesOwn) (shown : List Display) :
    let crew := (platform.crew settings).recorded
    let course :=
      runCapture platform.recorded crew interface duration shown session desk.watched
    ∃ (next : Entry) (refusal : Option HostError),
      (crew.cleanup course.session course.desk).1 = .ok () ∧
        next.StartedAlone course.desk.books ∧
        crew.Performs (next.unlinkActs refusal ++ next.letGoActs) course.desk
          (captureEnd platform settings interface duration shown session desk) := by
  intro crew course
  have empty : desk.watched.books = ⟨[], []⟩ := by
    rw [Desk.watched, Desk.books, blank]
    rfl
  obtain ⟨next, started, backed, alone⟩ :=
    (platform.crew settings).start_alone waiting new empty
  obtain ⟨sessionSame, booksSame⟩ := runCapture_keeps platform (platform.crew settings)
    interface duration shown session desk.watched
  rw [← lone] at started alone
  have only : course.session.entries = [next] := by rw [sessionSame, started]
  have left : next.StartedAlone course.desk.books := booksSame ▸ alone
  have closing : ∀ entries, entries = course.session.entries →
      captureEnd platform settings interface duration shown session desk =
          (crew.closeEach entries course.desk).desk ∧
        (crew.cleanup course.session course.desk).1 =
          (crew.closeEach entries course.desk).result := by
    rintro entries rfl
    exact ⟨rfl, rfl⟩
  obtain ⟨lastSame, resultSame⟩ := closing [next] only.symm
  rw [lastSame]
  obtain ⟨refusals, length, result, -, performs⟩ :=
    (platform.crew settings).closeEach_performs [next] course.desk
      ((platform.crew settings).closeEach_own refuses [next] left.own)
  obtain ⟨refusal, rfl⟩ := List.length_eq_one_iff.mp length
  refine ⟨next, refusal, by rw [resultSame, result], left, ?_⟩
  simpa [closeActs, backed] using performs

/-- The whole command is the course and its cleanup, without their record. -/
theorem Configured.capture_recorded {arguments : List String} {stand : Stand σ}
    (configured : Configured platform settings interface arguments stand session desk) :
    let crew := (platform.crew settings).recorded
    let course :=
      runCapture platform.recorded crew interface duration stand.shown session desk.watched
    (crew.cleanup course.session course.desk).1 = .ok () →
      let ended := capture platform settings interface arguments duration stand
      let last := captureEnd platform settings interface duration stand.shown session desk
      ended.2.machine = last.machine.machine ∧ ended.2.journal = last.journal ∧
        EndsAfter (fun fault => ∃ machine, platform.RefusedLast machine ended.2.shown fault)
          ((platform.crew settings).start session desk).1 ended.1 := by
  intro crew course cleaned ended last
  have whole : ended = finishCapture platform (platform.crew settings) course.plain := by
    rw [← runCapture_recorded]
    exact configured.capture_eq duration
  have closed : (platform.crew settings).cleanup course.plain.session course.plain.desk =
      (.ok (), (crew.cleanup course.session course.desk).2.1, last.plain) := by
    rw [← cleaned]
    exact (platform.crew settings).cleanup_recorded course.session course.desk
  have ends := runCapture_ends platform (platform.crew settings) interface duration stand.shown
    session desk
  have plain : runCapture platform (platform.crew settings) interface duration stand.shown session
      desk = course.plain :=
    runCapture_recorded platform (platform.crew settings) interface duration stand.shown session
      desk.watched
  rw [plain] at ends
  rw [whole]
  exact finishCapture_of_closed closed ends

end

theorem CloseAct.deed?_ne_made (act : CloseAct) (channel : Channel) :
    act.deed? ≠ some (.made channel) := by
  cases act <;> nofun

/-- The channel that was made for an entry that was started alone is in the entry. -/
theorem Entry.StartedAlone.channel_of_made {entry : Entry} {books : Books} {channel : Channel}
    (started : entry.StartedAlone books) (made : .made channel ∈ books.deeds) :
    entry.channel = some channel.path := by
  cases started with
  | unopened => simp at made
  | unmanned recorded command fault path =>
      have same : channel = recorded := by simpa using made
      rw [path, same]
  | manned recorded command child path =>
      have same : channel = recorded := by simpa using made
      rw [path, same]

/-- A channel that could not be removed leaves a call behind. -/
theorem Entry.refused_mem_deeds {entry : Entry} (has : entry.hasChannel = true)
    (error : HostError) :
    .notRemoved entry.channel entry.handle (.host error) ∈
      (entry.unlinkActs (some error) ++ entry.letGoActs).filterMap CloseAct.deed? := by
  rw [List.filterMap_append, unlinkActs, if_pos has]
  exact .head _

/-- Calls of any kind but polls are as frequent among the deeds as among all calls. -/
theorem Recorded.countP_deeds (recorded : Recorded σ) {kind : Call → Bool}
    (deed : ∀ call, kind call = true → call.isPoll = false) :
    recorded.deeds.countP kind = recorded.calls.countP kind := by
  rw [Recorded.deeds, List.countP_filter]
  refine List.countP_congr fun call _ => ?_
  simp only [Bool.and_eq_true, Bool.not_eq_true', and_iff_left_iff_imp]
  exact deed call

theorem Recorded.mem_calls_of_deed {recorded : Recorded σ} {call : Call}
    (deed : call ∈ recorded.deeds) : call ∈ recorded.calls :=
  (List.mem_filter.mp deed).1

/-- In whatever way a capture goes on once its interface was added, at its end the channel
that was made, if any, was handed over once to be removed, and no process is tracked.  If
no removal failed, the file of the channel is absent.  The command ends well exactly when
its start was complete and no fault has escaped.  A fault of the start escapes; any other one
that does is that with which the console refused what it was given last. -/
theorem capture_leaves_nothing_behind {platform : Platform σ} {settings : Settings}
    {interface : String} {arguments : List String} (duration : Option Binary64)
    {stand : Stand σ} {session : Session} {desk : Desk σ}
    (configured : Configured platform settings interface arguments stand session desk)
    (laws : platform.channels.RefusalLaws)
    (proper : (captureEnd platform settings interface duration stand.shown session
      desk).machine.ProperNumbers) :
    let ended := capture platform settings interface arguments duration stand
    let last := captureEnd platform settings interface duration stand.shown session desk
    let calls := last.machine.calls
    let start := (platform.crew settings).start session desk
    (ended.2.machine = last.machine.machine ∧ ended.2.journal = last.journal) ∧
      (∀ channel, calls.countP (Call.isRemovalOf channel) = calls.count (.made channel) ∧
        calls.count (.made channel) ≤ 1) ∧
      last.launcher.pids = [] ∧
      (platform.channels.prefersPipes = false →
        FileLaws platform.channels.files platform.kernel →
        (∀ path handle fault, .notRemoved path handle fault ∉ calls) →
        ∀ channel, .made channel ∈ calls →
          platform.channels.files.present ended.2.machine channel.path = false) ∧
      (ended.1 = .exit 0 ↔ start.1 = .ok true ∧ ∀ fault, ended.1 ≠ .escaped fault) ∧
      (∀ fault, start.1 = .error fault → ended.1 = .escaped fault) ∧
      ∀ fault, ended.1 = .escaped fault → start.1 = .error fault ∨
        ∃ machine, platform.RefusedLast machine ended.2.shown fault := by
  intro ended last calls start
  obtain ⟨entry, lone, waiting, new, blank⟩ := configured.alone
  obtain ⟨next, refusal, cleaned, alone, performs⟩ := captureEnd_performs lone waiting new blank
    (platformMaker_refusesOwn laws settings) stand.shown
  obtain ⟨machineSame, journalSame, ends⟩ := configured.capture_recorded cleaned
  refine ⟨⟨machineSame, journalSame⟩, ?_, ?_, ?_, ends.exit_iff, ?_, ?_⟩
  · intro channel
    have settled := alone.settled refusal channel
    simp only [Desk.books, ← performs.deeds] at settled
    rw [Recorded.countP_deeds _ (by intro call; cases call <;> simp [Call.isRemovalOf, Call.isPoll]),
      Recorded.count_deeds _ _ rfl] at settled
    exact settled
  · have untracked := alone.untracked performs ?_
    · rw [Launcher.pids, untracked]
      rfl
    · intro command child given
      have deed : .started command child ∈ last.machine.deeds := by
        rw [performs.deeds]
        exact List.mem_append_left _ (List.mem_filter.mpr ⟨given, rfl⟩)
      exact proper command child (Recorded.mem_calls_of_deed deed)
  · intro fifo files removed channel made
    have deed : .made channel ∈ last.machine.deeds := List.mem_filter.mpr ⟨made, rfl⟩
    rw [performs.deeds] at deed
    have path : next.channel = some channel.path := by
      rcases List.mem_append.mp deed with course | cleanup
      · exact alone.channel_of_made course
      · obtain ⟨act, -, done⟩ := List.mem_filterMap.mp cleanup
        exact absurd done (act.deed?_ne_made channel)
    rw [machineSame]
    cases refusal with
    | none => exact files.closed fifo path performs.plain
    | some error =>
        have has : next.hasChannel = true := by simp [Entry.hasChannel, path]
        have refused : .notRemoved next.channel next.handle (.host error) ∈
            last.machine.deeds := by
          rw [performs.deeds]
          exact List.mem_append_right _ (Entry.refused_mem_deeds has error)
        exact absurd (Recorded.mem_calls_of_deed refused) (removed _ _ _)
  · intro fault raised
    rw [raised] at ends
    exact ends.of_raised
  · intro fault escaped
    rw [escaped] at ends
    exact ends.of_escaped

/-- A platform with one helper, whose processes never end.  Its machine is the list of
its FIFOs, and the operator interrupts the first wait. -/
def oneHelperPlatform : Platform (List String) where
  helpers :=
    { workingDirectory := .ok "/opt"
      entries := fun _ _ => .ok ["sniffer"]
      isFile := fun _ _ => .ok true
      mayExecute := fun _ _ => .ok true
      run := fun _ files => (.ok ⟨0, smallAnswer⟩, files) }
  kernel :=
    { spawn := fun _ files => (.ok ⟨1001, 0⟩, files)
      poll := fun _ files => (none, files)
      status := fun _ _ => .alive }
  channels :=
    { names := { stamp := fun _ => "0", token := fun files => ("1", files) }
      files :=
        { reserve := fun _ _ files => (.ok "/tmp/fifo", "/tmp/fifo" :: files)
          close := fun _ files => (.ok (), files)
          present := fun files path => path ≠ "" && files.contains path
          remove := fun path files =>
            if files.contains path then (.ok (), files.filter fun file => file ≠ path)
            else (.error (.system (.noEntry path)), files)
          makeFifo := fun _ path files => (.ok (), path :: files) }
      pipes := none
      prefersPipes := false
      wordDepth := 985 }
  settingsText _ _ := .ok none
  realPath _ path := .ok path
  standing _ _ := .absent
  save _ _ files := (.ok (), files)
  now _ := .zero
  nap files := files
  patience _ := 0
  consoleFault _ _ _ := none

/-- The same platform with a console that takes no panels. -/
def panelsRefused : Platform (List String) :=
  { oneHelperPlatform with
    consoleFault := fun _ _ display =>
      match display with
      | .panel _ _ => some (.runtime "closing tag does not match any open tag")
      | _ => none }

/-- Settings for the platform with one helper. -/
def oneHelperSettings : Settings :=
  { Settings.initial "/home" "/tmp" with helperDirectory := .ofString "/opt/extcap" }

/-- The interface of the one helper, before its start. -/
def oneHelperEntry : Entry where
  name := "lo0"
  source := .helper
  helper := some "/opt/extcap/sniffer"
  channel := none
  handle := none
  pid := noProcess
  arguments := []
  stage := .configured
  helperNamed := by decide

theorem oneHelper_laws :
    FileLaws oneHelperPlatform.channels.files oneHelperPlatform.kernel where
  removed := by
    intro path files next done
    simp only [oneHelperPlatform] at done
    split at done
    · cases done
      simp [oneHelperPlatform]
    · cases done
  missing := by
    intro path files error next done _
    simp only [oneHelperPlatform] at done
    split at done
    · cases done
    · rename_i absent
      cases done
      simpa [oneHelperPlatform] using fun _ => by simpa using absent
  polled _ _ absent := absent
  unnamed _ := rfl

theorem oneHelper_refusals : oneHelperPlatform.channels.RefusalLaws where
  removal := by
    intro path files fault next refused
    simp only [oneHelperPlatform] at refused
    split at refused
    · cases refused
    · cases refused
      exact ⟨_, rfl⟩
  flush _ has := by cases has
  disconnect _ has := by cases has
  close _ has := by cases has

/-- The one helper is found before anything is shown, whatever the console is like. -/
theorem oneHelper_configured
    (consoleFault : List String → List Display → Display → Option Fault) :
    Configured { oneHelperPlatform with consoleFault } oneHelperSettings "lo0" []
      ⟨[], [], []⟩ ⟨[oneHelperEntry]⟩ ⟨.empty, [], []⟩ := by
  have located : oneHelperPlatform.helpers.absolute "/opt/extcap" = .ok "/opt/extcap" := rfl
  have listed : listHelpers oneHelperPlatform.helpers "/opt/extcap" [] =
      .ok ["/opt/extcap/sniffer"] := by
    simp only [listHelpers, sortNames, oneHelperPlatform, List.mergeSort_singleton]
    rfl
  have ran : runHelper oneHelperPlatform.helpers "/opt/extcap/sniffer" interfacesCommand [] =
      (.ok (Text.decodeOutput smallAnswer), []) := rfl
  have found : discover oneHelperPlatform.helpers .sentences "/opt/extcap" .empty [] =
      ⟨.ok [⟨"lo0", "lo0", "/opt/extcap/sniffer"⟩], ⟨[(some "lo0", "/opt/extcap/sniffer")]⟩, [],
        []⟩ := by
    simp only [discover, located, listed, discoverEach, ran, AnswerReader.sentences,
      small_answer_read]
    rfl
  have target : oneHelperSettings.helperDirectory.target
      oneHelperPlatform.helpers.workingDirectory = .ok (some "/opt/extcap") := rfl
  have survey : surveyPlace { oneHelperPlatform with consoleFault }
      oneHelperSettings.helperDirectory ⟨[], [], []⟩ =
      (.ok [⟨"lo0", "lo0", "/opt/extcap/sniffer"⟩], ⟨[(some "lo0", "/opt/extcap/sniffer")]⟩,
        ⟨[], [], []⟩) := by
    simp only [surveyPlace, target, found]
    rfl
  exact .added rfl survey rfl

/-- In a capture whose FIFO is made, watched and removed, the one process has a proper number
and no removal fails. -/
theorem oneHelper_calls {recorded : Recorded σ} {channel : Channel} {command : List String}
    {polls : List Call} {path handle : Option String}
    (only : ∀ call ∈ polls, call = .polled ⟨1001, 0⟩ none)
    (calls : recorded.calls = .made channel :: .started command ⟨1001, 0⟩ ::
      polls ++ [.removed path handle, .polled ⟨1001, 0⟩ none]) :
    recorded.ProperNumbers ∧
      ∀ path handle fault, .notRemoved path handle fault ∉ recorded.calls := by
  constructor
  · intro command child given
    simp only [calls, List.mem_append, List.mem_cons, List.not_mem_nil, or_false] at given
    rcases given with (made | started | poll) | removed | poll
    · cases made
    · cases started
      decide
    · cases only _ poll
    · cases removed
    · cases poll
  · intro path handle fault failed
    simp only [calls, List.mem_append, List.mem_cons, List.not_mem_nil, or_false] at failed
    rcases failed with (made | started | poll) | removed | poll
    · cases made
    · cases started
    · cases only _ poll
    · cases removed
    · cases poll

/-- The interrupted capture ends well.  Its FIFO was made and removed, and is gone.  So it is
after a capture that ends in a fault because its panel is refused. -/
theorem interrupted_capture_leaves_nothing :
    let stand : Stand (List String) := ⟨[], [], []⟩
    let desk : Desk (List String) := ⟨.empty, [], []⟩
    let ended (platform : Platform (List String)) :=
      capture platform oneHelperSettings "lo0" [] none stand
    let last (platform : Platform (List String)) :=
      captureEnd platform oneHelperSettings "lo0" none [] ⟨[oneHelperEntry]⟩ desk
    let cleared (platform : Platform (List String)) : Prop :=
      Configured platform oneHelperSettings "lo0" [] stand ⟨[oneHelperEntry]⟩ desk ∧
        platform.channels.RefusalLaws ∧ (last platform).machine.ProperNumbers ∧
        FileLaws platform.channels.files platform.kernel ∧
        .made ⟨"/tmp/fifo", none⟩ ∈ (last platform).machine.calls ∧
        platform.channels.files.present (ended platform).2.machine "/tmp/fifo" = false ∧
        (last platform).launcher.pids = []
    (ended oneHelperPlatform).1 = .exit 0 ∧ cleared oneHelperPlatform ∧
      (ended panelsRefused).1 = .escaped (.runtime "closing tag does not match any open tag") ∧
      cleared panelsRefused := by
  intro stand desk ended last cleared
  let started : Call :=
    .started ["/opt/extcap/sniffer", "--capture", "--extcap-interface", "lo0", "--fifo",
      "/tmp/fifo"] ⟨1001, 0⟩
  have clear : ∀ platform polls,
      Configured platform oneHelperSettings "lo0" [] stand ⟨[oneHelperEntry]⟩ desk →
      platform.channels = oneHelperPlatform.channels → platform.kernel = oneHelperPlatform.kernel →
      (∀ call ∈ polls, call = .polled ⟨1001, 0⟩ none) →
      (last platform).machine.calls = .made ⟨"/tmp/fifo", none⟩ :: started ::
        polls ++ [.removed (some "/tmp/fifo") none, .polled ⟨1001, 0⟩ none] →
      cleared platform := by
    intro platform polls configured channels kernel only calls
    have laws : platform.channels.RefusalLaws := channels ▸ oneHelper_refusals
    have files : FileLaws platform.channels.files platform.kernel := by
      rw [channels, kernel]
      exact oneHelper_laws
    obtain ⟨proper, removed⟩ := oneHelper_calls only calls
    have made : .made ⟨"/tmp/fifo", none⟩ ∈ (last platform).machine.calls := by
      rw [calls]
      exact .head _
    obtain ⟨-, -, untracked, gone, -⟩ :=
      capture_leaves_nothing_behind none configured laws proper
    exact ⟨configured, laws, proper, files, made,
      gone (channels ▸ rfl) files removed _ made, untracked⟩
  have plainly := oneHelper_configured oneHelperPlatform.consoleFault
  have refused := oneHelper_configured panelsRefused.consoleFault
  refine ⟨?_, ?_, ?_, ?_⟩
  · exact (congrArg Prod.fst (plainly.capture_eq none)).trans rfl
  · exact clear _ [.polled ⟨1001, 0⟩ none] plainly rfl rfl (by simp) rfl
  · exact (congrArg Prod.fst (refused.capture_eq none)).trans rfl
  · exact clear _ [] refused rfl rfl nofun rfl

end ExtcapHost
