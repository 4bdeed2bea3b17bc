/-
Module: ExtcapHost.Proofs.Channel.Leftover
Purpose: What a channel that could not be made leaves among the files.
Main exports:
  FileEffects, FileCalls.leftover, fifoMaker_create_cases, newChannels, startEach_files,
  failed_creation_leaves_reservation_only
-/
import ExtcapHost.Proofs.Channel.Accounting

/-!
A FIFO is made in four calls, each of which may fail.  If the name cannot be reserved, no
file was made; once the reserved file was removed, there is none any more.  Between the two
lies the closing of that file, and nobody removes a file whose closing failed.

Of the system nothing is asked here but that calls which fail leave the files alone, that a
reserved name was free, and that what is there can be removed.
-/

namespace ExtcapHost

variable {σ : Type}

/-! ### Making one channel -/

/-- What the calls on files do to what stands under each path. -/
structure FileEffects (files : FileCalls σ) (names : NameSource σ)
    (kinds : σ → String → Option FileKind) : Prop where
  token : ∀ machine, kinds (names.token machine).2 = kinds machine
  present : ∀ machine path, files.present machine path = (kinds machine path).isSome
  reserved : ∀ {word directory machine path next},
    files.reserve word directory machine = (.ok path, next) →
      kinds machine path = none ∧ kinds next = Function.update (kinds machine) path (some .other)
  refused : ∀ {word directory machine fault next},
    files.reserve word directory machine = (.error fault, next) → kinds next = kinds machine
  closed : ∀ path machine, kinds (files.close path machine).2 = kinds machine
  removed : ∀ path machine, kinds machine path ≠ none →
    ∃ next, files.remove path machine = (.ok (), next) ∧
      kinds next = Function.update (kinds machine) path none
  made : ∀ {mode path machine next}, files.makeFifo mode path machine = (.ok (), next) →
    kinds next = Function.update (kinds machine) path (some (.fifo mode))
  unmade : ∀ {mode path machine fault next},
    files.makeFifo mode path machine = (.error fault, next) → kinds next = kinds machine

/-- A system that also keeps account of the names does these things. -/
theorem DiskLaws.effects {files : FileCalls σ} {names : NameSource σ} {view : σ → DiskView}
    (laws : DiskLaws files names view) :
    FileEffects files names fun machine => (view machine).files where
  token machine := congrArg DiskView.files (laws.token machine)
  present := laws.present
  reserved reserved := by
    obtain ⟨-, absent, -, seen⟩ := laws.reserved reserved
    exact ⟨absent, congrArg DiskView.files seen⟩
  refused refused := congrArg DiskView.files (laws.refused refused).2
  closed path machine := congrArg DiskView.files (laws.closed path machine)
  removed path machine there := by
    obtain ⟨next, removed, seen⟩ := laws.removed path machine there
    exact ⟨next, removed, congrArg DiskView.files seen⟩
  made made := congrArg DiskView.files (laws.made made)
  unmade unmade := congrArg DiskView.files (laws.unmade unmade).2

/-- The reserved file that an attempt to make a FIFO leaves behind: that whose closing
failed. -/
def FileCalls.leftover (files : FileCalls σ) (names : NameSource σ) (settings : FifoSettings)
    (machine : σ) : Option String :=
  let (name, machine) := names.next settings.word machine
  match files.reserve (name ++ "_") settings.directory machine with
  | (.error _, _) => none
  | (.ok path, machine) =>
      match files.close path machine with
      | (.error _, _) => some path
      | (.ok _, _) => none

section

variable {files : FileCalls σ} {names : NameSource σ} {kinds : σ → String → Option FileKind}

/-- Where files are always closed, nothing is left behind. -/
theorem FileCalls.ClosesAlways.leftover (closes : files.ClosesAlways) (names : NameSource σ)
    (settings : FifoSettings) (machine : σ) : files.leftover names settings machine = none := by
  rcases called : files.reserve ((names.next settings.word machine).1 ++ "_")
    settings.directory (names.next settings.word machine).2 with ⟨outcome, after⟩
  cases outcome with
  | error fault => simp only [FileCalls.leftover, called]
  | ok path =>
      have done := closes path after
      rcases closed : files.close path after with ⟨result, last⟩
      rw [closed] at done
      cases done
      simp only [FileCalls.leftover, called, closed]

/-- A name is reserved, or it is not, or the file under it cannot be closed and stays. -/
theorem reserveFifo_cases (effects : FileEffects files names kinds) (settings : FifoSettings)
    (machine : σ) :
    (∃ path next, reserveFifo files names settings machine = (.ok path, next) ∧
      files.leftover names settings machine = none ∧ kinds machine path = none ∧
      kinds next = Function.update (kinds machine) path (some .other)) ∨
    (∃ fault next, reserveFifo files names settings machine = (.error fault, next) ∧
      files.leftover names settings machine = none ∧ kinds next = kinds machine) ∨
    ∃ path fault next, reserveFifo files names settings machine = (.error fault, next) ∧
      files.leftover names settings machine = some path ∧ kinds machine path = none ∧
      kinds next = Function.update (kinds machine) path (some .other) := by
  let named := names.next settings.word machine
  have same : kinds named.2 = kinds machine := effects.token machine
  rcases called : files.reserve (named.1 ++ "_") settings.directory named.2 with ⟨outcome, after⟩
  cases outcome with
  | error fault =>
      right
      left
      have clear : files.leftover names settings machine = none := by
        simp only [FileCalls.leftover, called, named]
      exact ⟨_, after, by simp only [reserveFifo, called, named]; rfl, clear,
        (effects.refused called).trans same⟩
  | ok path =>
      obtain ⟨absent, seen⟩ := effects.reserved called
      rw [same] at absent seen
      have still := effects.closed path after
      rcases closed : files.close path after with ⟨result, last⟩
      rw [closed] at still
      have placed : kinds last = Function.update (kinds machine) path (some .other) :=
        still.trans seen
      cases result with
      | ok _ =>
          left
          refine ⟨path, last, ?_, ?_, absent, placed⟩
          · simp only [reserveFifo, called, closed, named]
          · simp only [FileCalls.leftover, called, closed, named]
      | error fault =>
          right
          right
          have left : files.leftover names settings machine = some path := by
            simp only [FileCalls.leftover, called, closed, named]
          exact ⟨path, _, last, by simp only [reserveFifo, called, closed, named]; rfl, left,
            absent, placed⟩

/-- A FIFO takes the place of a file that is there, or nothing does. -/
theorem replaceByFifo_cases (effects : FileEffects files names kinds) {path : String}
    {machine : σ} (there : kinds machine path ≠ none) :
    (∃ next, replaceByFifo files path machine = (.ok ⟨path, none⟩, next) ∧
      kinds next = Function.update (kinds machine) path (some (.fifo ownerOnly))) ∨
    ∃ fault next, replaceByFifo files path machine = (.error fault, next) ∧
      kinds next = Function.update (kinds machine) path none := by
  have present : files.present machine path = true := by
    rw [effects.present, Option.isSome_iff_ne_none]
    exact there
  obtain ⟨freed, removed, seen⟩ := effects.removed path machine there
  rcases called : files.makeFifo ownerOnly path freed with ⟨outcome, next⟩
  cases outcome with
  | ok _ =>
      left
      refine ⟨next, ?_, ?_⟩
      · simp only [replaceByFifo, present, if_true, removed, called]
      · rw [effects.made called, seen, Function.update_idem]
  | error fault =>
      right
      exact ⟨_, next, by simp only [replaceByFifo, present, if_true, removed, called]; rfl,
        (effects.unmade called).trans seen⟩

/-- A channel is made, and its FIFO stands where nothing stood; or it is not, and the files
are as before but for the one that is left behind. -/
theorem fifoMaker_create_cases (effects : FileEffects files names kinds)
    (settings : FifoSettings) (machine : σ) :
    (∃ path next, (fifoMaker files names settings).create machine = (.ok ⟨path, none⟩, next) ∧
      files.leftover names settings machine = none ∧ kinds machine path = none ∧
      kinds next = Function.update (kinds machine) path (some (.fifo ownerOnly))) ∨
    ∃ fault next, (fifoMaker files names settings).create machine = (.error fault, next) ∧
      (∀ path, files.leftover names settings machine = some path → kinds machine path = none) ∧
      ∀ path, kinds next path =
        if files.leftover names settings machine = some path then some .other
        else kinds machine path := by
  rcases reserveFifo_cases effects settings machine with
    ⟨path, after, reserved, clear, absent, seen⟩ | ⟨fault, next, refused, clear, same⟩ |
      ⟨path, fault, next, stuck, left, absent, seen⟩
  · have there : kinds after path ≠ none := by
      rw [seen, Function.update_self]
      exact nofun
    rcases replaceByFifo_cases effects there with
      ⟨next, replaced, placed⟩ | ⟨fault, next, failed, gone⟩
    · left
      refine ⟨path, next, ?_, clear, absent, ?_⟩
      · simp only [fifoMaker, reserved, replaced]
      · rw [placed, seen, Function.update_idem]
    · right
      refine ⟨fault, next, ?_, by simp [clear], ?_⟩
      · simp only [fifoMaker, reserved, failed]
      · intro other
        rw [gone, seen, Function.update_idem, ← absent, Function.update_eq_self]
        simp [clear]
  · right
    refine ⟨fault, next, ?_, by simp [clear], ?_⟩
    · simp only [fifoMaker, refused]
    · intro other
      simp [clear, same]
  · right
    refine ⟨fault, next, ?_, ?_, ?_⟩
    · simp only [fifoMaker, stuck]
    · intro other here
      rw [left] at here
      cases here
      exact absent
    · intro other
      rw [seen, left]
      by_cases here : path = other
      · rw [here, Function.update_self, if_pos rfl]
      · rw [Function.update_of_ne (Ne.symm here), if_neg (by simpa using here)]

/-- The FIFO of a channel that was made stands where nothing stood. -/
theorem FileEffects.of_made (effects : FileEffects files names kinds) {settings : FifoSettings}
    {machine next : σ} {channel : Channel}
    (made : (fifoMaker files names settings).create machine = (.ok channel, next)) :
    kinds machine channel.path = none ∧
      kinds next = Function.update (kinds machine) channel.path (some (.fifo ownerOnly)) := by
  rcases fifoMaker_create_cases effects settings machine with
    ⟨path, last, created, -, absent, placed⟩ | ⟨fault, last, failed, -⟩
  · rw [made] at created
    cases created
    exact ⟨absent, placed⟩
  · rw [made] at failed
    cases failed

/-- Without a channel the files are as before, but for the one that is left behind. -/
theorem FileEffects.of_not_made (effects : FileEffects files names kinds)
    {settings : FifoSettings} {machine next : σ} {fault : Fault}
    (failed : (fifoMaker files names settings).create machine = (.error fault, next)) :
    (∀ path, files.leftover names settings machine = some path → kinds machine path = none) ∧
      ∀ path, kinds next path =
        if files.leftover names settings machine = some path then some .other
        else kinds machine path := by
  rcases fifoMaker_create_cases effects settings machine with
    ⟨path, last, made, -⟩ | ⟨fault, last, refused, absent, seen⟩
  · rw [failed] at made
    cases made
  · rw [failed] at refused
    cases refused
    exact ⟨absent, seen⟩

/-! ### Starts that end at a channel -/

/-- Starting processes, and asking whether they have ended, leaves the files alone. -/
structure Kernel.LeavesFiles (kernel : Kernel σ) (kinds : σ → String → Option FileKind) :
    Prop where
  started : ∀ command machine, kinds (kernel.spawn command machine).2 = kinds machine
  polled : ∀ child machine, kinds (kernel.poll child machine).2 = kinds machine

theorem Kernel.LeavesFiles.launch {kernel : Kernel σ} (leaves : kernel.LeavesFiles kinds)
    (maker : ChannelMaker σ) (entry : Entry) (channel : Channel) (desk : Desk σ) :
    kinds ((Crew.mk maker kernel).launch entry channel desk).2.machine = kinds desk.machine := by
  have polls : kernel.PollsKeep fun machine => kinds machine = kinds desk.machine := by
    intro child machine same
    rw [leaves.polled, same]
  rcases reaped : desk.launcher.reap kernel desk.machine with ⟨kept, next⟩
  have same : kinds next = kinds desk.machine := by
    have all := polls.pollAll desk.launcher.released rfl
    simp only [Launcher.reap, Prod.mk.injEq] at reaped
    rw [← reaped.2]
    exact all
  rw [Crew.launch_machine, Launcher.spawn_machine reaped, leaves.started, same]

/-- The channels that entries have got which waited for their start. -/
def newChannels (before after : List Entry) : List String :=
  (before.zip after).filterMap fun (earlier, later) =>
    if earlier.waiting && !later.waiting then later.channel else none

theorem newChannels_cons_of_idle {entry : Entry} (idle : entry.waiting = false)
    (before after : List Entry) :
    newChannels (entry :: before) (entry :: after) = newChannels before after := by
  simp [newChannels, idle]

/-- New channels are recorded. -/
theorem recorded_of_mem_newChannels {before after : List Entry} {path : String}
    (new : path ∈ newChannels before after) : ∃ entry ∈ after, entry.channel = some path := by
  obtain ⟨⟨earlier, later⟩, paired, taken⟩ := List.mem_filterMap.mp new
  dsimp only at taken
  split at taken
  · exact ⟨later, (List.of_mem_zip paired).2, taken⟩
  · cases taken

/-- An entry that still waits has got nothing. -/
theorem newChannels_self (entries : List Entry) : newChannels entries entries = [] := by
  induction entries with
  | nil => rfl
  | cons entry rest ih =>
      rw [← ih]
      simp [newChannels]

/-- The channel of an entry that was launched is new. -/
theorem Crew.newChannels_cons_of_launched {crew : Crew σ} {entry spawned : Entry}
    {channel : Channel} {desk later : Desk σ} (waiting : entry.waiting = true)
    (launched : crew.launch (entry.opened channel) channel desk = (.ok spawned, later))
    (before after : List Entry) :
    newChannels (entry :: before) (spawned :: after) =
      channel.path :: newChannels before after := by
  obtain ⟨pid, rfl⟩ : ∃ pid, spawned = (entry.opened channel).spawned pid := by
    rcases started : desk.launcher.spawn crew.kernel ((entry.opened channel).command channel.path)
      desk.machine with ⟨result, launcher, notes, next⟩
    cases result with
    | error fault =>
        rw [launch_of_raised started] at launched
        cases launched
    | ok pid =>
        rw [launch_of_spawned started] at launched
        cases launched
        exact ⟨pid, rfl⟩
  have begun : ((entry.opened channel).spawned pid).waiting = false := by
    simp [Entry.waiting, Entry.spawned]
  rw [newChannels, List.zip_cons_cons]
  apply List.filterMap_cons_some
  simp only [waiting, begun, Bool.not_false, Bool.and_self, if_true]
  rfl

/-- A start that is refused leaves the session as the pass over its entries does. -/
theorem Crew.pass_of_refused_start {crew : Crew σ} {session session' : Session}
    {desk desk' : Desk σ} (started : crew.start session desk = (.ok false, session', desk')) :
    (crew.startEach session.entries desk).result = .ok false ∧
      session' = ⟨(crew.startEach session.entries desk).entries⟩ ∧
      desk' = (crew.startEach session.entries desk).desk := by
  by_cases completed : (crew.startEach session.entries desk).result = .ok true
  · rw [start_of_completed completed] at started
    cases started
  · rw [start_of_ended completed] at started
    simp only [Prod.mk.injEq] at started
    exact ⟨started.1, started.2.1.symm, started.2.2.symm⟩

/-- FIFOs were put where nothing stood, and everything else is as before. -/
structure FifosAdded (before after : String → Option FileKind) (paths : List String) : Prop where
  free : ∀ path ∈ paths, before path = none
  seen : ∀ path, after path = if path ∈ paths then some (.fifo ownerOnly) else before path

namespace FifosAdded

theorem nil (kinds : String → Option FileKind) : FifosAdded kinds kinds [] where
  free := nofun
  seen _ := rfl

/-- One FIFO, and then others. -/
theorem cons {before after : String → Option FileKind} {path : String} {paths : List String}
    (absent : before path = none)
    (later : FifosAdded (Function.update before path (some (.fifo ownerOnly))) after paths) :
    FifosAdded before after (path :: paths) where
  free other member := by
    rcases List.mem_cons.mp member with rfl | rest
    · exact absent
    · have vacant := later.free other rest
      by_cases same : other = path
      · rw [same, absent]
      · rwa [Function.update_of_ne same] at vacant
  seen other := by
    rw [later.seen other]
    by_cases same : other = path
    · simp [same]
    · simp [same]

end FifosAdded

/-- A start that ends at a channel passes over its first entry, or starts that one, or ends
there. -/
theorem Crew.refused_cases {crew : Crew σ} {entry : Entry} {rest : List Entry} {desk : Desk σ}
    (ended : (crew.startEach (entry :: rest) desk).result = .ok false) :
    (entry.waiting = false ∧ ∀ entries, crew.startEach (entry :: entries) desk =
        (crew.startEach entries desk).after entry) ∨
    (∃ channel next spawned last, entry.waiting = true ∧
      crew.maker.create desk.machine = (.ok channel, next) ∧
      crew.launch (entry.opened channel) channel { desk with machine := next } =
        (.ok spawned, last) ∧
      ∀ entries, crew.startEach (entry :: entries) desk =
        (crew.startEach entries last).after spawned) ∨
    ∃ error next, crew.maker.create desk.machine = (.error (.host error), next) ∧
      crew.startEach (entry :: rest) desk =
        ⟨.ok false, entry :: rest,
          { desk with machine := next }.note .error (entry.remark error.text)⟩ := by
  cases waiting : entry.waiting with
  | false => exact .inl ⟨rfl, fun _ => startEach_of_idle waiting⟩
  | true =>
      right
      rcases created : crew.maker.create desk.machine with ⟨fault | channel, next⟩
      · rcases fault.foreign_or_own with foreign | ⟨error, rfl⟩
        · rw [startEach_of_failed waiting foreign created] at ended
          cases ended
        · exact .inr ⟨error, next, rfl, startEach_of_refused waiting created⟩
      · rcases launched : crew.launch (entry.opened channel) channel
          { desk with machine := next } with ⟨fault | spawned, last⟩
        · rw [startEach_of_stranded waiting created launched] at ended
          cases ended
        · exact .inl ⟨channel, next, spawned, last, rfl, rfl, launched,
            fun _ => startEach_of_launched waiting created launched⟩

/-- A start that ends at a channel has made FIFOs for the entries before.  What else there
is among the files is left to the attempt that failed. -/
theorem startEach_files (effects : FileEffects files names kinds) (settings : FifoSettings)
    {kernel : Kernel σ} (leaves : kernel.LeavesFiles kinds) (entries : List Entry)
    (desk : Desk σ) :
    let crew : Crew σ := ⟨fifoMaker files names settings, kernel⟩
    let pass := crew.startEach entries desk
    pass.result = .ok false →
      ∃ earlier entry later error, entries = earlier ++ entry :: later ∧
        let machine := (crew.startEach earlier desk).desk.machine
        (fifoMaker files names settings).create machine =
            (.error (.host error), pass.desk.machine) ∧
          FifosAdded (kinds desk.machine) (kinds machine) (newChannels entries pass.entries) := by
  intro crew
  induction entries generalizing desk with
  | nil => nofun
  | cons entry rest ih =>
      intro pass ended
      rcases Crew.refused_cases ended with ⟨waiting, passed⟩ |
          ⟨channel, next, spawned, last, waiting, made, launched, passed⟩ |
            ⟨error, next, failed, passed⟩
      · simp only [pass, passed] at ended ⊢
        obtain ⟨earlier, stuck, later, error, rfl, failed, added⟩ := ih desk ended
        refine ⟨entry :: earlier, stuck, later, error, rfl, ?_⟩
        rw [passed, Pass.after, Pass.after, newChannels_cons_of_idle waiting]
        exact ⟨failed, added⟩
      · simp only [pass, passed] at ended ⊢
        obtain ⟨earlier, stuck, later, error, rfl, failed, added⟩ := ih last ended
        refine ⟨entry :: earlier, stuck, later, error, rfl, ?_⟩
        rw [passed, Pass.after, Pass.after, Crew.newChannels_cons_of_launched waiting launched]
        have kept := leaves.launch crew.maker (entry.opened channel) channel
          { desk with machine := next }
        rw [launched] at kept
        obtain ⟨absent, placed⟩ := effects.of_made made
        rw [kept.trans placed] at added
        exact ⟨failed, added.cons absent⟩
      · refine ⟨[], entry, rest, error, rfl, ?_⟩
        simp only [pass, passed, newChannels_self]
        exact ⟨failed, .nil _⟩

end

/-- What is left of a channel that could not be made.  The files are as before, but for a
reserved file whose closing failed: that one stays, where nothing stood.  Where files are
always closed there is none.  A start that ends at a channel leaves the FIFOs of the
channels that it has recorded in the session, and what the last attempt leaves. -/
theorem failed_creation_leaves_reservation_only {files : FileCalls σ} {names : NameSource σ}
    {kinds : σ → String → Option FileKind} (effects : FileEffects files names kinds)
    (settings : FifoSettings) :
    let maker := fifoMaker files names settings
    let leftover := files.leftover names settings
    (∀ machine fault next, maker.create machine = (.error fault, next) →
      (∀ path, leftover machine = some path → kinds machine path = none) ∧
      ∀ path, kinds next path =
        if leftover machine = some path then some .other else kinds machine path) ∧
    (files.ClosesAlways → ∀ machine, leftover machine = none) ∧
    ∀ kernel : Kernel σ, kernel.LeavesFiles kinds → ∀ session desk session' desk',
      (Crew.mk maker kernel).start session desk = (.ok false, session', desk') →
        let new := newChannels session.entries session'.entries
        ∃ earlier entry later error, session.entries = earlier ++ entry :: later ∧
          let machine := ((Crew.mk maker kernel).startEach earlier desk).desk.machine
          maker.create machine = (.error (.host error), desk'.machine) ∧
          (∀ path ∈ new, ∃ entry ∈ session'.entries, entry.channel = some path) ∧
          (∀ path, path ∈ new ∨ leftover machine = some path → kinds desk.machine path = none) ∧
          ∀ path, kinds desk'.machine path =
            if leftover machine = some path then some .other
            else if path ∈ new then some (.fifo ownerOnly)
            else kinds desk.machine path := by
  intro maker leftover
  refine ⟨fun _ _ _ => effects.of_not_made, fun closes => closes.leftover names settings, ?_⟩
  intro kernel leaves session desk session' desk' started new
  obtain ⟨ended, rfl, rfl⟩ := Crew.pass_of_refused_start started
  obtain ⟨earlier, entry, later, error, parts, failed, added⟩ :=
    startEach_files effects settings leaves session.entries desk ended
  obtain ⟨absent, seen⟩ := effects.of_not_made failed
  refine ⟨earlier, entry, later, error, parts, failed,
    fun path => recorded_of_mem_newChannels, ?_, ?_⟩
  · rintro path (member | left)
    · exact added.free path member
    · have vacant := absent path left
      rw [added.seen path] at vacant
      split at vacant
      · cases vacant
      · exact vacant
  · intro path
    rw [seen path, added.seen path]

/-! ### A file that cannot be closed -/

/-- The files of a shelf, of which one cannot be closed. -/
def jammedCalls (stuck : String) : FileCalls DiskView :=
  { ChannelBook.shelfCalls with
    close := fun path disk =>
      if path = stuck then (.error (.system ⟨5, "Input/output error", []⟩), disk)
      else (.ok (), disk) }

theorem jammedEffects (stuck : String) :
    FileEffects (jammedCalls stuck) ChannelBook.shelfNames DiskView.files where
  token := ChannelBook.shelfLaws.effects.token
  present := ChannelBook.shelfLaws.effects.present
  reserved := ChannelBook.shelfLaws.effects.reserved
  refused := ChannelBook.shelfLaws.effects.refused
  closed path disk := by
    simp only [jammedCalls]
    split <;> rfl
  removed := ChannelBook.shelfLaws.effects.removed
  made := ChannelBook.shelfLaws.effects.made
  unmade := ChannelBook.shelfLaws.effects.unmade

/-- A shelf with processes that all get the same number. -/
def shelfKernel : Kernel DiskView where
  spawn _ disk := (.ok ⟨1001, 0⟩, disk)
  poll _ disk := (none, disk)
  status _ _ := .alive

/-- An interface that waits for its start. -/
def waitingEntry (name : String) : Entry where
  toRevision := { Revision.named name with source := .helper, helper := some "/extcap/sniffer" }
  helperNamed := by simp

/-- Two interfaces of one helper. -/
def waitingSession : Session := ⟨[waitingEntry "wlan0", waitingEntry "wlan1"]⟩

/-- A shelf on which nothing stands. -/
def emptyDesk : Desk DiskView := ⟨.empty, [], ⟨fun _ => none, []⟩⟩

/-- The channel cannot be made, and a file is left where there was none. -/
theorem stuck_reservation_left :
    let made := (fifoMaker (jammedCalls "/tmp/x_now_t_") ChannelBook.shelfNames
      ⟨"x", "/tmp"⟩).create emptyDesk.machine
    made.1 = .error (.host (cannotReserve "/tmp" (.system ⟨5, "Input/output error", []⟩))) ∧
      emptyDesk.machine.files "/tmp/x_now_t_" = none ∧
      made.2.files "/tmp/x_now_t_" = some .other :=
  ⟨rfl, rfl, by decide⟩

/-- Of two channels the first one is made and recorded, and the second one leaves its
reserved file. -/
theorem second_reservation_left :
    let crew : Crew DiskView :=
      ⟨fifoMaker (jammedCalls "/tmp/x_now_t_i") ChannelBook.shelfNames ⟨"x", "/tmp"⟩, shelfKernel⟩
    let started := crew.start waitingSession emptyDesk
    started.1 = .ok false ∧
      newChannels waitingSession.entries started.2.1.entries = ["/tmp/x_now_t_"] ∧
      ∀ path, started.2.2.machine.files path =
        if path = "/tmp/x_now_t_i" then some .other
        else if path = "/tmp/x_now_t_" then some (.fifo ownerOnly)
        else none := by
  intro crew started
  have refused : started.1 = .ok false := rfl
  have new : newChannels waitingSession.entries started.2.1.entries = ["/tmp/x_now_t_"] := by
    decide
  refine ⟨refused, new, ?_⟩
  have leaves : shelfKernel.LeavesFiles DiskView.files := ⟨fun _ _ => rfl, fun _ _ => rfl⟩
  obtain ⟨earlier, entry, later, error, parts, failed, -, -, seen⟩ :=
    (failed_creation_leaves_reservation_only (jammedEffects "/tmp/x_now_t_i") ⟨"x", "/tmp"⟩).2.2
      shelfKernel leaves waitingSession emptyDesk started.2.1 started.2.2 (by rw [← refused])
  have left : (jammedCalls "/tmp/x_now_t_i").leftover ChannelBook.shelfNames ⟨"x", "/tmp"⟩
      (crew.startEach earlier emptyDesk).desk.machine = some "/tmp/x_now_t_i" := by
    rcases earlier with _ | ⟨first, _ | ⟨second, more⟩⟩
    · have made : (crew.maker.create emptyDesk.machine).1 = .ok ⟨"/tmp/x_now_t_", none⟩ := rfl
      exact nomatch made.symm.trans (congrArg Prod.fst failed)
    · obtain ⟨rfl, -⟩ := List.cons.inj parts
      decide
    · have short := congrArg List.length parts
      simp [waitingSession] at short
  intro path
  rw [seen path, left, new]
  simp [eq_comm, emptyDesk]

end ExtcapHost
