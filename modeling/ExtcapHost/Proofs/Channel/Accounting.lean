/-
Module: ExtcapHost.Proofs.Channel.Accounting
Purpose: The files of FIFO channels are there exactly as long as the channels are.
Main exports:
  FileKind, DiskView, DiskLaws, FileCalls.Refuses, fifoMaker_create, fifoMaker_release,
  ChannelRequest, ChannelBook, ChannelBook.InStep, ChannelBook.FilesFollow,
  ChannelBook.files_follow_channels
-/
import ExtcapHost.Proofs.Channel.Removal
import Mathlib.Logic.Function.Basic

/-!
A FIFO is made in four calls, and the name that the first one reserves is a file already.
So what a call does to the files is said of each call by itself, and put together once for
making a channel and once for removing one.  The rest is an account of what was returned and
what was handed back: whatever is asked of a maker of FIFOs, and whichever calls fail, the
account and the files agree.
-/

namespace ExtcapHost

variable {σ : Type}

/-! ### What calls do to the files -/

/-- What stands under a path. -/
inductive FileKind where
  | fifo (mode : Nat)
  | other
deriving DecidableEq, Repr

/-- What there is to know about the files of a machine: what stands under each path, and the
names that were ever reserved. -/
structure DiskView where
  files : String → Option FileKind
  given : List String

namespace DiskView

/-- The files with one of them put in place, or taken away. -/
def set (disk : DiskView) (path : String) (kind : Option FileKind) : DiskView :=
  { disk with files := Function.update disk.files path kind }

/-- A name that was given out. -/
def give (disk : DiskView) (path : String) : DiskView :=
  { disk with given := path :: disk.given }

theorem set_set (disk : DiskView) (path : String) (one two : Option FileKind) :
    (disk.set path one).set path two = disk.set path two := by
  rw [set, set, set, Function.update_idem]

theorem set_same {disk : DiskView} {path : String} {kind : Option FileKind}
    (same : disk.files path = kind) : disk.set path kind = disk := by
  rw [set, ← same, Function.update_eq_self]

end DiskView

/-- What the calls on files do.  A reserved name is that of a new file, which no file had and
which was not reserved before.  Names are reserved, and FIFOs are made, unless the system
refuses; what is there can be removed.  A call that fails leaves the files as they are, and
so does closing one. -/
structure DiskLaws (files : FileCalls σ) (names : NameSource σ) (view : σ → DiskView) :
    Prop where
  token : ∀ machine, view (names.token machine).2 = view machine
  present : ∀ machine path, files.present machine path = ((view machine).files path).isSome
  reserved : ∀ {word directory machine path next},
    files.reserve word directory machine = (.ok path, next) →
      path ≠ "" ∧ (view machine).files path = none ∧ path ∉ (view machine).given ∧
        view next = ((view machine).give path).set path (some .other)
  refused : ∀ {word directory machine fault next},
    files.reserve word directory machine = (.error fault, next) →
      (∃ error, fault = .system error) ∧ view next = view machine
  closed : ∀ path machine, view (files.close path machine).2 = view machine
  removed : ∀ path machine, (view machine).files path ≠ none →
    ∃ next, files.remove path machine = (.ok (), next) ∧
      view next = (view machine).set path none
  missing : ∀ path machine, (view machine).files path = none →
    ∃ error next, files.remove path machine = (.error (.system error), next) ∧
      error.isNoEntry = true ∧ view next = view machine
  made : ∀ {mode path machine next}, files.makeFifo mode path machine = (.ok (), next) →
    view next = (view machine).set path (some (.fifo mode))
  unmade : ∀ {mode path machine fault next},
    files.makeFifo mode path machine = (.error fault, next) →
      ((∃ error, fault = .system error) ∨ ∃ message, fault = .unsupported message) ∧
        view next = view machine

/-- The call that reserves a name for a channel which is to be made on a machine. -/
def FileCalls.reserveNext (files : FileCalls σ) (names : NameSource σ) (settings : FifoSettings)
    (machine : σ) : Except Fault String × σ :=
  files.reserve ((names.next settings.word machine).1 ++ "_") settings.directory
    (names.next settings.word machine).2

/-- The system refuses a channel which is to be made on a machine, and so it is told: its name
cannot be reserved, or its FIFO cannot be made once the reserved file was closed and removed. -/
inductive FileCalls.Refuses (files : FileCalls σ) (names : NameSource σ)
    (settings : FifoSettings) (machine : σ) : HostError → Prop where
  | name {fault : Fault} {next : σ}
      (call : files.reserveNext names settings machine = (.error fault, next)) :
      Refuses files names settings machine (cannotReserve settings.directory fault)
  | fifo {path : String} {reserved closed freed next : σ} {fault : Fault}
      (naming : files.reserveNext names settings machine = (.ok path, reserved))
      (closing : files.close path reserved = (.ok (), closed))
      (freeing : files.remove path closed = (.ok (), freed))
      (call : files.makeFifo ownerOnly path freed = (.error fault, next)) :
      Refuses files names settings machine (cannotMakeFifo path fault)

theorem FileCalls.Refuses.isChannel {files : FileCalls σ} {names : NameSource σ}
    {settings : FifoSettings} {machine : σ} {error : HostError}
    (refuses : files.Refuses names settings machine error) :
    ∃ message details, error = .channel message details := by
  cases refuses <;> exact ⟨_, _, rfl⟩

/-- Closing a file never fails. -/
def FileCalls.ClosesAlways (files : FileCalls σ) : Prop :=
  ∀ path machine, (files.close path machine).1 = .ok ()

section

variable {files : FileCalls σ} {names : NameSource σ} {view : σ → DiskView}

/-! ### Making and removing one channel -/

/-- Removing a FIFO ends well, and then there is none, whether or not there was one. -/
theorem removeFifo_view (laws : DiskLaws files names view) {path : String} (named : path ≠ "")
    (machine : σ) :
    ∃ next, removeFifo files (some path) machine = (.ok (), next) ∧
      view next = (view machine).set path none := by
  rw [removeFifo_of_named named]
  by_cases absent : (view machine).files path = none
  · obtain ⟨error, next, refused, noEntry, same⟩ := laws.missing path machine absent
    refine ⟨next, ?_, ?_⟩
    · simp only [refused, noEntry, if_true]
    · rw [same, DiskView.set_same absent]
  · obtain ⟨next, removed, seen⟩ := laws.removed path machine absent
    exact ⟨next, by rw [removed], seen⟩

/-- Reserving a name leaves a file under it, or the system refuses that, and it fails with a
failure of channels and leaves the files as they are. -/
theorem reserveFifo_view (laws : DiskLaws files names view) (closes : files.ClosesAlways)
    (settings : FifoSettings) (machine : σ) :
    (∃ path reserved next, files.reserveNext names settings machine = (.ok path, reserved) ∧
      files.close path reserved = (.ok (), next) ∧
      reserveFifo files names settings machine = (.ok path, next) ∧ path ≠ "" ∧
      (view machine).files path = none ∧ path ∉ (view machine).given ∧
      view next = ((view machine).give path).set path (some .other)) ∨
    ∃ error next, reserveFifo files names settings machine = (.error (.host error), next) ∧
      files.Refuses names settings machine error ∧ view next = view machine := by
  have same : view (names.next settings.word machine).2 = view machine := laws.token machine
  rcases called : files.reserveNext names settings machine with ⟨outcome, after⟩
  have reserves : files.reserve ((names.next settings.word machine).1 ++ "_")
      settings.directory (names.next settings.word machine).2 = (outcome, after) := called
  cases outcome with
  | ok path =>
      obtain ⟨filled, absent, fresh, seen⟩ := laws.reserved reserves
      rw [same] at absent fresh seen
      rcases closed : files.close path after with ⟨result, last⟩
      have still := laws.closed path after
      have done := closes path after
      rw [closed] at still done
      cases done
      refine .inl ⟨path, after, last, rfl, closed, ?_, filled, absent, fresh, still.trans seen⟩
      simp only [reserveFifo, reserves, closed]
  | error fault =>
      obtain ⟨⟨error, rfl⟩, seen⟩ := laws.refused reserves
      refine .inr ⟨_, after, ?_, .name called, seen.trans same⟩
      simp only [reserveFifo, reserves]

/-- Putting a FIFO in the place of a file leaves the FIFO there, or the system refuses that,
and it fails with a failure of channels and leaves nothing there. -/
theorem replaceByFifo_view (laws : DiskLaws files names view) {path : String} {machine : σ}
    (there : (view machine).files path ≠ none) :
    ∃ freed, files.remove path machine = (.ok (), freed) ∧
      ((∃ next, replaceByFifo files path machine = (.ok ⟨path, none⟩, next) ∧
          view next = (view machine).set path (some (.fifo ownerOnly))) ∨
        ∃ fault next, files.makeFifo ownerOnly path freed = (.error fault, next) ∧
          replaceByFifo files path machine =
            (.error (.host (cannotMakeFifo path fault)), next) ∧
          view next = (view machine).set path none) := by
  have present : files.present machine path = true := by
    rw [laws.present, Option.isSome_iff_ne_none]
    exact there
  obtain ⟨freed, removed, seen⟩ := laws.removed path machine there
  refine ⟨freed, removed, ?_⟩
  rcases called : files.makeFifo ownerOnly path freed with ⟨outcome, next⟩
  cases outcome with
  | ok _ =>
      refine .inl ⟨next, ?_, ?_⟩
      · simp only [replaceByFifo, present, if_true, removed, called]
      · rw [laws.made called, seen, DiskView.set_set]
  | error fault =>
      obtain ⟨cause, still⟩ := laws.unmade called
      refine .inr ⟨fault, next, rfl, ?_, still.trans seen⟩
      rcases cause with ⟨error, rfl⟩ | ⟨message, rfl⟩
      · simp only [replaceByFifo, present, if_true, removed, called]
      · simp only [replaceByFifo, present, if_true, removed, called]

/-- Making a channel gives one with a new name and leaves its FIFO under that name, or the
system refuses that, and it fails with a failure of channels and leaves the files as they
are. -/
theorem fifoMaker_create (laws : DiskLaws files names view) (closes : files.ClosesAlways)
    (settings : FifoSettings) (machine : σ) :
    (∃ path next, (fifoMaker files names settings).create machine = (.ok ⟨path, none⟩, next) ∧
      path ≠ "" ∧ (view machine).files path = none ∧ path ∉ (view machine).given ∧
      view next = ((view machine).give path).set path (some (.fifo ownerOnly))) ∨
    ∃ error next, (fifoMaker files names settings).create machine =
        (.error (.host error), next) ∧
      files.Refuses names settings machine error ∧
      (view next).files = (view machine).files ∧
      (view machine).given ⊆ (view next).given := by
  rcases reserveFifo_view laws closes settings machine with
    ⟨path, between, after, naming, closing, reserved, named, absent, fresh, seen⟩ |
      ⟨error, next, refused, refuses, seen⟩
  · have there : (view after).files path ≠ none := by
      rw [seen, DiskView.set]
      simp only [Function.update_self, ne_eq, reduceCtorEq, not_false_eq_true]
    obtain ⟨freed, freeing, ⟨next, replaced, placed⟩ | ⟨fault, next, call, failed, cleared⟩⟩ :=
      replaceByFifo_view laws there
    · left
      refine ⟨path, next, ?_, named, absent, fresh, ?_⟩
      · simp only [fifoMaker, reserved, replaced]
      · rw [placed, seen, DiskView.set_set]
    · right
      have gone : view next = (view machine).give path := by
        rw [cleared, seen, DiskView.set_set]
        exact DiskView.set_same absent
      refine ⟨_, next, ?_, .fifo naming closing freeing call, ?_, ?_⟩
      · simp only [fifoMaker, reserved, failed]
      · rw [gone]
        rfl
      · rw [gone]
        exact List.subset_cons_self _ _
  · right
    refine ⟨error, next, ?_, refuses, ?_, ?_⟩
    · simp only [fifoMaker, refused]
    · rw [seen]
    · rw [seen]
      exact List.Subset.refl _

/-- Removing a channel ends well.  If there is a path, nothing stands under it then, and
nothing else changes. -/
theorem fifoMaker_release (laws : DiskLaws files names view) (settings : FifoSettings)
    (path handle : Option String) (named : ∀ name ∈ path, name ≠ "") (machine : σ) :
    ∃ next, (fifoMaker files names settings).release path handle machine = (.ok (), next) ∧
      view next = path.elim (view machine) fun name => (view machine).set name none := by
  cases path with
  | none => exact ⟨machine, rfl, rfl⟩
  | some name => exact removeFifo_view laws (named name rfl) machine

end

/-! ### What is asked of a maker of channels -/

/-- A request: to make a channel, or to remove one of those that were returned, counted from
the first one.  To remove none of them is a request too. -/
inductive ChannelRequest where
  | create
  | release (place : Option Nat)
deriving DecidableEq, Repr

/-- What comes of a request. -/
inductive ChannelReply where
  | made (result : Except Fault Channel)
  | removed (result : Except Fault Unit)

/-- The account of a maker of channels: the machine, the channels that it has returned, and
the paths that were handed back to it. -/
structure ChannelBook (σ : Type) where
  machine : σ
  returned : List Channel
  released : List String

namespace ChannelBook

/-- The account before the first request. -/
def opened (machine : σ) : ChannelBook σ :=
  ⟨machine, [], []⟩

/-- The paths that were returned. -/
def paths (book : ChannelBook σ) : List String :=
  book.returned.map Channel.path

/-- The paths that were returned and not handed back. -/
def live (book : ChannelBook σ) : List String :=
  book.paths.filter fun path => path ∉ book.released

/-- The channel that a place stands for. -/
def channel? (book : ChannelBook σ) (place : Option Nat) : Option Channel :=
  place.bind fun place => book.returned[place]?

/-- Write down a channel that was returned. -/
def enter (book : ChannelBook σ) (channel : Channel) (machine : σ) : ChannelBook σ :=
  { book with machine, returned := book.returned ++ [channel] }

/-- Write down a path that was handed back, if it is one. -/
def strike (book : ChannelBook σ) (path : Option String) (machine : σ) : ChannelBook σ :=
  { book with machine, released := path.toList ++ book.released }

/-- Serve one request. -/
def serve (maker : ChannelMaker σ) (book : ChannelBook σ) :
    ChannelRequest → ChannelReply × ChannelBook σ
  | .create =>
      match maker.create book.machine with
      | (.ok channel, machine) => (.made (.ok channel), book.enter channel machine)
      | (.error fault, machine) => (.made (.error fault), { book with machine })
  | .release place =>
      let path := (book.channel? place).map Channel.path
      let handle := (book.channel? place).bind Channel.handle
      let (result, machine) := maker.release path handle book.machine
      (.removed result, book.strike path machine)

/-- Serve requests one after the other. -/
def run (maker : ChannelMaker σ) (book : ChannelBook σ) (requests : List ChannelRequest) :
    ChannelBook σ :=
  requests.foldl (fun book request => (book.serve maker request).2) book

theorem mem_live {book : ChannelBook σ} {path : String} :
    path ∈ book.live ↔ path ∈ book.paths ∧ path ∉ book.released := by
  rw [live, List.mem_filter, decide_eq_true_iff]

theorem mem_paths_of_channel? {book : ChannelBook σ} {place : Option Nat} {channel : Channel}
    (found : book.channel? place = some channel) : channel.path ∈ book.paths := by
  obtain ⟨place, -, inside⟩ := Option.bind_eq_some_iff.mp found
  exact List.mem_map.mpr ⟨channel, List.mem_of_getElem? inside, rfl⟩

@[simp] theorem paths_enter (book : ChannelBook σ) (channel : Channel) (machine : σ) :
    (book.enter channel machine).paths = book.paths ++ [channel.path] :=
  List.map_append

@[simp] theorem paths_strike (book : ChannelBook σ) (path : Option String) (machine : σ) :
    (book.strike path machine).paths = book.paths := rfl

theorem mem_live_enter {book : ChannelBook σ} {channel : Channel} {machine : σ}
    (kept : channel.path ∉ book.released) {path : String} :
    path ∈ (book.enter channel machine).live ↔ path = channel.path ∨ path ∈ book.live := by
  rw [mem_live, mem_live, paths_enter, List.mem_append, List.mem_singleton]
  change (_ ∨ _) ∧ path ∉ book.released ↔ _
  by_cases same : path = channel.path
  · simp only [same, or_true, true_and, kept, not_false_eq_true, true_or]
  · simp only [same, or_false, false_or]

theorem mem_live_strike {book : ChannelBook σ} {name : String} {machine : σ} {path : String} :
    path ∈ (book.strike (some name) machine).live ↔ path ≠ name ∧ path ∈ book.live := by
  rw [mem_live, mem_live, paths_strike]
  change _ ∧ path ∉ name :: book.released ↔ _
  rw [List.mem_cons, not_or, and_left_comm]

/-! ### The account and the files -/

/-- The account agrees with the files: the FIFOs of the live channels stand where nothing
stood at the start, and everything else is as it was. -/
structure InStep (view : σ → DiskView) (start : σ) (book : ChannelBook σ) : Prop where
  files : ∀ path, (view book.machine).files path =
    if path ∈ book.live then some (.fifo ownerOnly) else (view start).files path
  distinct : book.paths.Nodup
  given : ∀ path ∈ book.paths, path ∈ (view book.machine).given
  fresh : ∀ path ∈ book.paths, path ≠ "" ∧ (view start).files path = none
  handed : ∀ path ∈ book.released, path ∈ book.paths

theorem opened_inStep (view : σ → DiskView) (start : σ) : InStep view start (opened start) where
  files _ := rfl
  distinct := .nil
  given := nofun
  fresh := nofun
  handed := nofun

namespace InStep

variable {view : σ → DiskView} {start : σ} {book : ChannelBook σ}
  (inStep : InStep view start book)

include inStep

/-- Where no live channel stands, the files are as they were at the start. -/
theorem files_of_not_live {path : String} (dead : path ∉ book.live) :
    (view book.machine).files path = (view start).files path := by
  rw [inStep.files, if_neg dead]

/-- The path of a returned channel that is not live any more is free. -/
theorem vacant {path : String} (returned : path ∈ book.paths) (dead : path ∉ book.live) :
    (view book.machine).files path = none := by
  rw [inStep.files_of_not_live dead]
  exact (inStep.fresh path returned).2

/-- A channel under a new name keeps the account in step. -/
theorem enter {path : String} {handle : Option String} {next : σ} (named : path ≠ "")
    (absent : (view book.machine).files path = none)
    (unused : path ∉ (view book.machine).given)
    (seen : view next =
      ((view book.machine).give path).set path (some (.fifo ownerOnly))) :
    InStep view start (book.enter ⟨path, handle⟩ next) := by
  -- A name that was not given out before is neither returned nor handed back.
  have unreturned : path ∉ book.paths := fun member => unused (inStep.given path member)
  have kept : path ∉ book.released := fun member => unreturned (inStep.handed path member)
  have vacant : (view start).files path = none := by
    rw [← inStep.files_of_not_live fun member => unreturned (mem_live.mp member).1]
    exact absent
  have returned {other : String} (member : other ∈ (book.enter ⟨path, handle⟩ next).paths) :
      other = path ∨ other ∈ book.paths := by
    rw [paths_enter, List.mem_append, List.mem_singleton] at member
    exact member.symm
  have live (other : String) :
      other ∈ (book.enter ⟨path, handle⟩ next).live ↔ other = path ∨ other ∈ book.live :=
    mem_live_enter kept
  constructor
  case files =>
    intro other
    change (view next).files other = _
    simp only [live, seen, DiskView.set, DiskView.give]
    by_cases same : other = path
    · rw [same, Function.update_self, if_pos (.inl rfl)]
    · rw [Function.update_of_ne same, inStep.files]
      simp only [same, false_or]
  case distinct =>
    rw [paths_enter, List.nodup_append]
    refine ⟨inStep.distinct, List.pairwise_singleton _ path, ?_⟩
    rintro other old one here rfl
    rw [List.mem_singleton.mp here] at old
    exact unreturned old
  case given =>
    intro other member
    change other ∈ (view next).given
    rw [seen]
    exact List.mem_cons.mpr ((returned member).imp_right (inStep.given other))
  case fresh =>
    intro other member
    rcases returned member with rfl | old
    · exact ⟨named, vacant⟩
    · exact inStep.fresh other old
  case handed =>
    intro other member
    rw [paths_enter]
    exact List.mem_append_left _ (inStep.handed other member)

/-- A machine on which the files are the same, and no name is forgotten, keeps the account
in step. -/
theorem renew {next : σ} (same : (view next).files = (view book.machine).files)
    (grown : (view book.machine).given ⊆ (view next).given) :
    InStep view start { book with machine := next } where
  files path := by
    change (view next).files path = _
    rw [same]
    exact inStep.files path
  distinct := inStep.distinct
  given path member := grown (inStep.given path member)
  fresh := inStep.fresh
  handed := inStep.handed

/-- A path that was returned, and under which nothing stands any more, can be struck out. -/
theorem strike {path : String} {next : σ} (returned : path ∈ book.paths)
    (seen : view next = (view book.machine).set path none) :
    InStep view start (book.strike (some path) next) where
  files other := by
    change (view next).files other = _
    simp only [mem_live_strike, seen, DiskView.set]
    by_cases same : other = path
    · rw [same, Function.update_self, if_neg fun live => live.1 rfl,
        (inStep.fresh path returned).2]
    · rw [Function.update_of_ne same, inStep.files]
      simp only [ne_eq, same, not_false_eq_true, true_and]
  distinct := inStep.distinct
  given other member := by
    change other ∈ (view next).given
    rw [seen]
    exact inStep.given other member
  fresh := inStep.fresh
  handed other member := by
    rcases List.mem_cons.mp member with rfl | old
    · exact returned
    · exact inStep.handed other old

end InStep

section

variable {files : FileCalls σ} {names : NameSource σ} {view : σ → DiskView}
  (laws : DiskLaws files names view) (settings : FifoSettings) {start : σ}
  {book : ChannelBook σ}

include laws

/-- To ask for a channel keeps the account in step.  It fails only if the system refuses this
channel, and with a failure of channels that says so. -/
theorem InStep.create (closes : files.ClosesAlways) (inStep : InStep view start book) :
    InStep view start (book.serve (fifoMaker files names settings) .create).2 ∧
      ∀ fault, (book.serve (fifoMaker files names settings) .create).1 = .made (.error fault) →
        ∃ message details, fault = .host (.channel message details) ∧
          files.Refuses names settings book.machine (.channel message details) := by
  rcases fifoMaker_create laws closes settings book.machine with
    ⟨path, next, made, named, absent, unused, seen⟩ |
      ⟨error, next, failed, refuses, same, grown⟩
  · simp only [serve, made]
    exact ⟨inStep.enter named absent unused seen, nofun⟩
  · simp only [serve, failed]
    refine ⟨inStep.renew same grown, ?_⟩
    rintro _ ⟨⟩
    obtain ⟨message, details, rfl⟩ := refuses.isChannel
    exact ⟨message, details, rfl, refuses⟩

/-- To hand a channel back ends well, and then nothing stands under its path. -/
theorem InStep.serve_release (inStep : InStep view start book) (place : Option Nat) :
    ∃ next, book.serve (fifoMaker files names settings) (.release place) =
        (.removed (.ok ()), book.strike ((book.channel? place).map Channel.path) next) ∧
      view next = ((book.channel? place).map Channel.path).elim (view book.machine)
        fun name => (view book.machine).set name none := by
  have named : ∀ name ∈ (book.channel? place).map Channel.path, name ≠ "" := by
    intro name member
    obtain ⟨channel, found, rfl⟩ := Option.map_eq_some_iff.mp member
    exact (inStep.fresh _ (mem_paths_of_channel? found)).1
  obtain ⟨next, removed, seen⟩ := fifoMaker_release laws settings _
    ((book.channel? place).bind Channel.handle) named book.machine
  exact ⟨next, by simp only [serve, removed], seen⟩

/-- To hand a channel back keeps the account in step. -/
theorem InStep.release (inStep : InStep view start book) (place : Option Nat) :
    InStep view start (book.serve (fifoMaker files names settings) (.release place)).2 := by
  obtain ⟨next, served, seen⟩ := inStep.serve_release laws settings place
  rw [served]
  cases found : book.channel? place with
  | none =>
      rw [found] at seen
      have same : view next = view book.machine := seen
      exact inStep.renew (by rw [same]) (by rw [same]; exact List.Subset.refl _)
  | some channel =>
      rw [found] at seen
      exact inStep.strike (mem_paths_of_channel? found) seen

/-- A channel that was handed back before leaves everything as it is. -/
theorem InStep.release_again (inStep : InStep view start book) {place : Option Nat}
    (done : ∀ channel ∈ book.channel? place, channel.path ∈ book.released) :
    view (book.serve (fifoMaker files names settings) (.release place)).2.machine =
      view book.machine := by
  obtain ⟨next, served, seen⟩ := inStep.serve_release laws settings place
  rw [served]
  refine seen.trans ?_
  cases found : book.channel? place with
  | none => rfl
  | some channel =>
      have dead : channel.path ∉ book.live :=
        fun live => (mem_live.mp live).2 (done channel found)
      exact DiskView.set_same (inStep.vacant (mem_paths_of_channel? found) dead)

/-- Whatever is asked for, and whatever fails, the account stays in step. -/
theorem InStep.run (closes : files.ClosesAlways) (inStep : InStep view start book)
    (requests : List ChannelRequest) :
    InStep view start (book.run (fifoMaker files names settings) requests) := by
  induction requests generalizing book with
  | nil => exact inStep
  | cons request rest ih =>
      refine ih ?_
      cases request with
      | create => exact (inStep.create laws settings closes).1
      | release place => exact inStep.release laws settings place

end

/-- The files follow the channels.  There are the files of the start and, in places that
were free then, one FIFO for each live channel, which only its owner may use; no two
channels were ever returned under one path.  To ask for a channel fails only if the system
refuses to reserve its name or to make its FIFO, with the failure of channels that says so; to
hand one back never fails, and changes nothing if that was done before or if there is none. -/
structure FilesFollow (files : FileCalls σ) (names : NameSource σ) (view : σ → DiskView)
    (settings : FifoSettings) (start : σ) (book : ChannelBook σ) : Prop where
  present_iff : ∀ path, files.present book.machine path = true ↔
    files.present start path = true ∨ path ∈ book.live
  added : ∀ path ∈ book.live, files.present start path = false ∧
    (view book.machine).files path = some (.fifo 0o600)
  kept : ∀ path, path ∉ book.live → (view book.machine).files path = (view start).files path
  distinct : book.paths.Nodup
  create_fails : ∀ fault,
    (book.serve (fifoMaker files names settings) .create).1 = .made (.error fault) →
      ∃ message details, fault = .host (.channel message details) ∧
        files.Refuses names settings book.machine (.channel message details)
  release_ends : ∀ place,
    (book.serve (fifoMaker files names settings) (.release place)).1 = .removed (.ok ())
  release_again : ∀ place, (∀ channel ∈ book.channel? place, channel.path ∈ book.released) →
    view (book.serve (fifoMaker files names settings) (.release place)).2.machine =
      view book.machine

/-- The files follow the channels after any number of requests to a maker of FIFOs,
whichever reservations and FIFOs the system refuses on the way. -/
theorem files_follow_channels {files : FileCalls σ} {names : NameSource σ}
    {view : σ → DiskView} (laws : DiskLaws files names view) (closes : files.ClosesAlways)
    (settings : FifoSettings) (start : σ) (requests : List ChannelRequest) :
    FilesFollow files names view settings start
      ((opened start).run (fifoMaker files names settings) requests) := by
  have inStep := (opened_inStep view start).run laws settings closes requests
  generalize (opened start).run (fifoMaker files names settings) requests = book at inStep
  have free {path : String} (live : path ∈ book.live) : (view start).files path = none :=
    (inStep.fresh path (mem_live.mp live).1).2
  constructor
  case present_iff =>
    intro path
    rw [laws.present, laws.present, inStep.files]
    by_cases live : path ∈ book.live
    · simp only [live, if_true, Option.isSome_some, or_true]
    · simp only [live, if_false, or_false]
  case added =>
    intro path live
    rw [laws.present, free live, inStep.files, if_pos live]
    exact ⟨rfl, rfl⟩
  case kept => exact fun path dead => inStep.files_of_not_live dead
  case distinct => exact inStep.distinct
  case create_fails => exact (inStep.create laws settings closes).2
  case release_ends =>
    intro place
    obtain ⟨next, served, -⟩ := inStep.serve_release laws settings place
    rw [served]
  case release_again => exact fun place => inStep.release_again laws settings

/-! ### A machine with one FIFO that is refused -/

/-- Files and nothing else.  A name ends in as many strokes as there were names before; the
second FIFO is refused. -/
def shelfCalls : FileCalls DiskView where
  reserve word directory disk :=
    let strokes := String.ofList (List.replicate disk.given.length 'i')
    let path := directory ++ "/" ++ word ++ strokes
    if path ≠ "" ∧ disk.files path = none ∧ path ∉ disk.given then
      (.ok path, (disk.give path).set path (some .other))
    else (.error (.system (.alreadyExists path)), disk)
  close _ disk := (.ok (), disk)
  present disk path := (disk.files path).isSome
  remove path disk :=
    if disk.files path = none then (.error (.system (.noEntry path)), disk)
    else (.ok (), disk.set path none)
  makeFifo mode path disk :=
    if disk.given.length = 2 then (.error (.unsupported "no FIFOs"), disk)
    else (.ok (), disk.set path (some (.fifo mode)))

/-- Names all of the same time. -/
def shelfNames : NameSource DiskView where
  stamp _ := "now"
  token disk := ("t", disk)

theorem shelfLaws : DiskLaws shelfCalls shelfNames id where
  token _ := rfl
  present _ _ := rfl
  reserved := by
    intro word directory disk path next reserved
    simp only [shelfCalls] at reserved
    split at reserved
    · rename_i free
      cases reserved
      exact ⟨free.1, free.2.1, free.2.2, rfl⟩
    · cases reserved
  refused := by
    intro word directory disk fault next refused
    simp only [shelfCalls] at refused
    split at refused
    · cases refused
    · cases refused
      exact ⟨⟨_, rfl⟩, rfl⟩
  closed _ _ := rfl
  removed path disk there := ⟨disk.set path none, if_neg there, rfl⟩
  missing path disk absent := ⟨.noEntry path, disk, if_pos absent, rfl, rfl⟩
  made := by
    intro mode path disk next made
    simp only [shelfCalls] at made
    split at made
    · cases made
    · cases made
      rfl
  unmade := by
    intro mode path disk fault next unmade
    simp only [shelfCalls] at unmade
    split at unmade
    · cases unmade
      exact ⟨.inr ⟨_, rfl⟩, rfl⟩
    · cases unmade

/-- Of three channels the second one is not made; the first one is handed back twice, and
the third one is the only FIFO that is left. -/
theorem third_channel_left :
    let book := (opened (⟨fun _ => none, []⟩ : DiskView)).run
      (fifoMaker shelfCalls shelfNames ⟨"x", "/tmp"⟩)
      [.create, .create, .create, .release (some 0), .release (some 0), .release none]
    book.paths = ["/tmp/x_now_t_", "/tmp/x_now_t_ii"] ∧ book.live = ["/tmp/x_now_t_ii"] ∧
      FilesFollow shelfCalls shelfNames id ⟨"x", "/tmp"⟩ ⟨fun _ => none, []⟩ book :=
  ⟨by decide, by decide,
    files_follow_channels shelfLaws (fun _ _ => rfl) ⟨"x", "/tmp"⟩ ⟨fun _ => none, []⟩ _⟩

end ChannelBook

end ExtcapHost
