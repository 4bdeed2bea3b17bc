/-
Module: ExtcapHost.Proofs.Helper
Purpose: The helpers of a directory, and how each of them is run.
Main exports:
  HelperHost.Lawful, HelperHost.executables, sortNames_eq, listHelpers_of_entries,
  answerOf, runHelper_eq, runHelper_of_run
-/
import ExtcapHost.Proofs.Path
import ExtcapHost.Proofs.Record

/-!
The helpers of a directory are found by their names, in the order of these names, and
each is run in the directory under its absolute path.  Which names there are, which of them
can be executed and how a helper ends is up to the system; what is known of every system is
named here.
-/

namespace ExtcapHost

variable {σ : Type}

/-! ### What systems promise -/

/-- The names in a directory as a system lists them: each is listed once, and each is one of
a file. -/
structure ProperListing (listing : List String) : Prop where
  distinct : listing.Nodup
  named : ∀ file ∈ listing, IsFileName file
  clean : ∀ file ∈ listing, holdsZero file = false

theorem ProperListing.of_perm {listing shuffled : List String}
    (proper : ProperListing listing) (moved : listing.Perm shuffled) : ProperListing shuffled where
  distinct := moved.nodup_iff.mp proper.distinct
  named file member := proper.named file (moved.mem_iff.mpr member)
  clean file member := proper.clean file (moved.mem_iff.mpr member)

/-- What is known of a system that keeps files and runs programs.  Texts without zero
characters are refused for reasons of the system only. -/
structure HelperHost.Lawful (host : HelperHost σ) : Prop where
  rooted : ∀ {directory : String}, host.workingDirectory = .ok directory →
    directory.toList.head? = some '/' ∧ holdsZero directory = false
  listed : ∀ {machine : σ} {directory : String} {listing : List String},
    host.entries machine directory = .ok listing → ProperListing listing
  unlisted : ∀ {machine : σ} {directory : String} {fault : Fault},
    holdsZero directory = false → host.entries machine directory = .error fault →
      ∃ error, fault = .system error
  refused : ∀ (invocation : Invocation) {machine : σ} {fault : Fault},
    holdsZero invocation.helper = false → holdsZero invocation.directory = false →
      (∀ text ∈ invocation.arguments, holdsZero text = false) →
        (host.run invocation machine).1 = .error fault → ∃ error, fault = .system error

theorem holdsZero_eq_false {text : String} :
    holdsZero text = false ↔ ∀ c ∈ text.toList, c.toNat ≠ 0 := by
  simp [holdsZero]

namespace HelperHost.Lawful

variable {host : HelperHost σ} {directory path : String}

/-- An absolute form is absolute. -/
theorem located_isAbsolute (lawful : host.Lawful) (located : host.absolute directory = .ok path) :
    IsAbsolutePath path := by
  unfold absolute at located
  split at located
  · rw [← Except.ok.inj located]
    exact absolutePath_isAbsolute rfl directory
  · cases working : host.workingDirectory with
    | error fault =>
        rw [working] at located
        cases located
    | ok base =>
        rw [working] at located
        rw [← Except.ok.inj located]
        exact absolutePath_isAbsolute (lawful.rooted working).1 directory

/-- An absolute form has zero characters only if the path has. -/
theorem located_clean (lawful : host.Lawful) (located : host.absolute directory = .ok path)
    (clean : holdsZero directory = false) : holdsZero path = false := by
  have kept : ∀ base : String, base.toList.head? = some '/' → holdsZero base = false →
      holdsZero (absolutePath base directory) = false := by
    intro base rooted cleanBase
    rw [holdsZero_eq_false] at clean cleanBase ⊢
    intro c member
    rcases mem_absolutePath rooted member with rfl | ofBase | ofPath
    · decide
    · exact cleanBase c ofBase
    · exact clean c ofPath
  unfold absolute at located
  split at located
  · rw [← Except.ok.inj located]
    exact kept "/" rfl rfl
  · cases working : host.workingDirectory with
    | error fault =>
        rw [working] at located
        cases located
    | ok base =>
        rw [working] at located
        rw [← Except.ok.inj located]
        exact kept base (lawful.rooted working).1 (lawful.rooted working).2

end HelperHost.Lawful

/-! ### Names in their order -/

theorem sortNames_perm (names : List String) : (sortNames names).Perm names :=
  List.mergeSort_perm names _

theorem mem_sortNames {names : List String} {name : String} :
    name ∈ sortNames names ↔ name ∈ names :=
  (sortNames_perm names).mem_iff

theorem sortNames_pairwise (names : List String) : (sortNames names).Pairwise (· ≤ ·) := by
  have sorted := @List.pairwise_mergeSort _ (fun one two : String => decide (one ≤ two))
    (by
      intro one two three first second
      simp only [decide_eq_true_eq] at first second ⊢
      exact String.le_trans first second)
    (by
      intro one two
      simp only [Bool.or_eq_true, decide_eq_true_eq]
      exact String.le_total one two)
    names
  simpa [sortNames] using sorted

/-- There is only one way to put names in their order. -/
theorem sortNames_eq {names sorted : List String} (ordered : sorted.Pairwise (· ≤ ·))
    (same : names.Perm sorted) : sortNames names = sorted := by
  refine ((sortNames_perm names).trans same).eq_of_pairwise ?_ (sortNames_pairwise names) ordered
  intro one two _ _ before behind
  exact String.le_antisymm before behind

/-- Distinct names are in strict order. -/
theorem sortNames_strict {names : List String} (distinct : names.Nodup) :
    (sortNames names).Pairwise (· < ·) := by
  have apart : (sortNames names).Nodup := (sortNames_perm names).nodup_iff.mpr distinct
  refine (List.Pairwise.and (sortNames_pairwise names) apart).imp ?_
  rintro one two ⟨before, other⟩
  apply String.not_le.mp
  intro behind
  exact other (String.le_antisymm before behind)

/-! ### The helpers of a directory -/

theorem HelperHost.isExecutable_iff {host : HelperHost σ} {machine : σ} {path : String} :
    host.isExecutable machine path = true ↔
      host.isFile machine path = .ok true ∧ host.mayExecute machine path = .ok true := by
  unfold isExecutable
  cases host.isFile machine path with
  | error refusal => simp [bind, Except.bind]
  | ok isFile =>
      cases isFile with
      | false => simp [bind, Except.bind, pure, Except.pure]
      | true => cases host.mayExecute machine path <;> simp [bind, Except.bind]

/-- The names in a directory that can be executed. -/
def HelperHost.executables (host : HelperHost σ) (machine : σ) (directory : String)
    (listing : List String) : List String :=
  listing.filter fun file => host.isExecutable machine (joinPath directory file)

theorem ProperListing.executables {listing : List String} (proper : ProperListing listing)
    (host : HelperHost σ) (machine : σ) (directory : String) :
    ProperListing (host.executables machine directory listing) where
  distinct := proper.distinct.filter _
  named file member := proper.named file (List.mem_filter.mp member).1
  clean file member := proper.clean file (List.mem_filter.mp member).1

/-- The helpers of a directory are its executable entries, by their paths. -/
theorem listHelpers_of_entries {host : HelperHost σ} {directory : String} {machine : σ}
    {listing : List String} (absolute : IsAbsolutePath directory)
    (read : host.entries machine directory = .ok listing) (proper : ProperListing listing) :
    listHelpers host directory machine =
      .ok ((sortNames (host.executables machine directory listing)).map fun file =>
        joinPath directory file) := by
  have paths : (sortNames listing).map (fun file => normalizePath (joinPath directory file)) =
      (sortNames listing).map fun file => joinPath directory file := by
    refine List.map_congr_left fun file member => ?_
    exact (absolute.join (proper.named file (mem_sortNames.mp member))).normalize
  -- Whether names are sorted or picked first is of no account.
  have sorted : sortNames (host.executables machine directory listing) =
      (sortNames listing).filter fun file =>
        host.isExecutable machine (joinPath directory file) :=
    sortNames_eq ((sortNames_pairwise listing).filter _) ((sortNames_perm listing).symm.filter _)
  simp only [listHelpers, read, paths, sorted, List.filter_map]
  rfl

/-! ### Runs of helpers -/

/-- The answer of a helper by the way in which it ended. -/
def answerOf (path : String) : Except Fault Finished → Except Fault String
  | .ok finished =>
      if finished.status = 0 then .ok (Text.decodeOutput finished.output)
      else
        .error (.host (.probe path
          (some ("exited with status " ++ String.ofList (Text.writeInteger finished.status)))))
  | .error (.system error) => .error (.host (.probe path (some error.text)))
  | .error fault => .error fault

theorem HelperHost.absolute_of_isAbsolute (host : HelperHost σ) {path : String}
    (absolute : IsAbsolutePath path) : host.absolute path = .ok path := by
  rw [HelperHost.absolute, if_pos absolute.head, absolute.absolute "/"]

/-- A helper is run once, in its own directory. -/
theorem runHelper_eq (host : HelperHost σ) {helper path : String}
    (located : host.absolute helper = .ok path) (arguments : List String) (machine : σ) :
    let ended := host.run ⟨path, directoryPath path, arguments⟩ machine
    runHelper host helper arguments machine = (answerOf path ended.1, ended.2) := by
  rcases ended : host.run ⟨path, directoryPath path, arguments⟩ machine with ⟨outcome, next⟩
  simp only [runHelper, located, ended, answerOf]
  cases outcome with
  | ok finished =>
      simp only
      split <;> rfl
  | error fault => cases fault <;> rfl

/-- Recording the calls changes nothing. -/
theorem runHelper_recorded (host : HelperHost σ) (helper : String) (arguments : List String)
    (machine : Recorded σ) :
    runHelper host helper arguments machine.machine =
      ((runHelper host.recorded helper arguments machine).1,
        (runHelper host.recorded helper arguments machine).2.machine) := by
  cases located : host.absolute helper with
  | error fault =>
      have locatedToo : host.recorded.absolute helper = .error fault := located
      simp only [runHelper, located, locatedToo]
  | ok path =>
      have locatedToo : host.recorded.absolute helper = .ok path := located
      rw [runHelper_eq host located, runHelper_eq host.recorded locatedToo]
      rfl

/-- A helper of a directory, to be run there. -/
def entryInvocation (directory file : String) (arguments : List String) : Invocation :=
  ⟨joinPath directory file, directory, arguments⟩

/-- The helper of a directory is run in that directory, and recorded. -/
theorem runHelper_of_run {host : HelperHost σ} {directory file : String}
    (absolute : IsAbsolutePath directory) (proper : IsFileName file) {arguments : List String}
    {machine : Recorded σ} {outcome : Except Fault Finished} {next : σ}
    (ended : host.run (entryInvocation directory file arguments) machine.machine =
      (outcome, next)) :
    runHelper host.recorded (joinPath directory file) arguments machine =
      (answerOf (joinPath directory file) outcome,
        machine.after next (.ofRun (entryInvocation directory file arguments) outcome)) := by
  have located := host.recorded.absolute_of_isAbsolute (absolute.join proper)
  have ran := runHelper_eq host.recorded located arguments machine
  rw [absolute.directory_join proper] at ran
  rw [ran]
  simp only [HelperHost.recorded_run]
  rw [← entryInvocation, ended]

namespace HelperHost.Lawful

/-- If a helper of a directory could not be run, the system had a reason. -/
theorem entry_refused {host : HelperHost σ} (lawful : host.Lawful) {directory file : String}
    (clean : holdsZero directory = false) (cleanToo : holdsZero file = false)
    {arguments : List String} (told : ∀ text ∈ arguments, holdsZero text = false)
    {machine next : σ} {fault : Fault}
    (ended : host.run (entryInvocation directory file arguments) machine = (.error fault, next)) :
    ∃ error, fault = .system error := by
  have joined : holdsZero (joinPath directory file) = false := by
    rw [holdsZero_eq_false] at clean cleanToo ⊢
    intro c member
    rcases mem_joinPath member with rfl | ofDirectory | ofFile
    · decide
    · exact clean c ofDirectory
    · exact cleanToo c ofFile
  have refused : (host.run (entryInvocation directory file arguments) machine).1 = .error fault := by
    rw [ended]
  exact lawful.refused (entryInvocation directory file arguments) joined clean told refused

end HelperHost.Lawful

end ExtcapHost
