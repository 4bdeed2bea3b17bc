/-
Module: ExtcapHost.Proofs.Discovery.Survey
Purpose: A search finds the first offer of each name, and asks every helper once.
Main exports:
  Call.offers, discover_run, Survey.Faithful, discover_finds_first_offers
-/
import ExtcapHost.Proofs.Discovery.Sightings

/-!
A search is told by the calls that it made: which helpers were run in which order, and
what those that ended well have offered.  Nothing of what was registered before, and
nothing of the order in which the system lists a directory, is left in it.
-/

namespace ExtcapHost

variable {σ : Type}

/-- What a call has offered: something only if a helper was run and ended well. -/
def Call.offers : Call → List Discovered
  | .ran invocation finished =>
      if finished.status = 0 then
        (Interface.readAll (Text.decodeOutput finished.output)).map fun interface =>
          interface.offeredBy invocation.helper
      else []
  | _ => []

theorem Call.name_ne_empty {call : Call} {offer : Discovered} (offered : offer ∈ call.offers) :
    offer.name ≠ "" := by
  unfold offers at offered
  split at offered
  · split at offered
    · obtain ⟨interface, read, rfl⟩ := List.mem_map.mp offered
      exact Interface.call_ne_empty read
    · cases offered
  · cases offered

/-- What a call has offered is what was seen to be offered. -/
theorem Call.flatMap_sightings (call : Call) :
    call.sightings.flatMap Sighting.offers = call.offers := by
  cases call with
  | ran invocation finished =>
      simp only [sightings, offers]
      split
      · rw [offersBy, List.flatMap_map, List.map_eq_flatMap]
        rfl
      · rfl
  | _ => rfl

theorem flatMap_offers (calls : List Call) :
    (calls.flatMap Call.sightings).flatMap Sighting.offers = calls.flatMap Call.offers := by
  rw [List.flatMap_assoc]
  exact congrArg calls.flatMap (funext Call.flatMap_sightings)

/-! ### Searches without their record -/

/-- A survey without the record of its machine. -/
def Survey.plain (survey : Survey (Recorded σ)) : Survey σ :=
  ⟨survey.result, survey.registry, survey.journal, survey.machine.machine⟩

theorem discoverEach_recorded (host : HelperHost σ) (reader : AnswerReader)
    (helpers : List String) (registry : Registry) (machine : Recorded σ) :
    discoverEach host reader helpers registry machine.machine =
      (discoverEach host.recorded reader helpers registry machine).plain := by
  induction helpers generalizing registry machine with
  | nil => rfl
  | cons helper rest ih =>
      have same := runHelper_recorded host helper interfacesCommand machine
      rcases ran : runHelper host.recorded helper interfacesCommand machine with ⟨answer, next⟩
      rw [ran] at same
      simp only [discoverEach, same, ran]
      cases answer with
      | ok output =>
          cases read : reader.interfaces output with
          | ok interfaces =>
              simp only [read, ih]
              rfl
          | error fault =>
              simp only [read, ih]
              rfl
      | error fault =>
          cases fault with
          | host error =>
              cases error with
              | probe failed details =>
                  simp only [ih]
                  rfl
              | _ => rfl
          | _ => rfl

/-- Recording the calls changes nothing: without its record, a search on a recorded machine
is the search on the machine. -/
theorem discover_recorded (host : HelperHost σ) (reader : AnswerReader) (directory : String)
    (before : Registry) (machine : Recorded σ) :
    discover host reader directory before machine.machine =
      (discover host.recorded reader directory before machine).plain := by
  cases located : host.absolute directory with
  | error fault => simp only [discover, HelperHost.recorded_absolute, located, Survey.plain]
  | ok path =>
      have listed : listHelpers host.recorded path machine =
          listHelpers host path machine.machine := rfl
      simp only [discover, HelperHost.recorded_absolute, located, listed]
      cases listHelpers host path machine.machine with
      | ok helpers => exact discoverEach_recorded host reader helpers .empty machine
      | error fault => rfl

/-- Once the helpers are listed, the directory is not looked at any more. -/
theorem discoverEach_of_entries (host : HelperHost σ)
    (entries : σ → String → Except Fault (List String)) (reader : AnswerReader)
    (helpers : List String) (registry : Registry) (machine : σ) :
    discoverEach { host with entries } reader helpers registry machine =
      discoverEach host reader helpers registry machine := by
  induction helpers generalizing registry machine with
  | nil => rfl
  | cons helper rest ih =>
      have same : runHelper { host with entries } helper interfacesCommand machine =
          runHelper host helper interfacesCommand machine := rfl
      simp only [discoverEach, same, ih]

/-! ### The whole search -/

/-- A survey of a directory as it should be, by the names of its executable entries, told by
the calls that reached the machine. -/
structure Survey.Faithful (survey : Survey (Recorded σ)) (directory : String)
    (executables : List String) : Prop where
  /-- Each executable entry was asked once, in the order of the names. -/
  asked : ∃ files : List String, files.Pairwise (· < ·) ∧
    (∀ file, file ∈ files ↔ file ∈ executables) ∧
    survey.machine.calls.map Call.invocation? =
      files.map fun file => some ⟨joinPath directory file, directory, ["--extcap-interfaces"]⟩
  found : survey.result = .ok (firstOffers (survey.machine.calls.flatMap Call.offers))
  registered : survey.registry.owners =
    (firstOffers (survey.machine.calls.flatMap Call.offers)).map fun record =>
      (some record.name, record.helper)

section

variable {host : HelperHost σ} {directory path : String} {machine : σ}
  {listing : List String}

/-- A directory that is listed is searched to its end: all that comes of the search is told
by the fates of what its calls have seen. -/
theorem discover_run (lawful : host.Lawful) (clean : holdsZero directory = false)
    (located : host.absolute directory = .ok path)
    (read : host.entries machine path = .ok listing) (before : Registry) :
    let survey := discover host.recorded .sentences directory before (.blank machine)
    let fates := fatesAfter [] (survey.machine.calls.flatMap Call.sightings)
    survey.machine.calls.map Call.invocation? =
        (sortNames (host.executables machine path listing)).map (fun file =>
          some (entryInvocation path file interfacesCommand)) ∧
      survey.result = .ok (fates.filterMap Fate.record?) ∧
      survey.registry = .ofRecords (firstOffers (survey.machine.calls.flatMap Call.offers)) ∧
      survey.journal = fates.filterMap Fate.note? := by
  have absolute := lawful.located_isAbsolute located
  have proper := (lawful.listed read).executables host machine path
  have listed : listHelpers host.recorded path (.blank machine) =
      .ok ((sortNames (host.executables machine path listing)).map fun file =>
        joinPath path file) :=
    listHelpers_of_entries absolute read (lawful.listed read)
  have searched : discover host.recorded .sentences directory before (.blank machine) =
      discoverEach host.recorded .sentences
        ((sortNames (host.executables machine path listing)).map fun file =>
          joinPath path file) (.ofRecords (firstOffers [])) (.blank machine) := by
    simp only [discover, HelperHost.recorded_absolute, located, listed]
    rfl
  obtain ⟨calls, called, asked, result, registry, journal⟩ := discoverEach_run lawful absolute
    (lawful.located_clean located clean)
    (fun file member => proper.named file (mem_sortNames.mp member))
    (fun file member => proper.clean file (mem_sortNames.mp member)) [] (.blank machine)
  rw [List.nil_append, flatMap_offers] at registry
  rw [← searched] at called result registry journal
  have all : (discover host.recorded .sentences directory before
      (.blank machine)).machine.calls = calls := called
  simp only [all]
  exact ⟨asked, result, registry, journal⟩

theorem discover_of_entries (lawful : host.Lawful) (clean : holdsZero directory = false)
    (located : host.absolute directory = .ok path)
    (read : host.entries machine path = .ok listing) (before : Registry) :
    (discover host.recorded .sentences directory before (.blank machine)).Faithful path
      (host.executables machine path listing) := by
  have proper := (lawful.listed read).executables host machine path
  obtain ⟨asked, result, registry, -⟩ := discover_run lawful clean located read before
  constructor
  · exact ⟨_, sortNames_strict proper.distinct, fun _ => mem_sortNames, asked⟩
  · have offers := firstOffers_append [] ((discover host.recorded .sentences directory before
      (.blank machine)).machine.calls.flatMap Call.sightings)
    rw [List.nil_append, flatMap_offers] at offers
    rw [result, offers]
    rfl
  · exact congrArg Registry.owners registry

/-- A directory that is not there, or may not be read, has no helpers. -/
theorem discover_of_fault (lawful : host.Lawful) (clean : holdsZero directory = false)
    (located : host.absolute directory = .ok path) {fault : Fault}
    (unread : host.entries machine path = .error fault) (before : Registry) :
    discover host.recorded .sentences directory before (.blank machine) =
      ⟨.ok [], .empty, [], .blank machine⟩ := by
  obtain ⟨error, rfl⟩ := lawful.unlisted (lawful.located_clean located clean) unread
  have listed : listHelpers host.recorded path (.blank machine) = .ok [] := by
    have unreadToo : host.recorded.entries (.blank machine) path = .error (.system error) := unread
    simp only [listHelpers, unreadToo]
  simp only [discover, HelperHost.recorded_absolute, located, listed, discoverEach]

/-- The order in which a directory is listed is of no account, nor is what was registered
before. -/
theorem discover_of_perm (lawful : host.Lawful) (located : host.absolute directory = .ok path)
    (read : host.entries machine path = .ok listing) {shuffled : List String}
    (moved : listing.Perm shuffled) (before earlier : Registry) :
    discover { host with entries := fun _ _ => .ok shuffled } .sentences directory earlier machine =
      discover host .sentences directory before machine := by
  have absolute := lawful.located_isAbsolute located
  have proper := lawful.listed read
  have listed := listHelpers_of_entries absolute read proper
  have same : listHelpers { host with entries := fun _ _ => .ok shuffled } path machine =
      .ok ((sortNames (host.executables machine path listing)).map fun file =>
        joinPath path file) := by
    have sorted : sortNames (host.executables machine path listing) =
        sortNames (host.executables machine path shuffled) :=
      sortNames_eq (sortNames_pairwise _)
        ((moved.filter _).trans (sortNames_perm _).symm)
    rw [sorted]
    exact listHelpers_of_entries absolute rfl (proper.of_perm moved)
  have locatedToo : ({ host with entries := fun _ _ => .ok shuffled } : HelperHost σ).absolute
      directory = .ok path := located
  simp only [discover, located, locatedToo, listed, same, discoverEach_of_entries]

end

/-- A search of a directory without zero characters in its path.  It asks each executable
entry once, in the order of the names, and finds the first offer of each name; the
registry holds the records and nothing else.  A directory that is not there has none. -/
theorem discover_finds_first_offers {host : HelperHost σ} (lawful : host.Lawful)
    {directory path : String} (clean : holdsZero directory = false)
    (located : host.absolute directory = .ok path) (before : Registry) (machine : σ) :
    let survey := discover host.recorded .sentences directory before (.blank machine)
    survey.plain = discover host .sentences directory before machine ∧
      (∀ listing, host.entries machine path = .ok listing →
        survey.Faithful path (host.executables machine path listing) ∧
          ∀ (shuffled : List String) (earlier : Registry), listing.Perm shuffled →
            discover { host with entries := fun _ _ => .ok shuffled } .sentences directory earlier
              machine = discover host .sentences directory before machine) ∧
      ∀ fault, host.entries machine path = .error fault →
        survey.result = .ok [] ∧ survey.registry = .empty ∧ survey.machine.calls = [] := by
  intro survey
  refine ⟨(discover_recorded host .sentences directory before (.blank machine)).symm, ?_, ?_⟩
  · intro listing read
    constructor
    · exact discover_of_entries lawful clean located read before
    · intro shuffled earlier moved
      exact discover_of_perm lawful located read moved before earlier
  · intro fault unread
    have none := discover_of_fault lawful clean located unread before
    simp only [survey, none]
    exact ⟨trivial, trivial, rfl⟩

/-- The names in a small directory, as they happen to be listed. -/
def smallListing : List String :=
  ["second", "notes", "first"]

/-- What the helpers of a small directory write. -/
def smallAnswer : List UInt8 :=
  "interface \x7bvalue=lo0\x7d".toList.flatMap String.utf8EncodeChar

/-- A system with one directory, whose helpers all answer alike.  The notes there may not be
executed. -/
def smallHost : HelperHost Unit where
  workingDirectory := .ok "/opt"
  entries _ directory :=
    if directory = "/opt/extcap" then .ok smallListing
    else .error (.system (.noEntry directory))
  isFile _ _ := .ok true
  mayExecute _ path := .ok (path ≠ "/opt/extcap/notes")
  run _ machine := (.ok ⟨0, smallAnswer⟩, machine)

theorem smallHost_lawful : smallHost.Lawful where
  rooted := by
    intro directory working
    cases working
    decide
  listed := by
    intro _ directory listing read
    simp only [smallHost] at read
    split at read
    · cases read
      exact ⟨by decide, by decide, by decide⟩
    · cases read
  unlisted := by
    intro _ directory fault _ unread
    simp only [smallHost] at unread
    split at unread
    · cases unread
    · cases unread
      exact ⟨_, rfl⟩
  refused := by
    intro _ _ _ _ _ _ ended
    cases ended

theorem small_answer_read :
    Interface.readAll (Text.decodeOutput smallAnswer) = [⟨"lo0", "lo0"⟩] := by
  have value : Sentence.parameterAt? "\x7bvalue=lo0\x7d".toList =
      some ⟨"value".toList, "lo0".toList, []⟩ := rfl
  have scanned := Sentence.scanParameters_of_some value
  rw [Sentence.scanParameters_nil] at scanned
  have blank : Sentence.parameterAt? (' ' :: "\x7bvalue=lo0\x7d".toList) = none := rfl
  have read : Sentence.readParameters (' ' :: "\x7bvalue=lo0\x7d".toList) =
      [("value", "lo0")] := by
    rw [Sentence.readParameters, Sentence.scanParameters_of_none blank, scanned]
    rfl
  have line : Sentence.ofLine? "interface \x7bvalue=lo0\x7d".toList =
      some ⟨"interface", Sentence.readParameters (' ' :: "\x7bvalue=lo0\x7d".toList)⟩ := rfl
  have decoded : Text.decodeOutput smallAnswer = "interface \x7bvalue=lo0\x7d" := rfl
  have lines : Text.lines "interface \x7bvalue=lo0\x7d".toList =
      ["interface \x7bvalue=lo0\x7d".toList] := rfl
  rw [read] at line
  rw [decoded, Interface.readAll, Sentence.readAll, lines]
  simp only [List.filterMap, line]
  rfl

/-- The two helpers are asked one after the other. -/
theorem small_calls :
    (discover smallHost.recorded .sentences "extcap" .empty (.blank ())).machine.calls =
      ["/opt/extcap/first", "/opt/extcap/second"].map fun helper =>
        .ran ⟨helper, "/opt/extcap", ["--extcap-interfaces"]⟩ ⟨0, smallAnswer⟩ := by
  have proper : ProperListing smallListing := ⟨by decide, by decide, by decide⟩
  have absolute : IsAbsolutePath "/opt/extcap" := by
    have known : absolutePath "/" "/opt/extcap" = "/opt/extcap" := rfl
    rw [← known]
    exact absolutePath_isAbsolute rfl "/opt/extcap"
  have sorted : sortNames (smallHost.recorded.executables (.blank ()) "/opt/extcap" smallListing) =
      ["first", "second"] :=
    sortNames_eq (by decide) (by decide)
  have listed : listHelpers smallHost.recorded "/opt/extcap" (.blank ()) =
      .ok ["/opt/extcap/first", "/opt/extcap/second"] := by
    rw [listHelpers_of_entries absolute rfl proper, sorted]
    rfl
  have located : smallHost.recorded.absolute "extcap" = .ok "/opt/extcap" := rfl
  simp only [discover, located, listed]
  rfl

/-- Of the two helpers that offer the one interface, the first one is found.  Above the
small directory there is no other one. -/
theorem small_search_finds_first :
    smallHost.Lawful ∧
      (discover smallHost.recorded .sentences "extcap" .empty (.blank ())).result =
        .ok [⟨"lo0", "lo0", "/opt/extcap/first"⟩] ∧
      (discover smallHost.recorded .sentences "/opt" .empty (.blank ())).result = .ok [] := by
  have located : smallHost.absolute "extcap" = .ok "/opt/extcap" := rfl
  have locatedAbove : smallHost.absolute "/opt" = .ok "/opt" := rfl
  have here := discover_finds_first_offers smallHost_lawful (by decide) located .empty ()
  have above := discover_finds_first_offers smallHost_lawful (by decide) locatedAbove .empty ()
  have offers : ∀ helper : String,
      Call.offers (.ran ⟨helper, "/opt/extcap", ["--extcap-interfaces"]⟩ ⟨0, smallAnswer⟩) =
        [⟨"lo0", "lo0", helper⟩] := by
    intro helper
    rw [Call.offers, if_pos rfl, small_answer_read]
    rfl
  refine ⟨smallHost_lawful, ?_, (above.2.2 _ rfl).1⟩
  rw [(here.2.1 smallListing rfl).1.found, small_calls]
  simp only [List.map_cons, List.map_nil, List.flatMap_cons, List.flatMap_nil, offers]
  rfl

end ExtcapHost
