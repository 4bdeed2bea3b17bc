/-
Module: ExtcapHost.Proofs.Discovery.Sightings
Purpose: What becomes of each interface that is offered in a search.
Main exports:
  Sighting, Fate, Sighting.fate, fatesAfter, adopt_eq, Call.sightings, discoverEach_run
-/
import ExtcapHost.Proofs.Discovery.Offers
import ExtcapHost.Proofs.Helper
import Mathlib.Data.List.Basic

/-!
A search meets interfaces that are offered and helpers that fail, one after the other.
What becomes of each of them is decided by the offers made before it and by nothing else.
The records of the search and its messages are two readings of one list of fates.
-/

namespace ExtcapHost

variable {σ : Type}

/-! ### Sightings and their fates -/

/-- What a search meets. -/
inductive Sighting where
  /-- A helper that ended well offers an interface. -/
  | offered (offer : Discovered)
  /-- A helper could not be started, or did not end well. -/
  | refused (error : HostError)
deriving DecidableEq, Repr

/-- What becomes of a sighting. -/
inductive Fate where
  /-- The name is new. -/
  | found (record : Discovered)
  /-- Another helper owns the name. -/
  | contested (name owner : String)
  /-- The helper owns the name already. -/
  | repeated (offer : Discovered)
  | failed (error : HostError)
deriving DecidableEq, Repr

/-- The record that is returned. -/
def Fate.record? : Fate → Option Discovered
  | .found record => some record
  | _ => none

/-- The message that is written. -/
def Fate.note? : Fate → Option Note
  | .contested name owner =>
      some ⟨.warning, "Extcap interface \"" ++ name ++ "\" is already provided by \"" ++ owner ++
        "\""⟩
  | .failed error => some (probeNote error)
  | _ => none

namespace Sighting

def offers : Sighting → List Discovered
  | .offered offer => [offer]
  | .refused _ => []

/-- What becomes of a sighting after earlier offers: whoever offers a name first is found,
and owns it. -/
def fate (earlier : List Discovered) : Sighting → Fate
  | .refused error => .failed error
  | .offered offer =>
      match earlier.find? fun first => first.name = offer.name with
      | none => .found offer
      | some first =>
          if first.helper = offer.helper then .repeated offer
          else .contested offer.name first.helper

end Sighting

/-- What becomes of sightings one after the other. -/
def fatesAfter (earlier : List Discovered) : List Sighting → List Fate
  | [] => []
  | sighting :: rest =>
      sighting.fate earlier :: fatesAfter (earlier ++ sighting.offers) rest

theorem fatesAfter_append (earlier : List Discovered) (first second : List Sighting) :
    fatesAfter earlier (first ++ second) =
      fatesAfter earlier first ++
        fatesAfter (earlier ++ first.flatMap Sighting.offers) second := by
  induction first generalizing earlier with
  | nil => simp [fatesAfter]
  | cons sighting rest ih => simp [fatesAfter, ih]

/-- A name is found when it was not offered before. -/
theorem firstOffers_append_offers (earlier : List Discovered) (sighting : Sighting) :
    firstOffers (earlier ++ sighting.offers) =
      firstOffers earlier ++ (sighting.fate earlier).record?.toList := by
  cases sighting with
  | refused error => simp [Sighting.offers, Sighting.fate, Fate.record?]
  | offered offer =>
      cases known : earlier.find? fun first => first.name = offer.name with
      | none =>
          simp only [Sighting.offers, Sighting.fate, known]
          exact firstOffers_concat_of_new known
      | some first =>
          simp only [Sighting.offers, Sighting.fate, known, firstOffers_concat_of_known known]
          split <;> simp [Fate.record?]

/-- The names that are found are those that were not offered before. -/
theorem firstOffers_append (earlier : List Discovered) (sightings : List Sighting) :
    firstOffers (earlier ++ sightings.flatMap Sighting.offers) =
      firstOffers earlier ++ (fatesAfter earlier sightings).filterMap Fate.record? := by
  induction sightings generalizing earlier with
  | nil => simp [fatesAfter]
  | cons sighting rest ih =>
      simp only [List.flatMap_cons, fatesAfter, List.filterMap_eq_flatMap_toList] at ih ⊢
      rw [← List.append_assoc, ih, firstOffers_append_offers, List.append_assoc]

/-! ### The offers of one helper -/

/-- What a helper that ended well is seen to offer. -/
def offersBy (helper : String) (interfaces : List Interface) : List Sighting :=
  interfaces.map fun interface => .offered (interface.offeredBy helper)

/-- One interface more is adopted by its fate. -/
theorem adopt_cons (helper : String) {interface : Interface} (filled : interface.call ≠ "")
    (rest : List Interface) (earlier : List Discovered) :
    let offer := interface.offeredBy helper
    let fate := Sighting.fate earlier (.offered offer)
    let later := adopt helper rest (.ofRecords (firstOffers (earlier ++ [offer])))
    adopt helper (interface :: rest) (.ofRecords (firstOffers earlier)) =
      ⟨fate.record?.toList ++ later.records, later.registry,
        fate.note?.toList ++ later.journal⟩ := by
  intro offer fate later
  have owner := Registry.lookup_ofRecords filled (firstOffers earlier)
  rw [find?_firstOffers] at owner
  cases known : earlier.find? fun first => first.name = interface.call with
  | none =>
      have free : fate = .found offer := by
        simp only [fate, Sighting.fate, offer, Interface.offeredBy, known]
      have registered :
          ((Registry.ofRecords (firstOffers earlier)).register (some interface.call) helper).2 =
            .ofRecords (firstOffers (earlier ++ [offer])) :=
        @Registry.register_ofRecords offer earlier known
      rw [known] at owner
      simp only [adopt, owner, Option.map_none, registered, free]
      rfl
  | some first =>
      have claimed : (earlier.find? fun first => first.name = offer.name) = some first := known
      have kept : later = adopt helper rest (.ofRecords (firstOffers earlier)) := by
        simp only [later, firstOffers_concat_of_known claimed]
      rw [known] at owner
      simp only [adopt, owner, Option.map_some, ← kept]
      by_cases own : first.helper = helper
      · have repeated : fate = .repeated offer := by
          simp only [fate, Sighting.fate, offer, Interface.offeredBy, known, if_pos own]
        rw [if_pos own, repeated]
        rfl
      · have contested : fate = .contested interface.call first.helper := by
          simp only [fate, Sighting.fate, offer, Interface.offeredBy, known, if_neg own]
        rw [if_neg own, contested]
        rfl

/-- What is adopted from a helper is told by the fates of its offers. -/
theorem adopt_eq (helper : String) (interfaces : List Interface)
    (named : ∀ interface ∈ interfaces, interface.call ≠ "") (earlier : List Discovered) :
    let sightings := offersBy helper interfaces
    let fates := fatesAfter earlier sightings
    adopt helper interfaces (.ofRecords (firstOffers earlier)) =
      ⟨fates.filterMap Fate.record?,
        .ofRecords (firstOffers (earlier ++ sightings.flatMap Sighting.offers)),
        fates.filterMap Fate.note?⟩ := by
  induction interfaces generalizing earlier with
  | nil => simp [adopt, offersBy, fatesAfter]
  | cons interface rest ih =>
      have later := ih (fun other member => named other (by simp [member]))
        (earlier ++ [interface.offeredBy helper])
      intro sightings fates
      rw [adopt_cons helper (named interface (by simp)), later]
      simp only [sightings, fates, offersBy, List.map_cons, List.flatMap_cons, fatesAfter,
        Sighting.offers, List.filterMap_eq_flatMap_toList, List.append_assoc]

/-! ### The helpers one after the other -/

/-- What a call was seen to come to: what a helper offers if it ended well, and else its
failure. -/
def Call.sightings : Call → List Sighting
  | .ran invocation finished =>
      if finished.status = 0 then
        offersBy invocation.helper (Interface.readAll (Text.decodeOutput finished.output))
      else
        [.refused (.probe invocation.helper
          (some ("exited with status " ++ String.ofList (Text.writeInteger finished.status))))]
  | .notRun invocation fault => [.refused (.probe invocation.helper (some fault.text))]
  | _ => []

theorem AnswerReader.sentences_interfaces (output : String) :
    sentences.interfaces output = .ok (Interface.readAll output) := rfl

theorem Except.map_nil_append {ε α : Type} (result : Except ε (List α)) :
    result.map ([] ++ ·) = result := by
  cases result <;> rfl

/-- One helper more is asked once.  The records and the messages are told by the fates of
what is seen, and the search goes on from the offers made so far. -/
theorem discoverEach_cons {host : HelperHost σ} (lawful : host.Lawful) {directory file : String}
    (absolute : IsAbsolutePath directory) (clean : holdsZero directory = false)
    (proper : IsFileName file) (cleanToo : holdsZero file = false) (rest : List String)
    (earlier : List Discovered) (machine : Recorded σ) :
    ∃ (call : Call) (next : Recorded σ),
      call.invocation? = some (entryInvocation directory file interfacesCommand) ∧
      next.calls = machine.calls ++ [call] ∧
      let fates := fatesAfter earlier call.sightings
      let later := discoverEach host.recorded .sentences rest
        (.ofRecords (firstOffers (earlier ++ call.sightings.flatMap Sighting.offers))) next
      discoverEach host.recorded .sentences (joinPath directory file :: rest)
          (.ofRecords (firstOffers earlier)) machine =
        ⟨later.result.map (fates.filterMap Fate.record? ++ ·), later.registry,
          fates.filterMap Fate.note? ++ later.journal, later.machine⟩ := by
  rcases ended : host.run (entryInvocation directory file interfacesCommand) machine.machine with
    ⟨outcome, last⟩
  have ran := runHelper_of_run absolute proper ended
  refine ⟨.ofRun (entryInvocation directory file interfacesCommand) outcome,
    machine.after last (.ofRun (entryInvocation directory file interfacesCommand) outcome),
    Call.ofRun_invocation? _ _, rfl, ?_⟩
  intro fates later
  -- A failure offers nothing, so the search goes on from where it was.
  have failure : ∀ error : HostError,
      Call.sightings (.ofRun (entryInvocation directory file interfacesCommand) outcome) =
        [.refused error] →
      later = discoverEach host.recorded .sentences rest (.ofRecords (firstOffers earlier))
          (machine.after last (.ofRun (entryInvocation directory file interfacesCommand) outcome)) ∧
        fates.filterMap Fate.record? = [] ∧ fates.filterMap Fate.note? = [probeNote error] := by
    intro error refused
    simp only [later, fates, refused]
    refine ⟨?_, rfl, rfl⟩
    simp only [List.flatMap_cons, Sighting.offers, List.flatMap_nil, List.append_nil]
  cases outcome with
  | error fault =>
      obtain ⟨error, rfl⟩ := lawful.entry_refused clean cleanToo (by decide) ended
      obtain ⟨same, none, told⟩ := failure _ rfl
      simp only [discoverEach, ran, answerOf, ← same, none, told, Except.map_nil_append]
      rfl
  | ok finished =>
      by_cases well : finished.status = 0
      · have offers : Call.sightings (.ofRun (entryInvocation directory file interfacesCommand)
            (.ok finished)) = offersBy (joinPath directory file)
              (Interface.readAll (Text.decodeOutput finished.output)) :=
          if_pos well
        have adopted := adopt_eq (joinPath directory file)
          (Interface.readAll (Text.decodeOutput finished.output))
          (fun _ offered => Interface.call_ne_empty offered) earlier
        simp only [discoverEach, ran, answerOf, if_pos well, AnswerReader.sentences_interfaces,
          adopted, later, fates, offers]
      · obtain ⟨same, none, told⟩ := failure _ (if_neg well)
        simp only [discoverEach, ran, answerOf, if_neg well, ← same, none, told,
          Except.map_nil_append]
        rfl

/-- A search after earlier offers: its calls ask the helpers in order, and its records, its
messages and the registry are told by the fates of what these calls have seen. -/
theorem discoverEach_run {host : HelperHost σ} (lawful : host.Lawful) {directory : String}
    (absolute : IsAbsolutePath directory) (clean : holdsZero directory = false)
    {files : List String} (proper : ∀ file ∈ files, IsFileName file)
    (cleanToo : ∀ file ∈ files, holdsZero file = false) (earlier : List Discovered)
    (machine : Recorded σ) :
    let survey := discoverEach host.recorded .sentences
      (files.map fun file => joinPath directory file) (.ofRecords (firstOffers earlier)) machine
    ∃ calls : List Call,
      survey.machine.calls = machine.calls ++ calls ∧
      calls.map Call.invocation? =
        files.map (fun file => some (entryInvocation directory file interfacesCommand)) ∧
      let sightings := calls.flatMap Call.sightings
      let fates := fatesAfter earlier sightings
      survey.result = .ok (fates.filterMap Fate.record?) ∧
        survey.registry =
          .ofRecords (firstOffers (earlier ++ sightings.flatMap Sighting.offers)) ∧
        survey.journal = fates.filterMap Fate.note? := by
  induction files generalizing earlier machine with
  | nil =>
      refine ⟨[], (List.append_nil _).symm, rfl, ?_⟩
      simp [discoverEach, fatesAfter]
  | cons file rest ih =>
      obtain ⟨call, next, asked, called, survey⟩ :=
        discoverEach_cons lawful absolute clean (proper file (by simp)) (cleanToo file (by simp))
          (rest.map fun file => joinPath directory file) earlier machine
      obtain ⟨calls, calledLater, askedLater, result, registry, journal⟩ :=
        ih (fun other member => proper other (by simp [member]))
          (fun other member => cleanToo other (by simp [member]))
          (earlier ++ call.sightings.flatMap Sighting.offers) next
      simp only [List.map_cons, survey]
      refine ⟨call :: calls, ?_, ?_, ?_, ?_, ?_⟩
      · rw [calledLater, called, List.append_assoc, List.singleton_append]
      · rw [List.map_cons, asked, askedLater]
      · rw [result, List.flatMap_cons, fatesAfter_append, List.filterMap_append]
        rfl
      · rw [registry, List.flatMap_cons, List.flatMap_append, List.append_assoc]
      · rw [journal, List.flatMap_cons, fatesAfter_append, List.filterMap_append]

end ExtcapHost
