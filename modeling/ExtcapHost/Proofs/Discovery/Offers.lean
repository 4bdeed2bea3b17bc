/-
Module: ExtcapHost.Proofs.Discovery.Offers
Purpose: Whoever offers a name first owns it.
Main exports:
  firstOffers, unclaimed, Registry.ofRecords, firstOffers_concat_of_new,
  firstOffers_concat_of_known
-/
import ExtcapHost.Discovery
import ExtcapHost.Proofs.Sentence

/-!
The records of a search and the registry are written by the same steps, one beside the
other.  Both are told by one list: the offers in the order in which they were made, of
which each name keeps the first.
-/

namespace ExtcapHost

/-- The first offer of each name, in order. -/
def firstOffers (offers : List Discovered) : List Discovered :=
  offers.eraseDupsBy fun later earlier => later.name == earlier.name

/-- The first offer of each name that is not taken yet. -/
def unclaimed : List String → List Discovered → List Discovered
  | _, [] => []
  | taken, offer :: rest =>
      if offer.name ∈ taken then unclaimed taken rest
      else offer :: unclaimed (taken ++ [offer.name]) rest

/-- The names of records. -/
def recordNames (records : List Discovered) : List String :=
  records.map fun record => record.name

/-- The registry that the records of a search are written into. -/
def Registry.ofRecords (records : List Discovered) : Registry :=
  ⟨records.map fun record => (some record.name, record.helper)⟩

theorem firstOffers_cons (offer : Discovered) (rest : List Discovered) :
    firstOffers (offer :: rest) =
      offer :: firstOffers (rest.filter fun later => later.name ≠ offer.name) := by
  have others : (fun later : Discovered => decide ((later.name == offer.name) = false)) =
      fun later => decide (later.name ≠ offer.name) := by
    funext later
    simp
  rw [firstOffers, List.eraseDupsBy_cons, firstOffers, others]

/-- What is not taken yet is what the first offers are, of the names not taken. -/
theorem unclaimed_eq_firstOffers (taken : List String) (offers : List Discovered) :
    unclaimed taken offers = firstOffers (offers.filter fun offer => offer.name ∉ taken) := by
  induction offers generalizing taken with
  | nil => rfl
  | cons offer rest ih =>
      by_cases claimed : offer.name ∈ taken
      · rw [unclaimed, if_pos claimed, ih, List.filter_cons_of_neg (by simp [claimed])]
      · rw [unclaimed, if_neg claimed, ih, List.filter_cons_of_pos (by simp [claimed]),
          firstOffers_cons, List.filter_filter]
        congr 3
        funext later
        simp [not_or, and_comm]

theorem unclaimed_nil (offers : List Discovered) : unclaimed [] offers = firstOffers offers := by
  rw [unclaimed_eq_firstOffers]
  congr 1
  exact List.filter_eq_self.mpr (by simp)

/-- Offers may be looked at in two parts. -/
theorem unclaimed_append (taken : List String) (first second : List Discovered) :
    unclaimed taken (first ++ second) =
      unclaimed taken first ++
        unclaimed (taken ++ recordNames (unclaimed taken first)) second := by
  induction first generalizing taken with
  | nil => simp [unclaimed, recordNames]
  | cons offer rest ih =>
      by_cases claimed : offer.name ∈ taken
      · simp only [List.cons_append, unclaimed, if_pos claimed, ih]
      · simp only [List.cons_append, unclaimed, if_neg claimed, ih, recordNames,
          List.map_cons, List.append_assoc, List.nil_append]

/-- The first offer of a name is the first one among the first offers as well. -/
theorem find?_firstOffers (offers : List Discovered) (name : String) :
    (firstOffers offers).find? (fun offer => offer.name = name) =
      offers.find? fun offer => offer.name = name := by
  rw [← unclaimed_nil]
  suffices kept : ∀ taken : List String, name ∉ taken →
      (unclaimed taken offers).find? (fun offer => offer.name = name) =
        offers.find? fun offer => offer.name = name by
    exact kept [] nofun
  induction offers with
  | nil => exact fun taken _ => rfl
  | cons offer rest ih =>
      intro taken free
      by_cases same : offer.name = name
      · have unclaimed : offer.name ∉ taken := by
          rw [same]
          exact free
        rw [ExtcapHost.unclaimed, if_neg unclaimed]
        simp [same]
      · by_cases claimed : offer.name ∈ taken
        · rw [unclaimed, if_pos claimed, ih taken free]
          simp [same]
        · have later : name ∉ taken ++ [offer.name] := by
            simp [free, Ne.symm same]
          rw [unclaimed, if_neg claimed, List.find?_cons_of_neg (by simpa using same),
            ih _ later]
          simp [same]

/-- A name that is offered is among the first offers. -/
theorem mem_recordNames_firstOffers {offers : List Discovered} {name : String} :
    name ∈ recordNames (firstOffers offers) ↔
      (offers.find? fun offer => offer.name = name).isSome := by
  rw [← find?_firstOffers, List.find?_isSome, recordNames, List.mem_map]
  simp

/-- An offer of a new name is a first offer. -/
theorem firstOffers_concat_of_new {earlier : List Discovered} {offer : Discovered}
    (new : (earlier.find? fun first => first.name = offer.name) = none) :
    firstOffers (earlier ++ [offer]) = firstOffers earlier ++ [offer] := by
  have free : offer.name ∉ recordNames (firstOffers earlier) := by
    simp [mem_recordNames_firstOffers, new]
  rw [← unclaimed_nil, unclaimed_append, List.nil_append, unclaimed_nil, unclaimed, if_neg free]
  rfl

/-- An offer of a known name is none. -/
theorem firstOffers_concat_of_known {earlier : List Discovered} {offer first : Discovered}
    (known : (earlier.find? fun first => first.name = offer.name) = some first) :
    firstOffers (earlier ++ [offer]) = firstOffers earlier := by
  have claimed : offer.name ∈ recordNames (firstOffers earlier) := by
    simp [mem_recordNames_firstOffers, known]
  rw [← unclaimed_nil, unclaimed_append, List.nil_append, unclaimed_nil, unclaimed, if_pos claimed,
    unclaimed, List.append_nil]

/-! ### The registry beside the records -/

namespace Registry

theorem ofRecords_append (records : List Discovered) (record : Discovered) :
    ofRecords (records ++ [record]) =
      ⟨(ofRecords records).owners ++ [(some record.name, record.helper)]⟩ := by
  simp [ofRecords]

theorem get?_ofRecords (records : List Discovered) (name : String) :
    Ordered.get? (some name) (ofRecords records).owners =
      (records.find? fun record => record.name = name).map fun record => record.helper := by
  induction records with
  | nil => rfl
  | cons record rest ih =>
      simp only [ofRecords] at ih
      by_cases same : record.name = name
      · simp [ofRecords, Ordered.get?, same]
      · simp [ofRecords, Ordered.get?, same, ih]

/-- The owner of a name is the helper of its record. -/
theorem lookup_ofRecords {name : String} (filled : name ≠ "") (records : List Discovered) :
    (ofRecords records).lookup (some name) =
      (records.find? fun record => record.name = name).map fun record => record.helper := by
  rw [← get?_ofRecords, lookup]
  exact filled

/-- A name that nobody offered is free. -/
theorem register_ofRecords {offer : Discovered} {offers : List Discovered}
    (new : (offers.find? fun first => first.name = offer.name) = none) :
    ((ofRecords (firstOffers offers)).register (some offer.name) offer.helper).2 =
      .ofRecords (firstOffers (offers ++ [offer])) := by
  have free : (ofRecords (firstOffers offers)).contains (some offer.name) = false := by
    rw [contains, get?_ofRecords, find?_firstOffers, new]
    rfl
  rw [firstOffers_concat_of_new new, ofRecords_append, register, free]
  rfl

end Registry

/-! ### What helpers offer -/

/-- An interface that a helper has a name for. -/
def Interface.offeredBy (interface : Interface) (helper : String) : Discovered :=
  ⟨interface.call, interface.display, helper⟩

end ExtcapHost
