/-
Module: ExtcapHost.Proofs.Registry
Purpose: The registry answers by the first registration of a name since the last reset.
Main exports:
  Registry.Request, Registry.Answer, Registry.serve, Registry.run, Registry.sinceReset,
  Registry.claims, Registry.granted, Registry.FirstClaimWins,
  Registry.first_claim_wins_in_every_run
-/
import ExtcapHost.Registry
import ExtcapHost.Proofs.Ordered
import Mathlib.Data.List.DropRight

/-!
The registry remembers only the owners that it has.  What it ought to answer is said of
its past instead, which is the log of all requests with their answers: the claims are
the registrations that were asked for since the last reset, and the first claim of a
name counts.  One invariant joins the owners to the log, and every kind of request
keeps it.
-/

namespace ExtcapHost.Registry

/-! ### Requests, answers and runs -/

/-- What the registry can be asked for. -/
inductive Request where
  | register (name : Option String) (path : String)
  | reset
  | lookup (name : Option String)
  | owns (name : Option String) (path : String)
  | contains (name : Option String)
  | items
  | size
  | names
deriving DecidableEq, Repr

/-- What the registry answers. -/
inductive Answer where
  | done
  | decided (yes : Bool)
  | owner (path : Option String)
  | pairs (owners : List (Option String × String))
  | count (number : Nat)
  | listed (names : List (Option String))
deriving DecidableEq, Repr

/-- Answer one request. -/
def serve (registry : Registry) : Request → Answer × Registry
  | .register name path =>
      (.decided (registry.register name path).1, (registry.register name path).2)
  | .reset => (.done, .empty)
  | .lookup name => (.owner (registry.lookup name), registry)
  | .owns name path => (.decided (registry.owns name path), registry)
  | .contains name => (.decided (registry.contains name), registry)
  | .items => (.pairs registry.owners, registry)
  | .size => (.count registry.size, registry)
  | .names => (.listed registry.names, registry)

/-- Requests with their answers, in order. -/
abbrev Log := List (Request × Answer)

/-- Answer requests one after the other. -/
def run (registry : Registry) : List Request → Log × Registry
  | [] => ([], registry)
  | request :: later =>
      ((request, (registry.serve request).1) :: ((registry.serve request).2.run later).1,
        ((registry.serve request).2.run later).2)

/-! ### What the log says about the owners -/

/-- The part of a log behind its last reset. -/
def sinceReset (log : Log) : Log :=
  log.rtakeWhile fun event => event.1 ≠ .reset

/-- The registrations that were asked for. -/
def claims (log : Log) : List (Option String × String) :=
  log.filterMap fun
    | (.register name path, _) => some (name, path)
    | _ => none

/-- The registrations that were answered with yes. -/
def granted (log : Log) : List (Option String × String) :=
  log.filterMap fun
    | (.register name path, .decided true) => some (name, path)
    | _ => none

theorem sinceReset_append_reset (log : Log) (answer : Answer) :
    sinceReset (log ++ [(.reset, answer)]) = [] :=
  List.rtakeWhile_concat_neg _ _ _ (by simp)

theorem sinceReset_append {request : Request} (other : request ≠ .reset) (log : Log)
    (answer : Answer) :
    sinceReset (log ++ [(request, answer)]) = sinceReset log ++ [(request, answer)] :=
  List.rtakeWhile_concat_pos _ _ _ (by simpa using other)

/-- The owners are the registrations that were granted since the last reset, no name
has two of them, and each is the first that was asked for under its name. -/
structure Tracks (log : Log) (registry : Registry) : Prop where
  owners_eq : registry.owners = granted (sinceReset log)
  distinct : (Ordered.keys registry.owners).Nodup
  first : ∀ name, Ordered.get? name registry.owners =
    Ordered.get? name (claims (sinceReset log))

/-- A name is registered exactly when there is a claim to it. -/
theorem Tracks.contains_iff {log : Log} {registry : Registry} (tracks : Tracks log registry)
    (name : Option String) :
    registry.contains name = true ↔ name ∈ Ordered.keys (claims (sinceReset log)) := by
  rw [contains, tracks.first name, ← not_iff_not, ← Ordered.get?_eq_none_iff]
  simp

/-! ### One request -/

theorem contains_eq_false_iff (registry : Registry) (name : Option String) :
    registry.contains name = false ↔ name ∉ Ordered.keys registry.owners := by
  rw [contains, ← Ordered.get?_eq_none_iff, Option.isSome_eq_false_iff, Option.isNone_iff_eq_none]

theorem register_of_contained {registry : Registry} {name : Option String}
    (taken : registry.contains name = true) (path : String) :
    registry.register name path = (false, registry) := by
  rw [register, if_pos taken]

theorem register_of_free {registry : Registry} {name : Option String}
    (free : registry.contains name = false) (path : String) :
    registry.register name path = (true, ⟨registry.owners ++ [(name, path)]⟩) := by
  rw [register, if_neg (by rw [free]; exact Bool.false_ne_true)]

theorem Tracks.empty : Tracks [] empty :=
  ⟨rfl, .nil, fun _ => rfl⟩

/-- A request that is no registration and no reset leaves the owners and the claims. -/
theorem Tracks.read {log : Log} {registry : Registry} (tracks : Tracks log registry)
    {request : Request} (notReset : request ≠ .reset)
    (notRegister : ∀ name path, request ≠ .register name path) (answer : Answer) :
    Tracks (log ++ [(request, answer)]) registry := by
  have claimsSame : claims (sinceReset log ++ [(request, answer)]) = claims (sinceReset log) := by
    cases request <;> simp_all [claims]
  have grantedSame :
      granted (sinceReset log ++ [(request, answer)]) = granted (sinceReset log) := by
    cases request <;> simp_all [granted]
  refine ⟨?_, tracks.distinct, fun name => ?_⟩
  · rw [sinceReset_append notReset, grantedSame, tracks.owners_eq]
  · rw [sinceReset_append notReset, claimsSame, tracks.first name]

/-- A registration that is refused comes after another claim to its name, so no first
claim changes. -/
theorem Tracks.refused {log : Log} {registry : Registry} (tracks : Tracks log registry)
    {name : Option String} (taken : registry.contains name = true) (path : String) :
    Tracks (log ++ [(.register name path, .decided false)]) registry := by
  have since : sinceReset (log ++ [(.register name path, .decided false)]) =
      sinceReset log ++ [(.register name path, .decided false)] :=
    sinceReset_append (by simp) _ _
  have claimsMore : claims (sinceReset log ++ [(.register name path, .decided false)]) =
      claims (sinceReset log) ++ [(name, path)] := by simp [claims]
  refine ⟨?_, tracks.distinct, fun other => ?_⟩
  · rw [since, tracks.owners_eq]
    simp [granted]
  · rw [since, claimsMore, Ordered.get?_append, ← tracks.first other]
    cases found : Ordered.get? other registry.owners with
    | some owner => rw [Option.some_or]
    | none =>
        have different : name ≠ other := by
          rintro rfl
          rw [contains, found] at taken
          cases taken
        rw [Ordered.get?, if_neg different, Ordered.get?, Option.none_or]

/-- A registration that is granted is the first claim to its name. -/
theorem Tracks.granted {log : Log} {registry : Registry} (tracks : Tracks log registry)
    {name : Option String} (free : registry.contains name = false) (path : String) :
    Tracks (log ++ [(.register name path, .decided true)])
      ⟨registry.owners ++ [(name, path)]⟩ := by
  have since : sinceReset (log ++ [(.register name path, .decided true)]) =
      sinceReset log ++ [(.register name path, .decided true)] :=
    sinceReset_append (by simp) _ _
  have claimsMore : claims (sinceReset log ++ [(.register name path, .decided true)]) =
      claims (sinceReset log) ++ [(name, path)] := by simp [claims]
  have absent := (contains_eq_false_iff registry name).mp free
  refine ⟨?_, ?_, fun other => ?_⟩
  · rw [since, tracks.owners_eq]
    simp [Registry.granted]
  · rw [← Ordered.put_of_new absent]
    exact Ordered.nodup_keys_put tracks.distinct name path
  · rw [since, claimsMore, Ordered.get?_append, Ordered.get?_append, tracks.first other]

/-- Every answer keeps the owners joined to the log. -/
theorem Tracks.serve {log : Log} {registry : Registry} (tracks : Tracks log registry)
    (request : Request) :
    Tracks (log ++ [(request, (registry.serve request).1)]) (registry.serve request).2 := by
  cases request with
  | register name path =>
      cases held : registry.contains name with
      | true =>
          rw [Registry.serve, register_of_contained held]
          exact tracks.refused held path
      | false =>
          rw [Registry.serve, register_of_free held]
          exact tracks.granted held path
  | reset =>
      have nothing : sinceReset (log ++ [(.reset, .done)]) = [] :=
        sinceReset_append_reset log .done
      refine ⟨?_, .nil, fun name => ?_⟩ <;> rw [Registry.serve, nothing] <;> rfl
  | lookup name => exact tracks.read (by simp) (by simp) _
  | owns name path => exact tracks.read (by simp) (by simp) _
  | contains name => exact tracks.read (by simp) (by simp) _
  | items => exact tracks.read (by simp) (by simp) _
  | size => exact tracks.read (by simp) (by simp) _
  | names => exact tracks.read (by simp) (by simp) _

/-- Answering requests one after the other keeps the owners joined to the log. -/
theorem Tracks.run {log : Log} {registry : Registry} (tracks : Tracks log registry)
    (requests : List Request) :
    Tracks (log ++ (registry.run requests).1) (registry.run requests).2 := by
  induction requests generalizing log registry with
  | nil => rwa [Registry.run, List.append_nil]
  | cons request later ih =>
      have whole := ih (tracks.serve request)
      rwa [List.append_assoc, List.singleton_append] at whole

/-! ### What the registry answers -/

/-- The registry answers as its log demands.  The owners are the granted registrations
since the last reset, in order and without a repeated name; a registration is granted
exactly when it is the first claim to its name, and only then the owners change; every
other answer is about the first claim.  The absent and the empty name have no owner,
whether they were claimed or not. -/
structure FirstClaimWins (log : Log) (registry : Registry) : Prop where
  items : registry.owners = granted (sinceReset log)
  distinct : (registry.owners.map fun owner => owner.1).Nodup
  register_iff : ∀ name path,
    (registry.register name path).1 = true ↔ name ∉ Ordered.keys (claims (sinceReset log))
  register_granted : ∀ name path, (registry.register name path).1 = true →
    (registry.register name path).2.owners = registry.owners ++ [(name, path)]
  register_refused : ∀ name path, (registry.register name path).1 = false →
    (registry.register name path).2 = registry
  lookup : ∀ name, name ≠ "" →
    registry.lookup (some name) = Ordered.get? (some name) (claims (sinceReset log))
  owns_iff : ∀ name path, name ≠ "" →
    (registry.owns (some name) path = true ↔
      Ordered.get? (some name) (claims (sinceReset log)) = some path)
  contains_iff : ∀ name, name ≠ "" →
    (registry.contains (some name) = true ↔ registry.lookup (some name) ≠ none)
  lookup_absent : registry.lookup none = none ∧ registry.lookup (some "") = none
  owns_absent : ∀ path, registry.owns none path = false ∧ registry.owns (some "") path = false
  size : registry.size = (granted (sinceReset log)).length
  names : registry.names = (granted (sinceReset log)).map fun owner => owner.1

theorem lookup_of_ne_empty {name : String} (nonEmpty : name ≠ "") (registry : Registry) :
    registry.lookup (some name) = Ordered.get? (some name) registry.owners := by
  rw [lookup]
  exact nonEmpty

theorem Tracks.firstClaimWins {log : Log} {registry : Registry} (tracks : Tracks log registry) :
    FirstClaimWins log registry where
  items := tracks.owners_eq
  distinct := tracks.distinct
  register_iff := by
    intro name path
    rw [← tracks.contains_iff name]
    cases held : registry.contains name with
    | true => simp [register_of_contained held]
    | false => simp [register_of_free held]
  register_granted := by
    intro name path yes
    cases held : registry.contains name with
    | true =>
        rw [register_of_contained held] at yes
        cases yes
    | false => rw [register_of_free held]
  register_refused := by
    intro name path no
    cases held : registry.contains name with
    | true => rw [register_of_contained held]
    | false =>
        rw [register_of_free held] at no
        cases no
  lookup := by
    intro name nonEmpty
    rw [lookup_of_ne_empty nonEmpty, tracks.first]
  owns_iff := by
    intro name path nonEmpty
    rw [owns, lookup_of_ne_empty nonEmpty, tracks.first, decide_eq_true_iff]
  contains_iff := by
    intro name nonEmpty
    rw [contains, lookup_of_ne_empty nonEmpty, Option.isSome_iff_ne_none]
  lookup_absent := ⟨rfl, rfl⟩
  owns_absent := fun _ => ⟨rfl, rfl⟩
  size := by rw [size, tracks.owners_eq]
  names := by rw [names, tracks.owners_eq]

/-- Whatever a fresh registry is asked for, and in whatever order, afterwards it answers
by the first claim of each name since the last reset. -/
theorem first_claim_wins_in_every_run (requests : List Request) :
    FirstClaimWins (empty.run requests).1 (empty.run requests).2 := by
  have tracks := Tracks.empty.run requests
  rw [List.nil_append] at tracks
  exact tracks.firstClaimWins

/-- A reset frees the name, and the path that claims it then is its owner. -/
example :
    (empty.run [.register (some "eth") "/a", .register (some "eth") "/b", .reset,
        .register (some "eth") "/b", .lookup (some "eth")]).1.map (fun event => event.2) =
      [.decided true, .decided false, .done, .decided true, .owner (some "/b")] := by
  decide

end ExtcapHost.Registry
