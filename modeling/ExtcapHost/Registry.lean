/-
Module: ExtcapHost.Registry
Purpose: Which helper owns an interface.
Main exports:
  Registry, Registry.lookup, Registry.owns, Registry.contains, Registry.register
-/
import ExtcapHost.Ordered

namespace ExtcapHost

/-- The owners of interfaces by name, in order of registration.  The absent name
is a name like others, but it is never looked up. -/
structure Registry where
  owners : List (Option String × String)
deriving DecidableEq, Repr, Inhabited

namespace Registry

/-- Nothing is registered. -/
def empty : Registry := ⟨[]⟩

/-- The owner of an interface.  An absent or empty name has none. -/
def lookup (registry : Registry) : Option String → Option String
  | none => none
  | some "" => none
  | some name => Ordered.get? (some name) registry.owners

/-- The path is the owner of the interface. -/
def owns (registry : Registry) (name : Option String) (path : String) : Bool :=
  registry.lookup name = some path

/-- The name is registered. -/
def contains (registry : Registry) (name : Option String) : Bool :=
  (Ordered.get? name registry.owners).isSome

/-- The registered names in order. -/
def names (registry : Registry) : List (Option String) :=
  registry.owners.map fun owner => owner.1

/-- How many names are registered. -/
def size (registry : Registry) : Nat :=
  registry.owners.length

/-- Record an owner unless the name has one; say whether it was recorded. -/
def register (registry : Registry) (name : Option String) (path : String) : Bool × Registry :=
  if registry.contains name then (false, registry)
  else (true, ⟨registry.owners ++ [(name, path)]⟩)

end Registry

end ExtcapHost
