/-
Module: ExtcapHost.Json.Value
Purpose: The values of JSON.
Main exports:
  Json, Json.memberOf?, Json.truthy, Json.kind, Json.same, Json.depth
-/
import ExtcapHost.Number.Binary64
import ExtcapHost.Ordered
import ExtcapHost.Text.Letter

namespace ExtcapHost

open Text

/-- A value of JSON.  Numbers with a point or an exponent are binary numbers, all
others are integers of any size.  The members of an object keep their order. -/
inductive Json where
  | null
  | bool (value : Bool)
  | integer (value : Int)
  | float (value : Binary64)
  | string (letters : List Letter)
  | list (items : List Json)
  | object (members : List (List Letter × Json))
deriving Repr, Inhabited

namespace Json

/-- Text as a value. -/
def ofString (text : String) : Json :=
  .string (wide text.toList)

/-- A member of a row of members. -/
def memberOf? (name : String) (members : List (List Letter × Json)) : Option Json :=
  Ordered.get? (wide name.toList) members

/-- The value counts as true: it is not null, false, zero, or empty. -/
def truthy : Json → Bool
  | .null => false
  | .bool value => value
  | .integer value => value ≠ 0
  | .float (.finite _ significand _) => significand ≠ 0
  | .float _ => true
  | .string letters => !letters.isEmpty
  | .list items => !items.isEmpty
  | .object members => !members.isEmpty

/-- The kinds of values. -/
inductive Kind where
  | null
  | bool
  | integer
  | float
  | string
  | list
  | object
deriving DecidableEq, Repr

/-- The kind of a value. -/
def kind : Json → Kind
  | .null => .null
  | .bool _ => .bool
  | .integer _ => .integer
  | .float _ => .float
  | .string _ => .string
  | .list _ => .list
  | .object _ => .object

mutual

/-- Two values are the same. -/
def same : Json → Json → Bool
  | .null, .null => true
  | .bool one, .bool two => one = two
  | .integer one, .integer two => one = two
  | .float one, .float two => one = two
  | .string one, .string two => one = two
  | .list one, .list two => sameItems one two
  | .object one, .object two => sameMembers one two
  | _, _ => false

/-- Two rows of values are the same. -/
def sameItems : List Json → List Json → Bool
  | [], [] => true
  | one :: rest, two :: rest' => same one two && sameItems rest rest'
  | _, _ => false

/-- Two rows of members are the same. -/
def sameMembers : List (List Letter × Json) → List (List Letter × Json) → Bool
  | [], [] => true
  | (name, one) :: rest, (name', two) :: rest' =>
      name = name' && same one two && sameMembers rest rest'
  | _, _ => false

end

mutual

/-- How many values stand one in the other at most, the value itself included. -/
def depth : Json → Nat
  | .list items => depthOfItems items + 1
  | .object members => depthOfMembers members + 1
  | _ => 1

/-- The greatest depth in a row of values. -/
def depthOfItems : List Json → Nat
  | [] => 0
  | item :: rest => max item.depth (depthOfItems rest)

/-- The greatest depth in a row of members. -/
def depthOfMembers : List (List Letter × Json) → Nat
  | [] => 0
  | (_, value) :: rest => max value.depth (depthOfMembers rest)

end

end Json

end ExtcapHost
