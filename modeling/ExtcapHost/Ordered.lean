/-
Module: ExtcapHost.Ordered
Purpose: Association lists in order of first writing.
Main exports:
  Ordered.put, Ordered.get?, Ordered.erase, Ordered.ofPairs
-/

namespace ExtcapHost.Ordered

variable {κ ν : Type} [DecidableEq κ]

/-- Write a value.  A key that is present keeps its place and takes the new
value; a new key goes to the end. -/
def put (key : κ) (value : ν) : List (κ × ν) → List (κ × ν)
  | [] => [(key, value)]
  | (k, v) :: rest => if k = key then (key, value) :: rest else (k, v) :: put key value rest

/-- The value of a key. -/
def get? (key : κ) : List (κ × ν) → Option ν
  | [] => none
  | (k, v) :: rest => if k = key then some v else get? key rest

/-- The list without a key. -/
def erase (key : κ) : List (κ × ν) → List (κ × ν)
  | [] => []
  | (k, v) :: rest => if k = key then rest else (k, v) :: erase key rest

/-- All pairs written one after the other. -/
def ofPairs (pairs : List (κ × ν)) : List (κ × ν) :=
  pairs.foldl (fun table pair => put pair.1 pair.2 table) []

theorem get?_put_self (key : κ) (value : ν) (table : List (κ × ν)) :
    get? key (put key value table) = some value := by
  induction table with
  | nil => simp [put, get?]
  | cons entry rest ih =>
      simp only [put]
      split <;> simp_all [get?]

theorem get?_put_other {key other : κ} (different : other ≠ key) (value : ν)
    (table : List (κ × ν)) :
    get? other (put key value table) = get? other table := by
  induction table with
  | nil => simp [put, get?, different.symm]
  | cons entry rest ih =>
      simp only [put]
      split <;> simp_all [get?, eq_comm]

end ExtcapHost.Ordered
