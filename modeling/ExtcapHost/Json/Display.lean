/-
Module: ExtcapHost.Json.Display
Purpose: Values as they are shown to an operator.
Main exports:
  Json.displayInner, Json.display
-/
import ExtcapHost.Json.Value
import ExtcapHost.Number.Shortest
import ExtcapHost.Text.Quoted

namespace ExtcapHost.Json

open Text

mutual

/-- A value inside of another one. -/
def displayInner : Json → List Char
  | .null => "None".toList
  | .bool true => "True".toList
  | .bool false => "False".toList
  | .integer value => writeInteger value
  | .float value => value.write "nan" "inf"
  | .string letters => quote letters
  | .list items => '[' :: displayItems items ++ [']']
  | .object members => '{' :: displayMembers members ++ ['}']

/-- Values with commas between them. -/
def displayItems : List Json → List Char
  | [] => []
  | [item] => displayInner item
  | item :: rest => displayInner item ++ ',' :: ' ' :: displayItems rest

/-- Members with commas between them. -/
def displayMembers : List (List Letter × Json) → List Char
  | [] => []
  | [(name, value)] => quote name ++ ':' :: ' ' :: displayInner value
  | (name, value) :: rest =>
      quote name ++ ':' :: ' ' :: displayInner value ++ ',' :: ' ' :: displayMembers rest

end

/-- A value by itself: text stands without quotes. -/
def display : Json → List Letter
  | .string letters => letters
  | value => wide (displayInner value)

end ExtcapHost.Json
