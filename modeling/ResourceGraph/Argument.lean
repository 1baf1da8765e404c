import ResourceGraph.Json.Value

/-!
The values of block arguments as a parser gives them. References are kept apart from strings, so
that they are found without reading any text again.
-/

namespace ResourceGraph

open Sorted

/-- The value of an argument. -/
inductive Argument where
  | null
  | bool (value : Bool)
  | number (value : Float)
  | text (value : String)
  | list (items : List Argument)
  /-- A map in increasing order of its keys. -/
  | map (entries : List (String × Argument))
  /-- A traversal such as `aws_vpc.main.id`. -/
  | reference (path : String)

namespace Argument

mutual

/-- All references in a value, depth first. -/
def references : Argument → List String
  | .reference path => [path]
  | .list items => itemReferences items
  | .map entries => entryReferences entries
  | _ => []

/-- The references in the items of a list. -/
def itemReferences : List Argument → List String
  | [] => []
  | v :: rest => references v ++ itemReferences rest

/-- The references in the values of a map. -/
def entryReferences : List (String × Argument) → List String
  | [] => []
  | (_, v) :: rest => references v ++ entryReferences rest

end

mutual

/-- A value as plain JSON: a reference becomes a string that marks it as one. -/
def toJson : Argument → Json
  | .null => .null
  | .bool b => .bool b
  | .number x => .finite x
  | .text s => .text s
  | .list items => .list (itemsToJson items)
  | .map entries => .object (entriesToJson entries)
  | .reference path => .text ("$\x7b" ++ path ++ "\x7d")

/-- The items of a list as plain JSON. -/
def itemsToJson : List Argument → List Json
  | [] => []
  | v :: rest => toJson v :: itemsToJson rest

/-- The values of a map as plain JSON. -/
def entriesToJson : List (String × Argument) → List (String × Json)
  | [] => []
  | (k, v) :: rest => (k, toJson v) :: entriesToJson rest

end

/-- The object of a tag and what it stands for. -/
def tag (kind : String) (value : Json) : Json :=
  .ofFields [("kind", .text kind), ("value", value)]

mutual

/-- A value with its kind written beside it. -/
def toTagged : Argument → Json
  | .null => .ofFields [("kind", .text "null")]
  | .bool b => tag "bool" (.bool b)
  | .number x => tag "number" (.finite x)
  | .text s => tag "string" (.text s)
  | .list items => tag "list" (.list (itemsToTagged items))
  | .map entries => tag "map" (.object (entriesToTagged entries))
  | .reference path => tag "reference" (.text path)

/-- The items of a list with their kinds. -/
def itemsToTagged : List Argument → List Json
  | [] => []
  | v :: rest => toTagged v :: itemsToTagged rest

/-- The values of a map with their kinds. -/
def entriesToTagged : List (String × Argument) → List (String × Json)
  | [] => []
  | (k, v) :: rest => (k, toTagged v) :: entriesToTagged rest

end

/-- The double that a JSON number stands for. -/
def number? : Json → Option Float
  | .int n =>
    let size := n.natAbs.toUInt64.toFloat
    some (if n < 0 then -size else size)
  | .real x => some x
  | _ => none

mutual

/-- Reads a value with its kind written beside it: an object with the two under `kind` and
`value`, or a list of the two. A null needs no value. -/
def ofTagged? : Json → Option Argument
  | .object fields =>
    match Table.find? fields "kind" with
    | some (.text kind) => valueField? kind fields
    | _ => none
  | .list [.text kind, value] => ofValue? kind value
  | _ => none

/-- Reads the field `value` of an object as a value of the given kind. -/
def valueField? (kind : String) : List (String × Json) → Option Argument
  | [] => if kind = "null" then some .null else none
  | (key, value) :: rest => if key = "value" then ofValue? kind value else valueField? kind rest

/-- Reads a JSON value as a value of the given kind. -/
def ofValue? (kind : String) : Json → Option Argument
  | .null => if kind = "null" then some .null else none
  | .bool b => if kind = "bool" then some (.bool b) else none
  | .text s =>
    if kind = "string" then some (.text s)
    else if kind = "reference" then some (.reference s)
    else none
  | .list items => if kind = "list" then (itemsOfTagged? items).map .list else none
  | .object fields => if kind = "map" then (entriesOfTagged? fields).map .map else none
  | .int n => if kind = "number" then (number? (.int n)).map .number else none
  | .real x => if kind = "number" then some (.number x) else none

/-- Reads the items of a list with their kinds. -/
def itemsOfTagged? : List Json → Option (List Argument)
  | [] => some []
  | v :: rest =>
    match ofTagged? v, itemsOfTagged? rest with
    | some value, some values => some (value :: values)
    | _, _ => none

/-- Reads the values of a map with their kinds. -/
def entriesOfTagged? : List (String × Json) → Option (List (String × Argument))
  | [] => some []
  | (k, v) :: rest =>
    match ofTagged? v, entriesOfTagged? rest with
    | some value, some values => some ((k, value) :: values)
    | _, _ => none

end

end Argument

end ResourceGraph
