import ResourceGraph.Sorted

/-!
JSON values. Integers that fit 64 bits, signed or not, stay exact; every other number is a double.
The keys of an object are distinct and in increasing order.
-/

namespace ResourceGraph

/-- A JSON value. -/
inductive Json where
  | null
  | bool (value : Bool)
  | int (value : Int)
  | real (value : Float)
  | text (value : String)
  | list (items : List Json)
  | object (fields : List (String × Json))

namespace Json

/-- The object with these fields; of two fields with one key the later counts. -/
def ofFields (fields : List (String × Json)) : Json :=
  .object (Sorted.Table.ofList fields)

/-- The value under a key of an object. -/
def field? (v : Json) (key : String) : Option Json :=
  match v with
  | .object fields => Sorted.Table.find? fields key
  | _ => none

/-- A list of strings. -/
def texts (items : List String) : Json :=
  .list (items.map .text)

/-- A count. -/
def count (n : Nat) : Json :=
  .int n

/-- A string, or null. -/
def textOrNull : Option String → Json
  | none => .null
  | some s => .text s

/-- A double; null if it is not finite. -/
def finite (x : Float) : Json :=
  if x.isFinite then .real x else .null

end Json

end ResourceGraph
