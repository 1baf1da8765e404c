import ResourceGraph.Argument
import ResourceGraph.Json.Writer
import ResourceGraph.Text.Blank

/-!
What an analyzer says about resources and their relationships. A descriptor is an object with the
fields below, or a list of their values in order; a list may stop early where the fields left out
have a default.
-/

namespace ResourceGraph

open Text Sorted

/-- A resource as an analyzer describes it. -/
structure ResourceDescriptor where
  id : Option String
  type : Option String
  name : Option String
  provider : Option String
  properties : Json

/-- A relationship as an analyzer describes it. -/
structure RelationshipDescriptor where
  source : String
  target : String
  type : String
  description : String
  confidence : Float

/-- The fields of an object or a list, by the names in `keys`; nothing for other values and for
lists that are too long. -/
def fieldsOf? (keys : List String) (v : Json) : Option (Table Json) :=
  match v with
  | .object fields => some fields
  | .list items =>
    if items.length ≤ keys.length then some (Table.ofList (keys.zip items)) else none
  | _ => none

/-- The string in a field, if there is one; a null counts as none. -/
def optionalText? (fields : Table Json) (key : String) : Option (Option String) :=
  match fields.find? key with
  | none | some .null => some none
  | some (.text s) => some (some s)
  | some _ => none

/-- The string in a field, or the given one if the field is missing. -/
def textOr? (fallback : String) (fields : Table Json) (key : String) : Option String :=
  match fields.find? key with
  | none => some fallback
  | some (.text s) => some s
  | some _ => none

/-- The string in a field that may not be missing. -/
def requiredText? (fields : Table Json) (key : String) : Option String :=
  match fields.find? key with
  | some (.text s) => some s
  | _ => none

/-- Whether a string has anything but blanks. -/
def hasText (s : String) : Bool :=
  !(trim s).isEmpty

/-- A string without the blanks around it, if anything is left. -/
def nonBlank? : Option String → Option String
  | none => none
  | some s => if hasText s then some (trim s) else none

namespace ResourceDescriptor

/-- The fields of a resource, in order. -/
def keys : List String := ["id", "type", "name", "provider", "properties"]

/-- Reads a resource. -/
def ofJson? (v : Json) : Option ResourceDescriptor := do
  let fields ← fieldsOf? keys v
  return {
    id := ← optionalText? fields "id"
    type := ← optionalText? fields "type"
    name := ← optionalText? fields "name"
    provider := ← optionalText? fields "provider"
    properties := (fields.find? "properties").getD (.object []) }

/-- The fields of a resource in order, as one line of JSON. -/
def compact (d : ResourceDescriptor) : String :=
  "\x7b" ++ Json.compactFields
    [("id", .textOrNull d.id), ("type", .textOrNull d.type), ("name", .textOrNull d.name),
     ("provider", .textOrNull d.provider), ("properties", d.properties)] ++ "\x7d"

/-- Whether a resource has an id, a type or a name. -/
def isNamed (d : ResourceDescriptor) : Bool :=
  (nonBlank? d.id).isSome || (nonBlank? d.type).isSome || (nonBlank? d.name).isSome

end ResourceDescriptor

namespace RelationshipDescriptor

/-- The fields of a relationship, in order. -/
def keys : List String := ["source", "target", "type", "description", "confidence"]

/-- The number in a field, or the given one if the field is missing. -/
def numberOr? (fallback : Float) (fields : Table Json) (key : String) : Option Float :=
  match fields.find? key with
  | none => some fallback
  | some v => Argument.number? v

/-- Reads a relationship. -/
def ofJson? (v : Json) : Option RelationshipDescriptor := do
  let fields ← fieldsOf? keys v
  return {
    source := ← requiredText? fields "source"
    target := ← requiredText? fields "target"
    type := ← textOr? "" fields "type"
    description := ← textOr? "" fields "description"
    confidence := ← numberOr? 1.0 fields "confidence" }

/-- Whether a relationship has both ends and a confidence from zero to one. -/
def isValid (d : RelationshipDescriptor) : Bool :=
  hasText d.source && hasText d.target && (0.0 ≤ d.confidence && d.confidence ≤ 1.0)

end RelationshipDescriptor

end ResourceGraph
