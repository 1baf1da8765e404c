import ResourceGraph.Analysis.Descriptor
import ResourceGraph.Error
import ResourceGraph.Json.Reader

/-!
The answer of an analyzer. It may hold other text around its JSON object; what counts runs from the
first opening brace to the last closing one. Entries that are no descriptors are counted and left
out.
-/

namespace ResourceGraph

/-- What an analyzer found. -/
structure Analysis where
  resources : List ResourceDescriptor
  relationships : List RelationshipDescriptor

/-- The numbers of entries that were accepted and left out. -/
structure Validation where
  resourcesAccepted : Nat
  resourcesMalformed : Nat
  relationshipsAccepted : Nat
  relationshipsMalformed : Nat
  deriving DecidableEq

namespace Analysis

/-- The text from the first opening brace to the last closing one behind it. -/
def objectText? (cs : List Char) : Option (List Char) :=
  let back := ((cs.dropWhile (· ≠ '{')).reverse.dropWhile (· ≠ '}')).reverse
  if back.length ≤ 1 then none else some back

/-- The entries of a list in a field; none if there is no such list. -/
def entries (v : Json) (field : String) : List Json :=
  match v.field? field with
  | some (.list items) => items
  | _ => []

/-- The resource that an entry describes. -/
def resource? (v : Json) : Option ResourceDescriptor :=
  (ResourceDescriptor.ofJson? v).filter ResourceDescriptor.isNamed

/-- The relationship that an entry describes. -/
def relationship? (v : Json) : Option RelationshipDescriptor :=
  (RelationshipDescriptor.ofJson? v).filter RelationshipDescriptor.isValid

/-- What the entries of a list have given so far: what was found, and how many entries were accepted
and left out. -/
structure Sifted (α : Type) where
  found : List α
  accepted : Nat
  malformed : Nat

namespace Sifted

variable {α : Type}

/-- No entry is read yet. -/
def start : Sifted α := ⟨[], 0, 0⟩

/-- Reads an entry. -/
def step (read : Json → Option α) (s : Sifted α) (entry : Json) : Sifted α :=
  match read entry with
  | some x => { s with found := s.found ++ [x], accepted := s.accepted + 1 }
  | none => { s with malformed := s.malformed + 1 }

end Sifted

/-- Reads the entries of a list, one after the other. -/
def sift (read : Json → Option α) (listed : List Json) : Sifted α :=
  listed.foldl (Sifted.step read) .start

/-- What the object of an answer says. -/
def ofJson (v : Json) : Analysis × Validation :=
  let resources := sift resource? (entries v "resources")
  let relationships := sift relationship? (entries v "relationships")
  (⟨resources.found, relationships.found⟩,
   { resourcesAccepted := resources.accepted
     resourcesMalformed := resources.malformed
     relationshipsAccepted := relationships.accepted
     relationshipsMalformed := relationships.malformed })

/-- What an answer says. -/
def ofResponse (raw : String) : Except Error (Analysis × Validation) :=
  match objectText? raw.toList with
  | none => .error .noObject
  | some cs =>
    match Json.read? (String.ofList cs) with
    | none => .error .badJson
    | some v => .ok (ofJson v)

end Analysis

end ResourceGraph
