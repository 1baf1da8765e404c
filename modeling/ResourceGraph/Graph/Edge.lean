import ResourceGraph.Analysis.Descriptor

/-!
Edges: relationships between nodes. Their types are words in capital letters, joined by underscores,
and two edges are the same if they have the same ends and the same type.
-/

namespace ResourceGraph

/-- The type of a relationship whose own type has no letter and no digit. -/
def fallbackType : String := "RELATED_TO"

/-- The making of a type: what there is of it, and whether a separator stands since its last
character. -/
structure TypeScan where
  out : String
  pending : Bool

namespace TypeScan

/-- Nothing is read yet. -/
def start : TypeScan := ⟨"", false⟩

/-- Reads a character. A letter or a digit goes on in capitals, behind an underscore if separators
stand between it and an earlier one. -/
def step (s : TypeScan) (c : Char) : TypeScan :=
  if c.isAlphanum then
    let out := if s.pending && !s.out.isEmpty then s.out.push '_' else s.out
    ⟨out.push c.toUpper, false⟩
  else { s with pending := true }

end TypeScan

/-- The type that a text names, made in one pass over the text. -/
def relationshipType (raw : String) : String :=
  let out := (raw.toList.foldl TypeScan.step .start).out
  if out.isEmpty then fallbackType else out

/-- A relationship in the graph. -/
structure Edge where
  source : String
  target : String
  type : String
  description : String
  confidence : Float

namespace Edge

/-- The nearest number from zero to one; a value that is no number stays as it is. -/
def clamp (x : Float) : Float :=
  if x < 0.0 then 0.0 else if 1.0 < x then 1.0 else x

/-- An edge of full confidence without a description. -/
def make (source target rawType : String) : Edge :=
  ⟨source, target, relationshipType rawType, "", 1.0⟩

/-- An edge with another confidence. -/
def withConfidence (e : Edge) (x : Float) : Edge :=
  { e with confidence := clamp x }

/-- The edge between two nodes that a relationship describes. -/
def ofDescriptor (source target : String) (d : RelationshipDescriptor) : Edge :=
  { make source target d.type with description := d.description, confidence := clamp d.confidence }

/-- Whether an edge has full confidence, up to the distance of neighbouring doubles above one. -/
def isCertain (e : Edge) : Bool :=
  (e.confidence - 1.0).abs < Float.ofScientific 2220446049250313 true 31

/-- What tells one edge from another. -/
structure Key where
  source : String
  target : String
  type : String
  deriving DecidableEq

/-- The ends and the type of an edge. -/
def key (e : Edge) : Key :=
  ⟨e.source, e.target, e.type⟩

/-- Keys are compared by source, then by target, then by type. -/
instance : Ord Key where
  compare a b :=
    ((compare a.source b.source).then (compare a.target b.target)).then (compare a.type b.type)

/-- Whether two edges are the same one. -/
def same (a b : Edge) : Bool :=
  a.key = b.key

end Edge

end ResourceGraph
