import ResourceGraph.Records
import ResourceGraph.Workspace

/-!
Keeping a graph in a file. The file holds one JSON object with the nodes and the edges; the
confidence of an edge is kept as the number that its bits stand for, so that it reads back the same.
An empty file holds the empty graph.
-/

namespace ResourceGraph

open Text

namespace GraphFile

/-- The word that tells such a file from others. -/
def marker : String := "resource graph"

/-- An edge with the bits of its confidence. -/
def edgeToJson (e : Edge) : Json :=
  .ofFields
    [("source", .text e.source), ("target", .text e.target), ("type", .text e.type),
     ("description", .text e.description), ("confidence", .count e.confidence.toBits.toNat)]

/-- Reads an edge with the bits of its confidence. -/
def edgeOfJson? (v : Json) : Option Edge := do
  let fields ← fieldsOf? [] v
  let bits ← Settings.optionalField? Settings.jsonCount? fields "confidence"
  return {
    source := ← requiredText? fields "source"
    target := ← requiredText? fields "target"
    type := ← requiredText? fields "type"
    description := ← requiredText? fields "description"
    confidence := Float.ofBits (UInt64.ofNat (← bits)) }

/-- The items of a list that are all of one form. -/
def listOf? (read : Json → Option α) (v : Option Json) : Option (List α) :=
  match v with
  | some (.list items) => items.mapM read
  | _ => none

/-- The text of a graph. -/
def write (s : Store) : String :=
  Json.compact (.ofFields
    [("format", .text marker), ("nodes", .list (s.nodes.map Node.toJson)),
     ("edges", .list (s.edges.map edgeToJson))])

/-- Reads the text of a graph. -/
def read? (text : String) : Option Store := do
  if text.isEmpty then return .empty
  let v ← Json.read? text
  guard (Settings.jsonText? (← v.field? "format") = some marker)
  return ⟨← listOf? Node.ofJson? (v.field? "nodes"), ← listOf? edgeOfJson? (v.field? "edges")⟩

/-- The graph in the file at the end of a path, and the workspace behind that: a missing file is
made. -/
def load (w : Workspace) (path : String) : Except Error (Store × Workspace) :=
  match w.readText path with
  | .ok text =>
    match read? text with
    | some s => .ok (s, w)
    | none => .error .notGraph
  | .error .missing =>
    match w.write path (encodeUtf8 (write .empty)) with
    | .ok next => .ok (.empty, next)
    | .error _ => .error (.noGraphFile path)
  | .error .notText => .error .notGraph
  | .error _ => .error (.noGraphFile path)

/-- The workspace with a graph in the file at the end of a path. -/
def save (w : Workspace) (path : String) (s : Store) : Except Error Workspace :=
  match w.write path (encodeUtf8 (write s)) with
  | .ok next => .ok next
  | .error _ => .error (.noGraphFile path)

end GraphFile

end ResourceGraph
