import ResourceGraph.Import
import ResourceGraph.Settings

/-!
Reports and stored records as JSON.
-/

namespace ResourceGraph

open Sorted

/-- A map from names to counts. -/
def countsToJson (table : Table Nat) : Json :=
  .object (table.map fun (name, n) => (name, Json.count n))

/-- The numbers about a document. -/
def ContextSummary.toJson (s : ContextSummary) : Json :=
  .ofFields
    [("files", .count s.files), ("resources", .count s.resources),
     ("dependencies", .count s.dependencies), ("groups", .count s.groups),
     ("syntax_errors", .count s.failed), ("document_chars", .count s.size),
     ("truncated", .bool s.truncated)]

/-- The numbers about an answer. -/
def Validation.toJson (v : Validation) : Json :=
  .ofFields
    [("resources_accepted", .count v.resourcesAccepted),
     ("resources_malformed", .count v.resourcesMalformed),
     ("relationships_accepted", .count v.relationshipsAccepted),
     ("relationships_malformed", .count v.relationshipsMalformed)]

/-- The numbers about what was written into a graph. -/
def Tally.toJson (t : Tally) : Json :=
  .ofFields
    [("mode", .text t.mode.name), ("cleared_nodes", .count t.clearedNodes),
     ("nodes_written", .count t.nodesWritten), ("nodes_failed", .count t.nodesFailed),
     ("edges_written", .count t.edgesWritten), ("edges_unresolved", .count t.edgesUnresolved),
     ("edges_failed", .count t.edgesFailed), ("indexes_created", .count t.indexesCreated),
     ("resolved_by", .ofFields (t.resolutions.map fun (way, n) => (way.name, .count n)))]

/-- The numbers about an import. -/
def ImportReport.toJson (r : ImportReport) : Json :=
  .ofFields
    [("context", r.context.toJson), ("validation", r.validation.toJson),
     ("materialize", r.tally.toJson)]

/-- The numbers of a graph. -/
def Statistics.toJson (s : Statistics) : Json :=
  .ofFields
    [("nodes", .count s.nodes), ("edges", .count s.edges),
     ("nodes_by_category", countsToJson s.byCategory), ("edges_by_type", countsToJson s.byType)]

/-- A node. -/
def Node.toJson (n : Node) : Json :=
  .ofFields
    [("id", .text n.id), ("resource_id", .textOrNull n.resourceId), ("name", .text n.name),
     ("node_type", .text n.type), ("provider", .text n.provider),
     ("category", .text n.category.name), ("properties", .text n.properties)]

/-- The fields of a node, in order. -/
def Node.keys : List String :=
  ["id", "resource_id", "name", "node_type", "provider", "category", "properties"]

/-- Reads a node. All but the id from the analyzer must be there. -/
def Node.ofJson? (v : Json) : Option Node := do
  let fields ← fieldsOf? Node.keys v
  return {
    id := ← requiredText? fields "id"
    resourceId := ← optionalText? fields "resource_id"
    name := ← requiredText? fields "name"
    type := ← requiredText? fields "node_type"
    provider := ← requiredText? fields "provider"
    category := ← NodeCategory.ofExactName? (← requiredText? fields "category")
    properties := ← requiredText? fields "properties" }

/-- An edge. -/
def Edge.toJson (e : Edge) : Json :=
  .ofFields
    [("source_id", .text e.source), ("target_id", .text e.target), ("edge_type", .text e.type),
     ("description", .text e.description), ("confidence", .finite e.confidence)]

namespace Settings

/-- The settings, in order. -/
def keys : List String :=
  ["database", "path", "max_document_chars", "primary_file", "overview_dependency_limit",
   "strict_implicit", "extensions", "exclude"]

/-- A value that may be missing or null; any other value that `read` refuses is an error. -/
def optionalField? (read : Json → Option α) (fields : Table Json) (key : String) :
    Option (Option α) :=
  match fields.find? key with
  | none | some .null => some none
  | some v => (read v).map some

/-- A number that is not negative and no fraction. -/
def jsonCount? : Json → Option Nat
  | .int n => if n < 0 then none else some n.toNat
  | _ => none

/-- A string. -/
def jsonText? : Json → Option String
  | .text s => some s
  | _ => none

/-- A truth value. -/
def jsonBool? : Json → Option Bool
  | .bool b => some b
  | _ => none

/-- A list of strings. -/
def jsonTexts? : Json → Option (List String)
  | .list items => items.mapM jsonText?
  | _ => none

/-- Reads settings. Other fields do not count. -/
def ofJson? (v : Json) : Option Settings := do
  let fields ← fieldsOf? keys v
  return {
    database := ← optionalField? jsonText? fields "database"
    path := ← optionalField? jsonText? fields "path"
    limit := ← optionalField? jsonCount? fields "max_document_chars"
    primary := ← optionalField? jsonText? fields "primary_file"
    dependencyLimit := ← optionalField? jsonCount? fields "overview_dependency_limit"
    strict := ← optionalField? jsonBool? fields "strict_implicit"
    extensions := ← optionalField? jsonTexts? fields "extensions"
    exclude := ← optionalField? jsonTexts? fields "exclude" }

/-- Settings, with null for those that are not set. -/
def toJson (s : Settings) : Json :=
  let number (n : Option Nat) : Json := (n.map Json.count).getD .null
  let texts (items : Option (List String)) : Json := (items.map Json.texts).getD .null
  .ofFields
    [("database", .textOrNull s.database), ("path", .textOrNull s.path),
     ("max_document_chars", number s.limit), ("primary_file", .textOrNull s.primary),
     ("overview_dependency_limit", number s.dependencyLimit),
     ("strict_implicit", (s.strict.map Json.bool).getD .null),
     ("extensions", texts s.extensions), ("exclude", texts s.exclude)]

end Settings

end ResourceGraph
