import ResourceGraph.Context
import ResourceGraph.Graph.Materialize

/-!
An import: the document about some files goes to an analyzer, and what the analyzer answers goes
into the graph.
-/

namespace ResourceGraph

/-- The numbers about an import. -/
structure ImportReport where
  context : ContextSummary
  validation : Validation
  tally : Tally
  deriving DecidableEq

namespace ImportReport

/-- The lines about an import, without a line feed at the end. -/
def lines (r : ImportReport) : List String :=
  let c := r.context
  let v := r.validation
  let t := r.tally
  [s!"Import Report ({t.mode.name}):",
   s!"  Files: {c.files} ({c.failed} syntax errors)",
   s!"  Declared resources: {c.resources}",
   s!"  Dependencies: {c.dependencies}",
   s!"  Groups: {c.groups}",
   s!"  Document: {c.size} chars" ++ (if c.truncated then " (truncated)" else ""),
   s!"  Resources: {v.resourcesAccepted} accepted, {v.resourcesMalformed} malformed",
   s!"  Relationships: {v.relationshipsAccepted} accepted, {v.relationshipsMalformed} malformed"] ++
  (if t.clearedNodes = 0 then [] else [s!"  Cleared nodes: {t.clearedNodes}"]) ++
  [s!"  Nodes: {t.nodesWritten} written, {t.nodesFailed} failed",
   s!"  Edges: {t.edgesWritten} written, {t.edgesUnresolved} unresolved, {t.edgesFailed} failed"]

/-- The report as one text. -/
def text (r : ImportReport) : String :=
  "\n".intercalate r.lines

/-- The number of entries and relationships that were not written for what they say. -/
def skipped (r : ImportReport) : Nat :=
  r.validation.resourcesMalformed + r.validation.relationshipsMalformed + r.tally.edgesUnresolved

/-- The number of writes that failed. -/
def failed (r : ImportReport) : Nat :=
  r.tally.nodesFailed + r.tally.edgesFailed

end ImportReport

namespace Import

/-- Imports an answer about files whose context is known. -/
def ofAnswer (faults : Faults) (mode : Mode) (s : Session) (context : Context)
    (answer : Except Error String) : Session.Outcome ImportReport :=
  match answer.bind Analysis.ofResponse with
  | .error e => (.error e, s)
  | .ok (analysis, validation) =>
    match Materialize.run faults Strategy.all mode s analysis with
    | (.error e, s) => (.error e, s)
    | (.ok tally, s) => (.ok ⟨context.summary, validation, tally⟩, s)

/-- Imports some files; the analyzer answers to the text of their document. -/
def run (options : ContextOptions) (parsers : List BlockParser) (faults : Faults) (mode : Mode)
    (s : Session) (files : List SourceFile) (analyzer : String → Except Error String) :
    Session.Outcome ImportReport :=
  let context := Context.build options parsers files
  ofAnswer faults mode s context (analyzer context.document.text)

end Import

end ResourceGraph
