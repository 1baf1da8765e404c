import ResourceGraph.Analysis.Response
import ResourceGraph.Graph.Endpoint

/-!
Writing what an analyzer found into a store. Every write stands alone: one that fails is counted and
left out. Only a failure to clear the graph in advance ends the work.
-/

namespace ResourceGraph

open Sorted

/-- What becomes of the graph that is stored already. -/
inductive Mode where
  /-- It is cleared first. -/
  | replace
  /-- It is kept and added to. -/
  | merge
  deriving DecidableEq

/-- The name of a mode. -/
def Mode.name : Mode → String
  | .replace => "replace"
  | .merge => "merge"

/-- The numbers about one run. -/
structure Tally where
  mode : Mode
  clearedNodes : Nat
  nodesWritten : Nat
  nodesFailed : Nat
  edgesWritten : Nat
  edgesUnresolved : Nat
  edgesFailed : Nat
  indexesCreated : Nat
  /-- The ways in which the ends of relationships were found, the latest first. -/
  resolvedBy : List Strategy
  deriving DecidableEq

namespace Tally

/-- The numbers at the start of a run. -/
def start (mode : Mode) : Tally :=
  ⟨mode, 0, 0, 0, 0, 0, 0, 0, []⟩

/-- How often each way found an end, for the ways that found any, in their order. -/
def resolutions (t : Tally) : List (Strategy × Nat) :=
  Strategy.all.filterMap fun way =>
    let n := t.resolvedBy.count way
    if n = 0 then none else some (way, n)

end Tally

namespace Materialize

/-- A run: the numbers so far and the work on the store so far. -/
structure Progress where
  tally : Tally
  session : Session

/-- Writes one resource. -/
def writeNode (faults : Faults) (p : Progress) (d : ResourceDescriptor) : Progress :=
  match p.session.putNode faults (Node.ofDescriptor d) with
  | (.ok _, s) => ⟨{ p.tally with nodesWritten := p.tally.nodesWritten + 1 }, s⟩
  | (.error _, s) => ⟨{ p.tally with nodesFailed := p.tally.nodesFailed + 1 }, s⟩

/-- Finds the node that one end of a relationship names. -/
def findEnd (faults : Faults) (ways : List Strategy) (p : Progress) (ref : String) :
    Except Error (Option String) × Progress :=
  match Endpoint.resolve faults ways p.session ref with
  | (.error e, s) => (.error e, { p with session := s })
  | (.ok none, s) => (.ok none, { p with session := s })
  | (.ok (some (node, way)), s) =>
    (.ok (some node.id),
      ⟨{ p.tally with resolvedBy := way :: p.tally.resolvedBy }, s⟩)

/-- Finds the nodes of both ends. The second one is not looked for if the first is not found. -/
def findEnds (faults : Faults) (ways : List Strategy) (p : Progress) (d : RelationshipDescriptor) :
    Except Error (Option (String × String)) × Progress :=
  match findEnd faults ways p d.source with
  | (.error e, p) => (.error e, p)
  | (.ok none, p) => (.ok none, p)
  | (.ok (some source), p) =>
    match findEnd faults ways p d.target with
    | (.error e, p) => (.error e, p)
    | (.ok none, p) => (.ok none, p)
    | (.ok (some target), p) => (.ok (some (source, target)), p)

/-- Counts an edge that could not be written. -/
def Progress.failEdge (p : Progress) : Progress :=
  { p with tally := { p.tally with edgesFailed := p.tally.edgesFailed + 1 } }

/-- Writes one relationship. -/
def writeEdge (faults : Faults) (ways : List Strategy) (p : Progress) (d : RelationshipDescriptor) :
    Progress :=
  match findEnds faults ways p d with
  | (.error _, p) => p.failEdge
  | (.ok none, p) =>
    { p with tally := { p.tally with edgesUnresolved := p.tally.edgesUnresolved + 1 } }
  | (.ok (some (source, target)), p) =>
    match p.session.putEdge faults (Edge.ofDescriptor source target d) with
    | (.ok _, s) => ⟨{ p.tally with edgesWritten := p.tally.edgesWritten + 1 }, s⟩
    | (.error _, s) => Progress.failEdge ⟨p.tally, s⟩

/-- Makes the indexes; a failure leaves their number at zero. -/
def writeIndexes (faults : Faults) (p : Progress) : Progress :=
  match p.session.makeIndexes faults with
  | (.ok n, s) => ⟨{ p.tally with indexesCreated := n }, s⟩
  | (.error _, s) => ⟨p.tally, s⟩

/-- Writes all resources, then all relationships, then the indexes. -/
def write (faults : Faults) (ways : List Strategy) (p : Progress) (a : Analysis) : Progress :=
  let nodes := a.resources.foldl (writeNode faults) p
  let edges := a.relationships.foldl (writeEdge faults ways) nodes
  writeIndexes faults edges

/-- Clears the graph if the mode says so. -/
def prepare (faults : Faults) (mode : Mode) (s : Session) : Session.Outcome Tally :=
  match mode with
  | .merge => (.ok (.start mode), s)
  | .replace =>
    match s.clear faults with
    | (.error e, s) => (.error (.notCleared e), s)
    | (.ok n, s) => (.ok { Tally.start mode with clearedNodes := n }, s)

/-- Writes what an analyzer found. -/
def run (faults : Faults) (ways : List Strategy) (mode : Mode) (s : Session) (a : Analysis) :
    Session.Outcome Tally :=
  match prepare faults mode s with
  | (.error e, s) => (.error e, s)
  | (.ok tally, s) =>
    let p := write faults ways ⟨tally, s⟩ a
    (.ok p.tally, p.session)

end Materialize

end ResourceGraph
