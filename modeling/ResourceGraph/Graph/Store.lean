import ResourceGraph.Graph.Edge
import ResourceGraph.Graph.Node

/-!
The stored graph: nodes by id, and edges by their ends and their type. Every search gives the match
with the least id.
-/

namespace ResourceGraph

open Sorted Text

/-- A stored graph. -/
structure Store where
  /-- The nodes in the order of their ids. -/
  nodes : List Node
  /-- The edges in the order of their keys. -/
  edges : List Edge

namespace Store

/-- The graph without nodes. -/
def empty : Store :=
  ⟨[], []⟩

/-- Stores a node, over one with its id. -/
def putNode (s : Store) (n : Node) : Store :=
  { s with nodes := upsert Node.id n s.nodes }

/-- An edge as it is stored: a negative zero loses its sign. -/
def stored (e : Edge) : Edge :=
  if e.confidence == 0.0 then { e with confidence := 0.0 } else e

/-- Stores an edge, over one with its ends and its type. A confidence that is no number is refused. -/
def putEdge (s : Store) (e : Edge) : Except Error Store :=
  if e.confidence.isNaN then .error .missingConfidence
  else .ok { s with edges := upsert Edge.key (stored e) s.edges }

/-- The statements that make the indexes. -/
def indexStatements : List String :=
  ["CREATE INDEX IF NOT EXISTS idx_nodes_resource_id ON graph_nodes(resource_id)",
   "CREATE INDEX IF NOT EXISTS idx_nodes_type ON graph_nodes(type)",
   "CREATE INDEX IF NOT EXISTS idx_nodes_provider ON graph_nodes(provider)",
   "CREATE INDEX IF NOT EXISTS idx_nodes_category ON graph_nodes(category)",
   "CREATE INDEX IF NOT EXISTS idx_nodes_name ON graph_nodes(name)",
   "CREATE INDEX IF NOT EXISTS idx_edges_source ON graph_edges(source_id)",
   "CREATE INDEX IF NOT EXISTS idx_edges_target ON graph_edges(target_id)",
   "CREATE INDEX IF NOT EXISTS idx_edges_type ON graph_edges(type)"]

/-- The number of statements that make the indexes. -/
def indexCount : Nat := indexStatements.length

/-- The node that an analyzer gave an id to. -/
def findByResourceId? (s : Store) (id : String) : Option Node :=
  s.nodes.find? fun n => n.resourceId = some id

/-- The node with an id. -/
def findById? (s : Store) (id : String) : Option Node :=
  s.nodes.find? fun n => n.id = id

/-- The node with a type and a name. -/
def findByTypeAndName? (s : Store) (type name : String) : Option Node :=
  s.nodes.find? fun n => n.type = type ∧ n.name = name

/-- The node with a text in its type or its name. The empty text is in none. -/
def findFuzzy? (s : Store) (fragment : String) : Option Node :=
  if fragment.isEmpty then none
  else s.nodes.find? fun n => contains n.type fragment || contains n.name fragment

/-- The edges from a node. -/
def edgesFrom (s : Store) (id : String) : List Edge :=
  s.edges.filter fun e => e.source = id

/-- The edges to a node. -/
def edgesTo (s : Store) (id : String) : List Edge :=
  s.edges.filter fun e => e.target = id

end Store

/-- The numbers of nodes and edges. -/
structure Statistics where
  nodes : Nat
  edges : Nat
  /-- The numbers of nodes by category, where there are any. -/
  byCategory : Table Nat
  /-- The numbers of edges by type, where there are any. -/
  byType : Table Nat
  deriving DecidableEq

namespace Statistics

/-- How often each name is in a list. -/
def tally (names : List String) : Table Nat :=
  (Names.ofList names).map fun name => (name, names.count name)

/-- The numbers of a graph. -/
def ofStore (s : Store) : Statistics where
  nodes := s.nodes.length
  edges := s.edges.length
  byCategory := tally (s.nodes.map fun n => n.category.name)
  byType := tally (s.edges.map (·.type))

/-- One line for each number, those of a kind indented below their sum. -/
def text (s : Statistics) : String :=
  let indented (table : Table Nat) : String :=
    String.join (table.map fun (name, n) => s!"    {name}: {n}\n")
  s!"Graph Statistics:\n  Nodes: {s.nodes}\n" ++ indented s.byCategory ++
  s!"  Edges: {s.edges}\n" ++ indented s.byType

/-- The rows of a table of the numbers. -/
def rows (s : Statistics) : List (String × String) :=
  let indented (table : Table Nat) : List (String × String) :=
    table.map fun (name, n) => ("  " ++ name, toString n)
  [("Nodes", toString s.nodes)] ++ indented s.byCategory ++
  [("Edges", toString s.edges)] ++ indented s.byType

end Statistics

end ResourceGraph
