import ResourceGraph.Graph.Session

/-!
Finding the node that the end of a relationship names. Several ways are tried in order, and the
first one that finds a node decides.
-/

namespace ResourceGraph

open Text

/-- A way to find a node. -/
inductive Strategy where
  /-- By the id that an analyzer gave. -/
  | descriptorId
  /-- By the id of the node. -/
  | nodeId
  /-- By a type and a name with a point between them. -/
  | typeAndName
  /-- For an address of a module, by the name of the module within a type or a name. -/
  | moduleFuzzy
  deriving DecidableEq

namespace Strategy

/-- The ways in the order in which they are tried. -/
def all : List Strategy :=
  [.descriptorId, .nodeId, .typeAndName, .moduleFuzzy]

/-- The name of a way. -/
def name : Strategy → String
  | .descriptorId => "descriptor_id"
  | .nodeId => "node_id"
  | .typeAndName => "type_and_name"
  | .moduleFuzzy => "module_fuzzy"

/-- The way of a name. -/
def ofName? (word : String) : Option Strategy :=
  all.find? fun s => s.name = word

/-- The type and the name that an address consists of, if neither is empty. -/
def typeAndName? (ref : String) : Option (String × String) :=
  match splitOnce '.' ref.toList with
  | some (c :: type, d :: name) => some (String.ofList (c :: type), String.ofList (d :: name))
  | _ => none

/-- The name of the module that an address leads into. -/
def moduleName? (ref : String) : Option String :=
  (dropWord? ref.toList "module.".toList).map fun rest =>
    String.ofList (rest.takeWhile (· ≠ '.'))

/-- Looks for a node in one way. -/
def lookup (faults : Faults) (s : Session) (ref : String) : Strategy → Session.Outcome (Option Node)
  | .descriptorId => s.findByResourceId faults ref
  | .nodeId => s.findById faults ref
  | .typeAndName =>
    match typeAndName? ref with
    | some (type, name) => s.findByTypeAndName faults type name
    | none => (.ok none, s)
  | .moduleFuzzy =>
    match moduleName? ref with
    | some name => s.findFuzzy faults name
    | none => (.ok none, s)

end Strategy

namespace Endpoint

/-- Tries some ways in order; an error ends the search. -/
def tryAll (faults : Faults) (ref : String) :
    List Strategy → Session → Session.Outcome (Option (Node × Strategy))
  | [], s => (.ok none, s)
  | way :: rest, s =>
    match way.lookup faults s ref with
    | (.error e, s) => (.error e, s)
    | (.ok (some node), s) => (.ok (some (node, way)), s)
    | (.ok none, s) => tryAll faults ref rest s

/-- The node that a text names, blanks around it aside, and the way in which it was found. -/
def resolve (faults : Faults) (ways : List Strategy) (s : Session) (ref : String) :
    Session.Outcome (Option (Node × Strategy)) :=
  let ref := trim ref
  if ref.isEmpty then (.ok none, s) else tryAll faults ref ways s

end Endpoint

end ResourceGraph
