import ResourceGraph.Graph.Store

/-!
Working with a store some of whose calls may fail. A failing call leaves the graph as it is. Which
calls fail may depend on the call and on how many calls came before it.
-/

namespace ResourceGraph

/-- A call to a store. -/
inductive Call where
  | clear
  | putNode (node : Node)
  | putEdge (edge : Edge)
  | makeIndexes
  | findByResourceId (id : String)
  | findById (id : String)
  | findByTypeAndName (type name : String)
  | findFuzzy (fragment : String)

/-- Which calls fail, and how: the number of calls so far and the call give the error. -/
abbrev Faults := Nat → Call → Option Error

/-- No call fails. -/
def noFaults : Faults :=
  fun _ _ => none

/-- The work on a store so far. -/
structure Session where
  store : Store
  /-- The stores before each call so far, the latest first. -/
  past : List Store

namespace Session

/-- The work on a store begins. -/
def start (s : Store) : Session :=
  ⟨s, []⟩

/-- The outcome of a call that does nothing but fail or succeed. -/
abbrev Outcome (α : Type) := Except Error α × Session

/-- Makes a call: unless it is to fail, `act` gives its answer and the store behind it. -/
def call (faults : Faults) (s : Session) (c : Call) (act : Store → Except Error (α × Store)) :
    Outcome α :=
  match faults s.past.length c with
  | some e => (.error e, ⟨s.store, s.store :: s.past⟩)
  | none =>
    match act s.store with
    | .error e => (.error e, ⟨s.store, s.store :: s.past⟩)
    | .ok (answer, next) => (.ok answer, ⟨next, s.store :: s.past⟩)

/-- Makes a call that only asks. -/
def ask (faults : Faults) (s : Session) (c : Call) (answer : Store → α) : Outcome α :=
  s.call faults c fun store => .ok (answer store, store)

/-- Removes all nodes and edges; tells how many nodes there were. -/
def clear (faults : Faults) (s : Session) : Outcome Nat :=
  s.call faults .clear fun store => .ok (store.nodes.length, .empty)

/-- Stores a node. -/
def putNode (faults : Faults) (s : Session) (n : Node) : Outcome Unit :=
  s.call faults (.putNode n) fun store => .ok ((), store.putNode n)

/-- Stores an edge. -/
def putEdge (faults : Faults) (s : Session) (e : Edge) : Outcome Unit :=
  s.call faults (.putEdge e) fun store => (store.putEdge e).map ((), ·)

/-- Makes the indexes; tells how many statements that took. -/
def makeIndexes (faults : Faults) (s : Session) : Outcome Nat :=
  s.ask faults .makeIndexes fun _ => Store.indexCount

/-- Looks for the node that an analyzer gave an id to. -/
def findByResourceId (faults : Faults) (s : Session) (id : String) : Outcome (Option Node) :=
  s.ask faults (.findByResourceId id) fun store => store.findByResourceId? id

/-- Looks for the node with an id. -/
def findById (faults : Faults) (s : Session) (id : String) : Outcome (Option Node) :=
  s.ask faults (.findById id) fun store => store.findById? id

/-- Looks for the node with a type and a name. -/
def findByTypeAndName (faults : Faults) (s : Session) (type name : String) :
    Outcome (Option Node) :=
  s.ask faults (.findByTypeAndName type name) fun store => store.findByTypeAndName? type name

/-- Looks for the node with a text in its type or its name. -/
def findFuzzy (faults : Faults) (s : Session) (fragment : String) : Outcome (Option Node) :=
  s.ask faults (.findFuzzy fragment) fun store => store.findFuzzy? fragment

end Session

end ResourceGraph
