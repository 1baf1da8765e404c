import ResourceGraph.Declaration
import ResourceGraph.Sorted

/-!
The registry of declarations. It holds one declaration for each address, the last one made, and the
addresses of resources in the order in which they were first seen.
-/

namespace ResourceGraph

open Sorted

/-- The declarations seen so far. -/
structure Registry where
  /-- The declarations by address. -/
  table : Table Declaration
  /-- The addresses that were new when a resource was declared at them, in that order. -/
  order : List String
  deriving DecidableEq

namespace Registry

/-- The registry without declarations. -/
def empty : Registry :=
  ⟨[], []⟩

/-- The declaration at an address. -/
def get? (r : Registry) (id : String) : Option Declaration :=
  r.table.find? id

/-- Whether something is declared at an address. -/
def contains (r : Registry) (id : String) : Bool :=
  (r.get? id).isSome

/-- Declares `d`, over what its address held before. The address joins the order if it is new and
`d` is a resource. -/
def insert (r : Registry) (d : Declaration) : Registry :=
  { table := r.table.insert d.id d
    order := if d.kind = .resource ∧ !r.contains d.id then r.order ++ [d.id] else r.order }

/-- Declares each of some declarations in turn. -/
def insertAll (r : Registry) (ds : List Declaration) : Registry :=
  ds.foldl insert r

/-- The declarations, in the order of their addresses. -/
def declarations (r : Registry) : List Declaration :=
  r.table.map Prod.snd

/-- The addresses of resources in the order in which they were first seen. -/
def resourceIds (r : Registry) : List String :=
  r.order

/-- What is declared at the addresses of resources, in the same order. -/
def resources (r : Registry) : List Declaration :=
  r.order.filterMap r.get?

/-- The declarations of one kind, in the order of their addresses. -/
def ofKind (r : Registry) (kind : Kind) : List Declaration :=
  r.declarations.filter fun d => d.kind = kind

/-- The number of declarations of one kind. -/
def count (r : Registry) (kind : Kind) : Nat :=
  (r.ofKind kind).length

/-- The names of the providers. -/
def providers (r : Registry) : Names :=
  Names.ofList ((r.ofKind .provider).map (·.name))

/-- The declarations of a registry in an order that keeps its order of resources: first those at
the addresses of resources, then the others by address. -/
def replay (r : Registry) : List Declaration :=
  r.resources ++ (r.table.filter fun entry => entry.1 ∉ r.order).map Prod.snd

/-- Declares everything that another registry holds. -/
def extend (r other : Registry) : Registry :=
  r.insertAll other.replay

end Registry

end ResourceGraph
