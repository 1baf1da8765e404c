import ResourceGraph.Sorted
import ResourceGraph.Total

/-!
The dependencies of resources. Each resource that was mentioned has an entry, in the order of first
mention, with one set of targets for each category.
-/

namespace ResourceGraph

open Sorted

/-- How a resource depends on something. -/
inductive Category where
  | resource
  | module
  | variable
  | output
  | implicit
  deriving DecidableEq

namespace Category

/-- The categories in the order in which they are listed. -/
def all : List Category :=
  [.resource, .module, .variable, .output, .implicit]

/-- The name of a category. -/
def name : Category → String
  | .resource => "resource"
  | .module => "module"
  | .variable => "variable"
  | .output => "output"
  | .implicit => "implicit"

/-- The category of a name. -/
def ofName? (word : String) : Option Category :=
  all.find? fun c => c.name = word

end Category

/-- The targets that one resource depends on. -/
structure Targets where
  resources : Names
  modules : Names
  /-- The variables and locals among the targets. -/
  inputs : Names
  outputs : Names
  implicit : Names
  deriving DecidableEq

namespace Targets

/-- No targets. -/
def empty : Targets :=
  ⟨[], [], [], [], []⟩

/-- The targets of one category. -/
def get (t : Targets) : Category → Names
  | .resource => t.resources
  | .module => t.modules
  | .variable => t.inputs
  | .output => t.outputs
  | .implicit => t.implicit

/-- Puts a set of targets in the place of those of one category. -/
def set (t : Targets) (category : Category) (names : Names) : Targets :=
  match category with
  | .resource => { t with resources := names }
  | .module => { t with modules := names }
  | .variable => { t with inputs := names }
  | .output => { t with outputs := names }
  | .implicit => { t with implicit := names }

/-- Adds a target to a category. -/
def add (t : Targets) (category : Category) (target : String) : Targets :=
  t.set category ((t.get category).insert target)

/-- Adds a target to a category; also tells whether it is new there. -/
def addNew (t : Targets) (category : Category) (target : String) : Bool × Targets :=
  let (new, names) := Names.insertNew target (t.get category)
  (new, t.set category names)

/-- The targets of all categories in one set. -/
def combined (t : Targets) : Names :=
  Names.ofList (Category.all.flatMap t.get)

/-- The number of targets, one for each category that holds it. -/
def size (t : Targets) : Nat :=
  total (Category.all.map fun c => (t.get c).length)

/-- Whether there are no targets. -/
def isEmpty (t : Targets) : Bool :=
  t.size = 0

end Targets

/-- A dependency of one resource. -/
structure Dependency where
  source : String
  target : String
  category : Category
  deriving DecidableEq

/-- The dependencies of the resources mentioned so far. -/
structure DependencyMap where
  /-- The resources in the order of first mention, with their targets. -/
  entries : List (String × Targets)
  deriving DecidableEq

namespace DependencyMap

/-- The map without resources. -/
def empty : DependencyMap :=
  ⟨[]⟩

/-- The targets of a resource. -/
def get? (m : DependencyMap) (id : String) : Option Targets :=
  (m.entries.find? fun entry => entry.1 = id).map Prod.snd

/-- Changes the entry of a resource, which is made if it is missing. -/
def updateIn (id : String) (change : Targets → Targets) :
    List (String × Targets) → List (String × Targets)
  | [] => [(id, change .empty)]
  | entry :: rest =>
    if entry.1 = id then (entry.1, change entry.2) :: rest
    else entry :: updateIn id change rest

/-- Mentions a resource. -/
def touch (m : DependencyMap) (id : String) : DependencyMap :=
  ⟨updateIn id (fun t => t) m.entries⟩

/-- Records that a resource depends on a target. -/
def record (m : DependencyMap) (source target : String) (category : Category) : DependencyMap :=
  ⟨updateIn source (fun t => t.add category target) m.entries⟩

/-- Records that a resource depends on a target; also tells whether that is new. -/
def recordNew (m : DependencyMap) (source target : String) (category : Category) :
    Bool × DependencyMap :=
  let (new, targets) := ((m.get? source).getD .empty).addNew category target
  (new, ⟨updateIn source (fun _ => targets) m.entries⟩)

/-- All that a resource depends on, in one set. -/
def combined (m : DependencyMap) (id : String) : Names :=
  match m.get? id with
  | none => []
  | some t => t.combined

/-- The resources in the order of first mention. -/
def ids (m : DependencyMap) : List String :=
  m.entries.map Prod.fst

/-- The dependencies: by resource in the order of first mention, then by category, then by target. -/
def edges (m : DependencyMap) : List Dependency :=
  m.entries.flatMap fun (id, t) =>
    Category.all.flatMap fun c => (t.get c).map fun target => ⟨id, target, c⟩

/-- The number of dependencies of one category. -/
def count (m : DependencyMap) (category : Category) : Nat :=
  total (m.entries.map fun (_, t) => (t.get category).length)

/-- The number of dependencies. -/
def totalCount (m : DependencyMap) : Nat :=
  total (m.entries.map fun (_, t) => t.size)

end DependencyMap

end ResourceGraph
