import ResourceGraph.Dependency.Reference
import ResourceGraph.Parsed
import ResourceGraph.Scan

/-!
Resolving references. A reference counts only if something is declared at its address, and a block
never depends on itself. Besides the references that it spells out, a block that mentions a keyword
depends implicitly on every resource of the types that the keyword stands for.
-/

namespace ResourceGraph

open Text Sorted

/-- The keywords that link a block to all resources of some types. -/
def implicitKeywords : List (String × List String) :=
  [("security_group", ["aws_security_group", "azurerm_network_security_group"]),
   ("subnet", ["aws_subnet", "azurerm_subnet", "google_compute_subnetwork"]),
   ("vpc", ["aws_vpc"]),
   ("key_pair", ["aws_key_pair"]),
   ("iam_role", ["aws_iam_role"])]

/-- The addresses that references are looked up among. -/
structure SymbolTable where
  resources : Names
  /-- The addresses of the resources of each type, in the order in which they were first seen. -/
  byType : Table (List String)
  /-- The addresses of declarations that are targets by their kind alone. -/
  others : Names

namespace SymbolTable

/-- The table without addresses. -/
def empty : SymbolTable :=
  ⟨[], [], []⟩

/-- Adds a resource. -/
def addResource (t : SymbolTable) (d : Declaration) : SymbolTable :=
  { t with
    byType := alter d.type [] (fun ids => ids ++ [d.id]) t.byType
    resources := t.resources.insert d.id }

/-- The kinds of declarations that are targets. -/
def targetKinds : List Kind :=
  [.data, .module, .variable, .local, .output]

/-- Adds the declarations of one kind. -/
def addKind (registry : Registry) (t : SymbolTable) (kind : Kind) : SymbolTable :=
  { t with
    others := (registry.ofKind kind).foldl (fun names d => names.insert d.id) t.others }

/-- The table of a registry: its resources, and then what it declares of other kinds. -/
def build (registry : Registry) : SymbolTable :=
  targetKinds.foldl (addKind registry) (registry.resources.foldl addResource .empty)

end SymbolTable

/-- A registry with its table of symbols, which is built once. -/
structure Indexed where
  registry : Registry
  symbols : SymbolTable
  built : symbols = .build registry

/-- The table is that of the registry. -/
instance : Coe Registry Indexed where
  coe registry := ⟨registry, .build registry, rfl⟩

/-- What references are resolved against. -/
structure Resolver where
  indexed : Indexed
  /-- Whether an implicit dependency also needs the address of its target in the block. -/
  strict : Bool

namespace Resolver

/-- The registry of a resolver. -/
abbrev registry (r : Resolver) : Registry :=
  r.indexed.registry

/-- The symbols of a resolver. -/
abbrev symbols (r : Resolver) : SymbolTable :=
  r.indexed.symbols

/-- Whether an address is that of a resource. -/
def isResource (r : Resolver) (id : String) : Bool :=
  r.symbols.resources.contains id

/-- Whether a dependency may point to an address. -/
def isTarget (r : Resolver) (id : String) : Bool :=
  r.isResource id || r.symbols.others.contains id

/-- The addresses of the resources of one type, in the order in which they were first seen. -/
def resourcesOfType (r : Resolver) (type : String) : List String :=
  (r.symbols.byType.find? type).getD []

/-- Records a reference from a block, if it counts. -/
def link (r : Resolver) (source : String) (m : DependencyMap) (ref : Reference) : DependencyMap :=
  if ref.target = source then m
  else if r.isTarget ref.target then m.record source ref.target ref.category
  else m

/-- The resources that a block with this text depends on implicitly. -/
def implicitTargets (r : Resolver) (source : String) (text : List Char) : List String :=
  implicitKeywords.flatMap fun (keyword, types) =>
    if occurs keyword.toList text then
      (types.flatMap r.resourcesOfType).filter fun target =>
        target ≠ source ∧ (!r.strict || occurs target.toList text)
    else []

/-- Records what the block of a resource depends on. -/
def addBlock (r : Resolver) (m : DependencyMap) (block : ResourceBlock) : DependencyMap :=
  if r.isResource block.id then
    let spelled := (Reference.findIn block.text).foldl (r.link block.id) (m.touch block.id)
    (r.implicitTargets block.id block.text).foldl
      (fun m target => m.record block.id target .implicit) spelled
  else m

/-- The dependencies of the resources in some files. -/
def resolve (r : Resolver) (files : List SourceFile) : DependencyMap :=
  (files.flatMap fun f => resourceBlocks f.chars).foldl r.addBlock .empty

/-- The segments of a path between its points. -/
def segments (path : String) : List String :=
  (split '.' path.toList).map String.ofList

/-- A segment up to its first index. -/
def dropIndex (segment : String) : String :=
  String.ofList (segment.toList.takeWhile (· ≠ '['))

/-- What the segments of a path point to, declared or not. -/
def readSegments? : List String → Option Reference
  | "data" :: type :: name :: _ => some ⟨"data." ++ type ++ "." ++ name, .resource⟩
  | "module" :: name :: _ => some ⟨"module." ++ name, .module⟩
  | "var" :: name :: _ => some ⟨"var." ++ name, .variable⟩
  | "local" :: name :: _ => some ⟨"local." ++ name, .variable⟩
  | "output" :: name :: _ => some ⟨"output." ++ name, .output⟩
  | type :: name :: _ => some ⟨type ++ "." ++ dropIndex name, .resource⟩
  | _ => none

/-- What a path refers to, if something is declared there. -/
def classify? (r : Resolver) (path : String) : Option Reference :=
  match readSegments? (segments path) with
  | some ref => if r.isTarget ref.target then some ref else none
  | none => none

/-- Records what a parsed block depends on. -/
def addParsed (r : Resolver) (m : DependencyMap) (block : ParsedBlock) : DependencyMap :=
  if block.kind = .resource ∧ r.isResource block.address then
    (block.references.filterMap r.classify?).foldl (r.link block.address) (m.touch block.address)
  else m

/-- Adds the dependencies of the parsed resources. -/
def resolveParsed (r : Resolver) (m : DependencyMap) (files : List ParsedFile) : DependencyMap :=
  (files.flatMap ParsedFile.blocks).foldl r.addParsed m

end Resolver

end ResourceGraph
