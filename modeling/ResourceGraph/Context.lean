import ResourceGraph.Dependency.Resolve
import ResourceGraph.Document
import ResourceGraph.Grouping
import ResourceGraph.Parsed
import ResourceGraph.Scan

/-!
From configuration files to the document about them: scanning, parsing, resolving, grouping,
annotating and formatting.
-/

namespace ResourceGraph

/-- What is asked of a document. -/
structure ContextOptions where
  limit : Nat
  primary : String
  /-- The number of dependencies that the overview lists. -/
  dependencyLimit : Nat
  strict : Bool
  deriving DecidableEq

/-- The options that hold unless others are asked for. -/
def ContextOptions.standard : ContextOptions :=
  ⟨Document.defaultLimit, Document.defaultPrimary, Notes.defaultLimit, false⟩

/-- The numbers about a document. -/
structure ContextSummary where
  files : Nat
  resources : Nat
  dependencies : Nat
  groups : Nat
  /-- The number of files that could not be scanned or parsed. -/
  failed : Nat
  size : Nat
  truncated : Bool
  deriving DecidableEq

/-- All that is known about some files before they are analyzed. -/
structure Context where
  registry : Registry
  dependencies : DependencyMap
  groups : List Group
  document : Document
  summary : ContextSummary

namespace Context

/-- Whether a parsed block of a kind also counts as a declaration. -/
def declares : Kind → Bool
  | .resource | .data | .module => true
  | _ => false

/-- The files that parsers read, and the names of those that they refuse. -/
def parseFiles (parsers : List BlockParser) (files : List SourceFile) :
    List ParsedFile × List String :=
  let outcomes := files.map fun f => (f, BlockParser.parseFile parsers f.name f.content)
  (outcomes.filterMap fun (_, outcome) => match outcome with
      | .ok (some parsed) => some parsed
      | _ => none,
   outcomes.filterMap fun (f, outcome) => match outcome with
      | .error _ => some f.name
      | _ => none)

/-- The declarations of parsed blocks. -/
def parsedDeclarations (parsed : List ParsedFile) : List Declaration :=
  parsed.flatMap fun file =>
    (file.blocks.filter fun b => declares b.kind).map fun b => b.declaration file.path

/-- All that is known about some files. -/
def build (options : ContextOptions) (parsers : List BlockParser) (files : List SourceFile) :
    Context :=
  let scan := Scan.ofFiles files
  let (parsed, refused) := parseFiles parsers files
  let failed := Sorted.Names.ofList (scan.failures.map (·.file) ++ refused)
  let registry := scan.registry.insertAll (parsedDeclarations parsed)
  let resolver : Resolver := ⟨registry, options.strict⟩
  let dependencies := resolver.resolveParsed (resolver.resolve files) parsed
  let groups := Group.ofRegistry registry
  let draft := Draft.make options.dependencyLimit files registry dependencies groups
  let document := (Document.Format.make options.limit options.primary).write draft
  { registry, dependencies, groups, document
    summary :=
      { files := files.length
        resources := registry.resourceIds.length
        dependencies := dependencies.totalCount
        groups := groups.length
        failed := failed.length
        size := document.size
        truncated := document.cut.isSome } }

end Context

end ResourceGraph
