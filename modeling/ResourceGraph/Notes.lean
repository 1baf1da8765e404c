import ResourceGraph.Dependency.Map
import ResourceGraph.Grouping
import ResourceGraph.Path
import ResourceGraph.Scan

/-!
Annotations: an overview of the configuration, and beside each file the dependencies of the
resources whose names suggest that they belong to it.
-/

namespace ResourceGraph

open Text

namespace Notes

/-- The number of dependencies that an overview lists unless another is asked for. -/
def defaultLimit : Nat := 50

/-- The line above and below a file. -/
def rule : String :=
  "# ============================================================"

/-- The advice that closes an overview. -/
def guidelines : String :=
  "## Analysis Guidelines\n\n" ++
  "1. Identify every resource, module and data source and its provider.\n" ++
  "2. Use the dependency summary as ground truth for explicit references.\n" ++
  "3. Treat relationship hints as suggestions; confirm them against the file content.\n" ++
  "4. Infer network placement, security boundaries, data flows and IAM relationships.\n" ++
  "5. Prefer composite ids (`type.name`) when naming relationship endpoints.\n"

/-- Some lines, each with its ending. -/
def linesOf (lines : List String) : String :=
  String.join (lines.map (· ++ "\n"))

/-- Some lines, or another text if there are none. -/
def linesOr (fallback : String) (lines : List String) : String :=
  if lines.isEmpty then fallback else linesOf lines

/-- The line for a dependency. -/
def dependencyLine (d : Dependency) : String :=
  s!"- {d.source} -> {d.target} ({d.category.name})"

/-- The lines for the first `limit` dependencies, and one for the number of the others. -/
def dependencyLines (limit : Nat) (edges : List Dependency) : List String :=
  (edges.take limit).map dependencyLine ++
    (if limit < edges.length then [s!"- ... and {edges.length - limit} more"] else [])

/-- The line for the providers. -/
def providerLine (providers : List String) : String :=
  "- Providers: " ++ (if providers.isEmpty then "none declared" else ", ".intercalate providers)

/-- The text for a configuration without resources. -/
def noResources : String := "_No resources declared._\n"

/-- The text for a configuration without dependencies. -/
def noDependencies : String := "_No dependencies detected._\n"

/-- The overview of a configuration. -/
def overview (limit fileCount : Nat) (r : Registry) (m : DependencyMap) (groups : List Group) :
    String :=
  "# Infrastructure Overview\n\n" ++
  linesOf
    [s!"- Files: {fileCount}",
     s!"- Resources: {r.resourceIds.length}",
     s!"- Data sources: {r.count .data}",
     s!"- Modules: {r.count .module}",
     s!"- Variables: {r.count .variable}",
     s!"- Outputs: {r.count .output}",
     providerLine r.providers,
     s!"- Dependencies: {m.totalCount}"] ++
  "\n## Logical Groups\n\n" ++
  linesOr noResources (groups.map fun g => s!"- {g.name}: {g.description}") ++
  "\n## Key Dependencies\n\n" ++
  (if m.edges.isEmpty then noDependencies else "") ++ linesOf (dependencyLines limit m.edges) ++
  "\n" ++ guidelines

/-- The summary of the groups. -/
def groupSummary (groups : List Group) : String :=
  "## Resource Groups\n\n" ++
  (if groups.isEmpty then noResources else "") ++
  String.join (groups.map fun g =>
    s!"### {g.name}\n{g.description}\n" ++ linesOf (g.resources.map ("- " ++ ·)) ++ "\n")

/-- The line for what one resource depends on; none if it depends on nothing. -/
def summaryLine? (entry : String × Targets) : Option String :=
  let all := entry.2.combined
  if all.isEmpty then none else some ("- " ++ entry.1 ++ " depends on: " ++ ", ".intercalate all)

/-- The summary of the dependencies. -/
def dependencySummary (m : DependencyMap) : String :=
  "## Dependency Summary\n\n" ++ linesOr noDependencies (m.entries.filterMap summaryLine?)

/-- The line for the targets of one category; none if there are none. -/
def targetLine? (id : String) (t : Targets) (category : Category) : Option String :=
  let targets := t.get category
  if targets.isEmpty then none
  else
    let list := ", ".intercalate targets
    some (match category with
      | .implicit => s!"# Relationship hint: {id} may relate to {list}"
      | _ => s!"# Cross-reference: {id} uses {category.name} {list}")

/-- The lines for the dependencies that a resource spells out. -/
def crossReferences (entry : String × Targets) : List String :=
  (Category.all.filter (· ≠ .implicit)).filterMap (targetLine? entry.1 entry.2)

/-- The lines for the implicit dependencies of a resource. -/
def hints (entry : String × Targets) : List String :=
  (targetLine? entry.1 entry.2 .implicit).toList

/-- The name of a resource without its type, in lower case. -/
def localName (id : String) : List Char :=
  let back := id.toList.reverse.takeWhile (· ≠ '.')
  lowerChars back.reverse

/-- Whether the name of a resource and that of a file suggest each other: one holds the other,
whatever the case of the letters. -/
def namesAgree (id file : String) : Bool :=
  let name := localName id
  let stem := match Path.stem? file with
    | some s => lowerChars s.toList
    | none => []
  !name.isEmpty && !stem.isEmpty && (occurs name stem || occurs stem name)

/-- The lines that concern a file, by resource in the order of the addresses. -/
def linesFor (file : String) (m : DependencyMap) (lines : String × Targets → List String) :
    List String :=
  let entries := Sorted.Table.ofList m.entries
  (entries.filter fun entry => namesAgree entry.1 file).flatMap lines

end Notes

/-- A file with what was noted about it. -/
structure AnnotatedFile where
  name : String
  crossReferences : List String
  hints : List String
  /-- The text of the file between banners, below the notes. -/
  content : String
  deriving DecidableEq

namespace AnnotatedFile

open Notes

/-- A text that ends with a line feed. -/
def endLine (s : String) : String :=
  if s.toList.getLast? = some '\n' then s else s ++ "\n"

/-- A file between banners. -/
def wrap (name : String) (notes : List String) (content : String) : String :=
  rule ++ "\n# File: " ++ name ++ "\n" ++ rule ++ "\n" ++
  linesOf notes ++ (if notes.isEmpty then "" else "\n") ++
  endLine content ++
  rule ++ "\n# End of file: " ++ name ++ "\n" ++ rule ++ "\n"

/-- A file with the notes from a map of dependencies. -/
def make (m : DependencyMap) (f : SourceFile) : AnnotatedFile :=
  let references := linesFor f.name m Notes.crossReferences
  let hints := linesFor f.name m Notes.hints
  ⟨f.name, references, hints, wrap f.name (references ++ hints) f.content⟩

end AnnotatedFile

/-- The parts of a document about a configuration. -/
structure Draft where
  overview : String
  groupSummary : String
  dependencySummary : String
  files : List AnnotatedFile
  deriving DecidableEq

/-- The parts of the document about some files. -/
def Draft.make (limit : Nat) (files : List SourceFile) (r : Registry) (m : DependencyMap)
    (groups : List Group) : Draft where
  overview := Notes.overview limit files.length r m groups
  groupSummary := Notes.groupSummary groups
  dependencySummary := Notes.dependencySummary m
  files := files.map (AnnotatedFile.make m)

end ResourceGraph
