import ResourceGraph.Header
import ResourceGraph.Registry

/-!
Scanning configuration files for declarations. The headers of each kind are looked for on their
own; the keys of `locals` blocks are locals, and those of the first `required_providers` block of a
file are providers, as are the labels of `provider` blocks. A file that holds a NUL character is no
configuration and is left out.
-/

namespace ResourceGraph

open Text

/-- A configuration file. -/
structure SourceFile where
  name : String
  content : String
  deriving DecidableEq

/-- The numbers of declarations of each kind in a file. -/
structure FileSummary where
  file : String
  resources : Nat
  dataSources : Nat
  modules : Nat
  inputs : Nat
  locals : Nat
  outputs : Nat
  providers : Nat
  deriving DecidableEq

namespace SourceFile

/-- The characters of a file. -/
def chars (f : SourceFile) : List Char :=
  f.content.toList

/-- Whether a file is left out. -/
def isBinary (f : SourceFile) : Bool :=
  f.chars.contains (Char.ofNat 0)

/-- The declarations of a kind that is written with a type and a name. -/
def typedDeclarations (f : SourceFile) (kind : Kind) : List Declaration :=
  (findAll (Header.pattern kind.name 2) f.chars).filterMap fun m =>
    match m.value with
    | [type, name] => some (Declaration.make kind type name f.name)
    | _ => none

/-- The names that headers with one label give. -/
def namesOf (f : SourceFile) (keyword : String) : List String :=
  (findAll (Header.pattern keyword 1) f.chars).filterMap fun m => m.value.head?

/-- The declarations of a kind that is written with a name alone. -/
def namedDeclarations (f : SourceFile) (kind : Kind) : List Declaration :=
  (f.namesOf kind.name).map fun name => Declaration.make kind kind.name name f.name

/-- The names of the locals. -/
def localNames (f : SourceFile) : List String :=
  (findAll (Header.pattern "locals" 0) f.chars).flatMap fun m =>
    topLevelKeys (Header.block m).body

/-- The keys of the first block of required providers. -/
def requiredProviders (f : SourceFile) : List String :=
  match findAll (Header.loosePattern "required_providers") f.chars with
  | [] => []
  | m :: _ => topLevelKeys (Header.block m).body

/-- A name at the end of a list, unless the list holds it. -/
def appendNew (names : List String) (name : String) : List String :=
  if name ∈ names then names else names ++ [name]

/-- The names of the providers: first those of provider blocks, each as often as it is written. -/
def providerNames (f : SourceFile) : List String :=
  f.requiredProviders.foldl appendNew (f.namesOf Kind.provider.name)

/-- The declarations of a file: resources, data sources, modules, variables, outputs, locals and
providers, each in the order of the text. -/
def declarations (f : SourceFile) : List Declaration :=
  f.typedDeclarations .resource ++ f.typedDeclarations .data ++
    f.namedDeclarations .module ++ f.namedDeclarations .variable ++ f.namedDeclarations .output ++
    f.localNames.map (fun name => Declaration.make .local "local" name f.name) ++
    f.providerNames.map (fun name => Declaration.make .provider "provider" name f.name)

/-- The number of declarations of each kind. -/
def summary (f : SourceFile) : FileSummary where
  file := f.name
  resources := (f.typedDeclarations .resource).length
  dataSources := (f.typedDeclarations .data).length
  modules := (f.namedDeclarations .module).length
  inputs := (f.namedDeclarations .variable).length
  locals := f.localNames.length
  outputs := (f.namedDeclarations .output).length
  providers := f.providerNames.length

/-- The declarations of a file and their numbers. -/
def scan (f : SourceFile) : Except Error (List Declaration × FileSummary) :=
  if f.isBinary then .error (.binaryContent f.name) else .ok (f.declarations, f.summary)

end SourceFile

/-- A file that was left out, and why. -/
structure ScanFailure where
  file : String
  message : String
  deriving DecidableEq

/-- What scanning some files gives. -/
structure Scan where
  registry : Registry
  files : List FileSummary
  failures : List ScanFailure
  deriving DecidableEq

namespace Scan

/-- The scan of no files. -/
def empty : Scan :=
  ⟨.empty, [], []⟩

/-- The scan with one more file. -/
def add (s : Scan) (f : SourceFile) : Scan :=
  match f.scan with
  | .ok (ds, summary) =>
    { s with registry := s.registry.insertAll ds, files := s.files ++ [summary] }
  | .error e => { s with failures := s.failures ++ [⟨f.name, e.message⟩] }

/-- The scan of some files, in their order. -/
def ofFiles (files : List SourceFile) : Scan :=
  files.foldl add empty

end Scan

end ResourceGraph
