import ResourceGraph.Argument
import ResourceGraph.Declaration
import ResourceGraph.Path

/-!
Blocks as full parsers give them. A parser is chosen by the extension of a file; a file that no
parser takes has no blocks, and a file that its parser refuses fails alone.
-/

namespace ResourceGraph

open Sorted

/-- A block with its arguments. -/
structure ParsedBlock where
  kind : Kind
  /-- The type of a resource or data source. -/
  type : String
  name : String
  /-- The arguments in the order of their keys. -/
  arguments : Table Argument

namespace ParsedBlock

/-- The address of a block of a resource. -/
def address (b : ParsedBlock) : String :=
  b.type ++ "." ++ b.name

/-- What a block declares in a file. -/
def declaration (b : ParsedBlock) (file : String) : Declaration :=
  .make b.kind b.type b.name file

/-- The references in the arguments of a block. -/
def references (b : ParsedBlock) : List String :=
  b.arguments.flatMap fun entry => entry.2.references

end ParsedBlock

/-- The blocks of one file. -/
structure ParsedFile where
  path : String
  blocks : List ParsedBlock

/-- Whether the extension of a file is one of some. -/
def hasExtension (extensions : List String) (path : String) : Bool :=
  match Path.extension? path with
  | some ext => extensions.contains ext
  | none => false

/-- A parser of files with some extensions. -/
structure BlockParser where
  name : String
  extensions : List String
  /-- The blocks of a file, by its path and its content, or the reason why there are none. -/
  parse : String → String → Except String (List ParsedBlock)
  /-- Whether the parser takes a file. Unless a parser decides that itself, it takes the files with
  its extensions. -/
  canHandle : String → Bool := hasExtension extensions

namespace BlockParser

/-- The first parser that takes a file. -/
def find? (parsers : List BlockParser) (path : String) : Option BlockParser :=
  parsers.find? fun p => p.canHandle path

/-- The blocks of a file; nothing if no parser takes it. -/
def parseFile (parsers : List BlockParser) (path content : String) :
    Except Error (Option ParsedFile) :=
  match find? parsers path with
  | none => .ok none
  | some p =>
    match p.parse path content with
    | .ok blocks => .ok (some ⟨path, blocks⟩)
    | .error reason => .error (.unparsable path reason)

end BlockParser

end ResourceGraph
