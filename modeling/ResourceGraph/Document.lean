import ResourceGraph.Notes
import ResourceGraph.Text.Blank
import ResourceGraph.Total

/-!
The document about a configuration. Its sections are the overview, the summaries, the files and
the instructions for the answer. If they do not fit the limit, only the longest run of leading
sections is kept that fits together with a notice about the cut.
-/

namespace ResourceGraph

open Text

namespace Document

/-- The number of bytes that a document may have unless another is asked for. -/
def defaultLimit : Nat := 100000

/-- The least limit; every notice fits it. -/
def leastLimit : Nat := 256

/-- The file that comes first unless another is asked for. -/
def defaultPrimary : String := "main.tf"

/-- The instructions for the answer. -/
def instructions : String :=
  "## Output Format\n\n" ++
  "Respond with a single JSON object and nothing else:\n\n" ++
  "```json\n" ++
  "\x7b\n" ++
  "  \"resources\": [\n" ++
  "    \x7b\"id\": \"aws_instance.web\", \"type\": \"aws_instance\", \"name\": \"web\", " ++
  "\"provider\": \"aws\", \"properties\": \x7b\x7d\x7d\n" ++
  "  ],\n" ++
  "  \"relationships\": [\n" ++
  "    \x7b\"source\": \"aws_instance.web\", \"target\": \"aws_security_group.web_sg\", " ++
  "\"type\": \"DEPENDS_ON\", \"description\": \"Instance uses the security group\", " ++
  "\"confidence\": 0.9\x7d\n" ++
  "  ]\n" ++
  "\x7d\n" ++
  "```\n\n" ++
  "- `id` should be the composite id `type.name`.\n" ++
  "- `source` and `target` must name resource ids from the `resources` list.\n" ++
  "- `confidence` is a number between 0 and 1.\n"

/-- A text with a line feed for each carriage return, and one for a return and a feed together. -/
def unifyReturns : List Char → List Char
  | [] => []
  | '\r' :: '\n' :: rest => '\n' :: unifyReturns rest
  | c :: rest => (if c = '\r' then '\n' else c) :: unifyReturns rest

/-- The number of blank lines that are kept of a run of them. -/
def keptBlanks (run : Nat) : Nat :=
  if 3 ≤ run then 1 else run

/-- Lines with their endings, with long runs of blank ones cut; `run` blank ones came before. -/
def collapseBlanks (run : Nat) : List (List Char) → List Char
  | [] => List.replicate (keptBlanks run) '\n'
  | [] :: rest => collapseBlanks (run + 1) rest
  | line :: rest => List.replicate (keptBlanks run) '\n' ++ line ++ '\n' :: collapseBlanks 0 rest

/-- A text with unified line endings, without blanks at the ends of lines, and without long runs of
blank lines. -/
def cleanChars (cs : List Char) : List Char :=
  collapseBlanks 0 ((lines (unifyReturns cs)).map trimEnd)

/-- A file as it stands in a document. -/
def clean (s : String) : String :=
  String.ofList (cleanChars s.toList)

/-- How a document is put together. -/
structure Format where
  /-- The greatest number of bytes. -/
  limit : Nat
  /-- The name of the file that comes first. -/
  primary : String

/-- A format; a limit below the least one is raised to it. -/
def Format.make (limit : Nat) (primary : String) : Format :=
  ⟨max limit leastLimit, primary⟩

/-- The primary file first, the others by name. -/
def Format.arrange (f : Format) (files : List AnnotatedFile) : List AnnotatedFile :=
  files.filter (·.name = f.primary) ++
    (files.filter (·.name ≠ f.primary)).mergeSort fun a b => decide (a.name ≤ b.name)

/-- The sections of a document. -/
def Format.sections (f : Format) (d : Draft) : List String :=
  [d.overview, d.groupSummary, d.dependencySummary] ++
    (f.arrange d.files).map (fun file => clean file.content) ++ [instructions]

/-- The sections with a line feed between them. -/
def join (sections : List String) : String :=
  "\n".intercalate sections

/-- The number of bytes of joined sections. -/
def joinedSize (sections : List String) : Nat :=
  total (sections.map String.utf8ByteSize) + (sections.length - 1)

/-- The notice about a cut from one number of bytes to another. -/
def notice (full kept : Nat) : String :=
  s!"\n\n[Document truncated: original length {full} bytes, truncated to {kept} bytes]\n"

/-- Whether some sections fit a limit together with the notice about the cut. -/
def fits (limit full : Nat) (sections : List String) : Bool :=
  joinedSize sections + (notice full (joinedSize sections)).utf8ByteSize ≤ limit

/-- The sections that are kept: one after another is added as long as they fit. -/
def keep (limit full : Nat) (kept : List String) : List String → List String
  | [] => kept
  | next :: rest =>
    if fits limit full (kept ++ [next]) then keep limit full (kept ++ [next]) rest else kept

/-- How much of a document was cut. -/
structure Cut where
  full : Nat
  kept : Nat
  deriving DecidableEq

end Document

open Document in
/-- A document, and how much of it was cut. -/
structure Document where
  text : String
  cut : Option Cut
  deriving DecidableEq

namespace Document

/-- The number of bytes of a document. -/
def size (d : Document) : Nat :=
  d.text.utf8ByteSize

/-- The document that a format makes of some parts. -/
def Format.write (f : Format) (d : Draft) : Document :=
  let sections := f.sections d
  let full := joinedSize sections
  if full ≤ f.limit then ⟨join sections, none⟩
  else
    let kept := join (keep f.limit full [] sections)
    ⟨kept ++ notice full kept.utf8ByteSize, some ⟨full, kept.utf8ByteSize⟩⟩

end Document

end ResourceGraph
