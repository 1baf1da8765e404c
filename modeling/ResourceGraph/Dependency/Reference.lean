import ResourceGraph.Dependency.Map
import ResourceGraph.Text.Find
import ResourceGraph.Text.Lines
import ResourceGraph.Text.Word

/-!
References in the text of a block. Each form is a word, a point and further segments; it starts
where a word starts, and its segments are as long as they can be.
-/

namespace ResourceGraph

open Text

/-- What a piece of text refers to: an address, and how the block depends on it. -/
structure Reference where
  target : String
  category : Category
  deriving DecidableEq

namespace Reference

/-- The characters of a segment. -/
def isSegmentChar (c : Char) : Bool :=
  c.isAlphanum || c = '_' || c = '-'

/-- The longest segment at the start of a text, which may not be empty. -/
def segment? (cs : List Char) : Option (List Char × List Char) :=
  match cs.takeWhile isSegmentChar with
  | [] => none
  | name => some (name, cs.dropWhile isSegmentChar)

/-- A segment behind a point. -/
def pointSegment? (cs : List Char) : Option (List Char × List Char) :=
  match cs with
  | '.' :: rest => segment? rest
  | _ => none

/-- A type of resources: a letter, then letters and digits up to an underscore, and at least one
more letter, digit or underscore. -/
def resourceType? (cs : List Char) : Option (List Char × List Char) :=
  match cs with
  | [] => none
  | c :: _ =>
    if c.isAlpha then
      let run := cs.takeWhile fun c => c.isAlphanum || c = '_'
      match run.dropWhile Char.isAlphanum with
      | '_' :: _ :: _ => some (run, cs.drop run.length)
      | _ => none
    else none

/-- A reference to a resource: its type, its name, and a point or a bracket. -/
def resourcePath? (cs : List Char) : Option (Reference × List Char) := do
  let (type, rest) ← resourceType? cs
  let (name, rest) ← pointSegment? rest
  let first ← name.head?
  if !(first.isAlpha || first = '_') then none
  match rest with
  | '.' :: rest | '[' :: rest =>
    some (⟨String.ofList type ++ "." ++ String.ofList name, .resource⟩, rest)
  | _ => none

/-- A reference to a data source: its type and its name. -/
def dataPath? (cs : List Char) : Option (Reference × List Char) := do
  let rest ← dropWord? cs "data".toList
  let (type, rest) ← pointSegment? rest
  let (name, rest) ← pointSegment? rest
  return (⟨"data." ++ String.ofList type ++ "." ++ String.ofList name, .resource⟩, rest)

/-- A reference to an output of a module: the name of the module, and that of the output. -/
def modulePath? (cs : List Char) : Option (Reference × List Char) := do
  let rest ← dropWord? cs "module".toList
  let (name, rest) ← pointSegment? rest
  let (_, rest) ← pointSegment? rest
  return (⟨"module." ++ String.ofList name, .module⟩, rest)

/-- A reference to something named behind one word. -/
def namedPath? (word : String) (category : Category) (cs : List Char) :
    Option (Reference × List Char) := do
  let rest ← dropWord? cs word.toList
  let (name, rest) ← pointSegment? rest
  return (⟨word ++ "." ++ String.ofList name, category⟩, rest)

/-- A reference to a variable or a local. -/
def variablePath? (cs : List Char) : Option (Reference × List Char) :=
  namedPath? "var" .variable cs <|> namedPath? "local" .variable cs

/-- A reference to an output. -/
def outputPath? (cs : List Char) : Option (Reference × List Char) :=
  namedPath? "output" .output cs

/-- The pattern of a form of references, which may only start where a word does. -/
def pattern (path? : List Char → Option (Reference × List Char)) : Pattern Reference :=
  fun before cs =>
    if startsWord before then (path? cs).map fun (r, rest) => (r, cs.length - rest.length)
    else none

/-- The forms of references, in the order in which they are looked for. -/
def forms : List (List Char → Option (Reference × List Char)) :=
  [resourcePath?, dataPath?, modulePath?, variablePath?, outputPath?]

/-- All references in a text, form by form. -/
def findIn (cs : List Char) : List Reference :=
  forms.flatMap fun path? => (findAll (pattern path?) cs).map (·.value)

end Reference

end ResourceGraph
