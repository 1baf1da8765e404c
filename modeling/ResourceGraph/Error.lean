/-!
What can go wrong, by cause, and the sentence that tells it.
-/

namespace ResourceGraph

/-- Why a file could not be read or written. -/
inductive FileFault where
  | missing
  | isFolder
  | notFolder
  | notText

/-- The sentence for a file fault. -/
def FileFault.message : FileFault → String
  | .missing => "No such file or directory (os error 2)"
  | .isFolder => "Is a directory (os error 21)"
  | .notFolder => "Not a directory (os error 20)"
  | .notText => "stream did not contain valid UTF-8"

/-- What went wrong. -/
inductive Error where
  /-- A file holds a NUL character. -/
  | binaryContent (file : String)
  /-- A parser gave up on a file. -/
  | unparsable (file reason : String)
  /-- A word that names no kind of declaration. -/
  | unknownKind (word : String)
  /-- A word that names no category of nodes. -/
  | unknownCategory (word : String)
  /-- A response without any JSON object. -/
  | noObject
  /-- A text that is no JSON, or a JSON value of another shape. -/
  | badJson
  /-- A confidence that is no number. -/
  | missingConfidence
  /-- A file that holds no graph. -/
  | notGraph
  /-- No file for a graph can be at a path. -/
  | noGraphFile (path : String)
  /-- The answer of an analyzer could not be read. -/
  | answerFault (fault : FileFault)
  /-- The graph could not be cleared, for this cause. -/
  | notCleared (cause : Error)
  /-- A command without any word. -/
  | emptyCommand
  /-- An analyzer failed, for the reason given. -/
  | analyzer (reason : String)
  /-- A path that is no folder. -/
  | notFolder (path : String)
  /-- A request that was refused, for the reason given. -/
  | config (reason : String)
  /-- Settings that would overwrite others. -/
  | settingsExist (path : String)
  /-- A text that is no TOML, or no settings. -/
  | badToml
  /-- A file that could not be read or written. -/
  | fileFault (fault : FileFault)
  /-- A folder without any file of the extensions looked for. -/
  | noSources (extensions : List String) (root : String)
  /-- No graph is stored at a path. -/
  | noGraph (path : String)
  /-- No node has an id. -/
  | noNode (id : String)

/-- The sentence for an error. -/
def Error.message : Error → String
  | .binaryContent file =>
    s!"Syntax error in {file}: file contains NUL bytes; not configuration text"
  | .unparsable file reason => s!"Syntax error in {file}: {reason}"
  | .unknownKind word => s!"Configuration error: Unknown declaration kind: {word}"
  | .unknownCategory word => s!"Malformed descriptor: Unknown node category: {word}"
  | .noObject => "Malformed descriptor: response contains no JSON object"
  | .badJson => "JSON error"
  | .missingConfidence =>
    "Storage error: NOT NULL constraint failed: graph_edges.confidence"
  | .notGraph => "Storage error: file is not a database"
  | .noGraphFile path => s!"Storage error: unable to open database file: {path}"
  | .answerFault fault => s!"IO error: {fault.message}"
  | .notCleared cause => s!"Import failed: could not clear existing graph: {cause.message}"
  | .emptyCommand => "Analyzer error: empty analyzer command"
  | .analyzer reason => s!"Analyzer error: {reason}"
  | .notFolder path => s!"Configuration error: {path} is not a directory"
  | .config reason => s!"Configuration error: {reason}"
  | .settingsExist path => s!"config already exists at {path} (use --force to overwrite)"
  | .badToml => "TOML parse error"
  | .fileFault fault => fault.message
  | .noSources extensions root =>
    "no files with extensions [" ++ ", ".intercalate extensions ++ "] under " ++ root
  | .noGraph path => s!"no graph database at {path} (run `infragraph import` first)"
  | .noNode id => s!"no node with id {id}"

/-- The sentences for what lies behind an error, the nearest cause first. -/
def Error.causes : Error → List String
  | .notGraph =>
    ["file is not a database", "Error code 26: File opened that is not a database file"]
  | .noGraphFile path =>
    [s!"unable to open database file: {path}", "Error code 14: Unable to open the database file"]
  | .answerFault fault => [fault.message]
  | _ => []

end ResourceGraph
