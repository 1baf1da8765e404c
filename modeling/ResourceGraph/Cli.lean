import ResourceGraph.Analyzer
import ResourceGraph.CommandLine
import ResourceGraph.Graph.File
import ResourceGraph.Sources
import ResourceGraph.TextTable

/-!
The commands of the program, over a workspace. They print for people, or one JSON value, or nothing;
what goes wrong is told on the second output.
-/

namespace ResourceGraph.Cli

/-- The name and the version of the program. -/
def versionLine : String := "infragraph 0.0.1"

/-- How a command talks. -/
structure Manner where
  json : Bool
  quiet : Bool

/-- Whether a command prints for people. -/
def Manner.isHuman (m : Manner) : Bool :=
  !m.json && !m.quiet

/-- Whether a setting of the surroundings asks for quiet. -/
def asksForQuiet (value : Option String) : Bool :=
  match value with
  | some v => v = "1" || v.map Char.toLower = "true"
  | none => false

/-- A command while it runs. -/
structure Desk where
  workspace : Workspace
  output : String
  complaints : String

/-- The work of a command, which may fail but keeps what it did before. -/
abbrev Work (α : Type) := ExceptT Error (StateM Desk) α

/-- Prints a text. -/
def print (text : String) : Work Unit :=
  modify fun d => { d with output := d.output ++ text }

/-- Prints a line. -/
def say (line : String) : Work Unit :=
  print (line ++ "\n")

/-- Warns about something. -/
def warn (text : String) : Work Unit :=
  modify fun d => { d with complaints := d.complaints ++ "⚠️ " ++ text ++ "\n" }

/-- Prints a line with a value. -/
def status (icon label value : String) : Work Unit :=
  say s!"{icon} {label}: {value}"

/-- Prints a heading. -/
def header (text : String) : Work Unit :=
  say s!"🚀 {text}"

/-- Prints the title of a part. -/
def part (title : String) : Work Unit :=
  say s!"\n━{title}━"

/-- Prints that something is done. -/
def success (text : String) : Work Unit :=
  say s!"✅ {text}"

/-- Prints a value below a heading. -/
def row (label value : String) : Work Unit :=
  say s!"  {label} {value}"

/-- Prints an answer as JSON. -/
def answer (command : String) (data : Json) : Work Unit :=
  say (Json.pretty (.ofFields
    [("ok", .bool true), ("command", .text command), ("data", data)]))

/-- Does something to the workspace. -/
def onWorkspace (act : Workspace → Except FileFault Workspace) : Work Unit := do
  match act (← get).workspace with
  | .ok workspace => modify fun d => { d with workspace }
  | .error fault => throw (.fileFault fault)

/-! ### Commands -/

/-- The settings in a file; none if it is missing. -/
def loadSettings (w : Workspace) (config : Option String) : Except Error (Option Settings) :=
  let path := config.getD Settings.defaultFile
  if !w.has path then .ok none
  else
    match w.readText path with
    | .ok text => (Settings.read text).map some
    | .error fault => .error (.fileFault fault)

/-- The workspace with settings in a file. Others are replaced only by force. -/
def writeSettings (w : Workspace) (path : String) (settings : Settings) (force : Bool) :
    Except Error Workspace := do
  if w.has path && !force then throw (.settingsExist path)
  let text ← settings.write
  match w.write path (Text.encodeUtf8 text) with
  | .ok next => return next
  | .error fault => throw (.fileFault fault)

/-- The workspace in which version control ignores the folder of the graph. -/
def keepIgnored (w : Workspace) : Except FileFault Workspace := do
  let path := ".gitignore"
  let text ← if w.has path then w.readText path else pure ""
  let next := Settings.withIgnoreLine text
  if next = text then return w
  w.write path (Text.encodeUtf8 next)

/-- Writes settings and prepares the folder of the graph. -/
def runInit (m : Manner) (line : CommandLine) : Work Unit := do
  let config := line.config.getD Settings.defaultFile
  let settings : Settings :=
    { Settings.empty with
      database := some Settings.defaultDatabase, path := some ((line.value? "path").getD ".") }
  match writeSettings (← get).workspace config settings (line.has "force") with
  | .ok workspace => modify fun d => { d with workspace }
  | .error e => throw e
  onWorkspace fun w => w.makeParent Settings.defaultDatabase
  onWorkspace keepIgnored
  if m.isHuman then
    success s!"Wrote {config}"
    status "🗄️" "Database" Settings.defaultDatabase
  else if m.json then
    answer "init" (.ofFields
      [("config", .text config), ("database", .text Settings.defaultDatabase)])

/-- The folder with configuration files. -/
def rootPath (settings : Settings) (line : CommandLine) : String :=
  ((line.value? "path").or settings.path).getD "."

/-- The file with the graph. -/
def databasePath (settings : Settings) (line : CommandLine) : String :=
  ((line.value? "database").or settings.database).getD Settings.defaultDatabase

/-- The configuration files below a folder, of which there must be some. -/
def loadSources (announce : Bool) (settings : Settings) (root : String) :
    Work (List SourceFile) := do
  match Sources.collect (← get).workspace settings root with
  | .error e => throw e
  | .ok files =>
    if files.isEmpty then throw (.noSources settings.wantedExtensions root)
    if announce then status "📄" "Files" (toString files.length)
    return files

/-- Writes the document about the configuration files. -/
def runContext (m : Manner) (settings : Settings) (line : CommandLine) : Work Unit := do
  let root := rootPath settings line
  let asked := settings.contextOptions
  let options :=
    { asked with limit := ((line.value? "max-chars").bind CommandLine.number?).getD asked.limit }
  let out := line.value? "output"
  let chatty := m.isHuman && out.isSome
  if chatty then header s!"Building context for {root}"
  let files ← loadSources chatty settings root
  let context := Context.build options [] files
  match out with
  | some path => onWorkspace fun w => w.write path (Text.encodeUtf8 context.document.text)
  | none => if !m.json then print context.document.text
  let s := context.summary
  if chatty then
    row "Resources" (toString s.resources)
    row "Dependencies" (toString s.dependencies)
    row "Groups" (toString s.groups)
    row "Syntax errors" (toString s.failed)
    row "Document" s!"{s.size} chars"
    if s.truncated then
      warn "Document was truncated; raise max_document_chars to keep every file"
    success ("Wrote " ++ out.getD "")
  else if m.json then
    answer "context" (.ofFields ([("summary", s.toJson)] ++
      (if out.isSome then [] else [("document", .text context.document.text)])))

/-- The graph in a file, which is made if it is missing. -/
def loadGraph (path : String) : Work Store := do
  match GraphFile.load (← get).workspace path with
  | .error e => throw e
  | .ok (store, workspace) =>
    modify fun d => { d with workspace }
    return store

/-- Keeps a graph in a file. -/
def saveGraph (path : String) (store : Store) : Work Unit := do
  match GraphFile.save (← get).workspace path store with
  | .error e => throw e
  | .ok workspace => modify fun d => { d with workspace }

/-- The analyzer that the options name. -/
def chosenAnalyzer (line : CommandLine) : Except Error Analyzer :=
  match line.value? "analysis" with
  | some path => .ok (.answerFile path)
  | none => Analyzer.ofCommandLine ((line.value? "command").getD "")

/-- Has the document analyzed, and keeps what the analyzer found. -/
def importAnswer (path : String) (mode : Mode) (store : Store) (options : ContextOptions)
    (files : List SourceFile) (analyzer : Analyzer) : Work ImportReport := do
  let context := Context.build options [] files
  let (given, workspace) := analyzer.answer (← get).workspace context.document.text
  modify fun d => { d with workspace }
  match Import.ofAnswer noFaults mode (.start store) context given with
  | (.error e, _) => throw e
  | (.ok report, session) =>
    saveGraph path session.store
    return report

/-- Analyzes the configuration files and stores the graph. -/
def runImport (m : Manner) (settings : Settings) (line : CommandLine) : Work Unit := do
  let root := rootPath settings line
  let path := databasePath settings line
  let mode : Mode := if line.has "merge" then .merge else .replace
  if m.isHuman then
    header s!"Importing {root} ({mode.name})"
    status "🗄️" "Database" path
  let files ← loadSources m.isHuman settings root
  onWorkspace fun w => w.makeParent path
  let store ← loadGraph path
  let analyzer ← match chosenAnalyzer line with
    | .ok a => pure a
    | .error e => throw e
  if m.isHuman then say "\n⚙️ Analyze"
  let report ← importAnswer path mode store settings.contextOptions files analyzer
  if m.isHuman then
    part "Import"
    say report.text
    if 0 < report.skipped + report.failed then
      warn (s!"{report.skipped} entries skipped, {report.failed} writes failed " ++
        "(run with --verbose for details)")
    success "Import complete"
  else if m.json then answer "import" report.toJson

/-- Prints an edge. -/
def showEdge (e : Edge) : Work Unit :=
  let confidence := ((Decimal.Binary.ofFloat? e.confidence).map Decimal.twoPlaces).getD ""
  say s!"  {e.source} ─{e.type}→ {e.target} ({confidence})"

/-- Prints a node and its edges. -/
def showNode (node : Node) (outgoing incoming : List Edge) : Work Unit := do
  part s!"{node.id} ({node.type})"
  row "Provider" node.provider
  row "Category" node.category.name
  (outgoing ++ incoming).forM showEdge
  if outgoing.isEmpty && incoming.isEmpty then status "🔗" "Edges" "none"

/-- Shows the numbers of the graph, and one of its nodes. -/
def runStats (m : Manner) (settings : Settings) (line : CommandLine) : Work Unit := do
  let path := databasePath settings line
  if !(← get).workspace.has path then throw (.noGraph path)
  let store ← loadGraph path
  let statistics := Statistics.ofStore store
  let view ← match line.value? "node" with
    | none => pure none
    | some id =>
      match store.findById? id with
      | none => throw (.noNode id)
      | some node => pure (some (node, store.edgesFrom id, store.edgesTo id))
  if m.isHuman then
    header s!"📊 Graph statistics ({path})"
    say (TextTable.draw statistics.rows)
    match view with
    | some (node, outgoing, incoming) => showNode node outgoing incoming
    | none => pure ()
  else if m.json then
    answer "stats" (.ofFields ([("stats", statistics.toJson)] ++
      match view with
      | none => []
      | some (node, outgoing, incoming) =>
        [("node", .ofFields
          [("node", node.toJson), ("outgoing", .list (outgoing.map Edge.toJson)),
           ("incoming", .list (incoming.map Edge.toJson))])]))

/-- Runs the command that the arguments ask for. -/
def runCommand (m : Manner) (settings : Settings) (line : CommandLine) : Work Unit :=
  match line.name with
  | .init => runInit m line
  | .context => runContext m settings line
  | .load => runImport m settings line
  | .stats => runStats m settings line

/-! ### The program -/

/-- What a run of the program leaves behind. -/
structure Outcome where
  code : Nat
  output : String
  complaints : String
  workspace : Workspace

/-- An error for people: what happened, and all that lies behind it. -/
def humanError (e : Error) : String :=
  "❌ " ++ ": ".intercalate (e.message :: e.causes) ++ "\n"

/-- An error for other programs, with its causes on lines of their own. -/
def plainError (e : Error) : String :=
  let causes := match e.causes with
    | [] => ""
    | [cause] => s!"\n\nCaused by:\n    {cause}"
    | causes =>
      "\n\nCaused by:" ++
        String.join (causes.zipIdx.map fun (cause, n) => s!"\n    {n}: {cause}")
  "Error: " ++ e.message ++ causes ++ "\n"

/-- Runs the program with some arguments. -/
def run (quiet : Option String) (w : Workspace) (args : List String) : Outcome :=
  match CommandLine.read args with
  | .error .usage => ⟨2, "", "", w⟩
  | .error .help => ⟨0, "", "", w⟩
  | .error .version => ⟨0, versionLine ++ "\n", "", w⟩
  | .ok line =>
    let manner : Manner := ⟨line.json, asksForQuiet quiet⟩
    match loadSettings w line.config with
    | .error e => ⟨1, "", plainError e, w⟩
    | .ok settings =>
      match (runCommand manner (settings.getD .empty) line).run ⟨w, "", ""⟩ with
      | (.ok (), d) => ⟨0, d.output, d.complaints, d.workspace⟩
      | (.error e, d) =>
        let message := if manner.isHuman then humanError e else plainError e
        ⟨1, d.output, d.complaints ++ message, d.workspace⟩

end ResourceGraph.Cli
