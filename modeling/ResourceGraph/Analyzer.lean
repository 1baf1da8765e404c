import ResourceGraph.Shell.Run
import ResourceGraph.Text.Blank

/-!
Analyzers: what a document is given to, and what answers. An answer is kept in a file, or a command
gives it, to which the document is the input.
-/

namespace ResourceGraph

open Text

/-- Where an answer comes from. -/
inductive Analyzer where
  | answerFile (path : String)
  /-- A line for the shell. -/
  | shell (line : String)
  /-- A program with its arguments. -/
  | program (name : String) (args : List String)

namespace Analyzer

/-- The analyzer that a command line stands for. -/
def ofCommandLine (line : String) : Except Error Analyzer :=
  let line := trim line
  if line.isEmpty then .error .emptyCommand else .ok (.shell line)

/-- The name of an analyzer. -/
def name : Analyzer → String
  | .answerFile _ => "json-file"
  | .shell line => line
  | .program name _ => name

/-- The answer that a run gives. It must succeed, and its output must be text. -/
def answerOf (name : String) (outcome : Shell.Outcome) : Except Error String :=
  if outcome.ending = .exited 0 then
    match decodeUtf8 outcome.output with
    | .ok text => .ok text
    | .error fault => .error (.analyzer s!"{name} produced non-UTF-8 output: {fault.message}")
  else .error (.analyzer s!"{name} exited with {outcome.ending.message}")

/-- The answer to a document, and the workspace behind that. -/
def answer (w : Workspace) (document : String) (a : Analyzer) : Except Error String × Workspace :=
  match a with
  | .answerFile path =>
    match w.readText path with
    | .ok text => (.ok text, w)
    | .error fault => (.error (.answerFault fault), w)
  | .shell line =>
    let outcome := Shell.run w line (encodeUtf8 document)
    (answerOf line outcome, outcome.workspace)
  | .program name args =>
    match Shell.runProgram w name args (encodeUtf8 document) with
    | some outcome => (answerOf name outcome, outcome.workspace)
    | none => (.error (.answerFault .missing), w)

end Analyzer

end ResourceGraph
