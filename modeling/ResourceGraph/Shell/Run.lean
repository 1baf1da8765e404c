import ResourceGraph.Shell.Script
import ResourceGraph.Shell.Tool

/-!
Running scripts over a workspace. A script reads an input and writes an output; it ends with a
status, or by a signal that it sends to itself.
-/

namespace ResourceGraph.Shell

open Text

/-- How a script ends. -/
inductive Ending where
  | exited (status : Nat)
  | killed (signal : Nat)
  deriving DecidableEq

/-- The signals by number, and their names. -/
def signals : List (Nat × String) :=
  [(1, "HUP"), (2, "INT"), (3, "QUIT"), (4, "ILL"), (5, "TRAP"), (6, "ABRT"), (7, "BUS"), (8, "FPE"),
   (9, "KILL"), (10, "USR1"), (11, "SEGV"), (12, "USR2"), (13, "PIPE"), (14, "ALRM"), (15, "TERM"),
   (16, "STKFLT"), (24, "XCPU"), (25, "XFSZ"), (26, "VTALRM"), (27, "PROF"), (29, "IO"),
   (30, "PWR"), (31, "SYS")]

/-- The sentence for an ending. -/
def Ending.message : Ending → String
  | .exited status => s!"exit status: {status}"
  | .killed signal =>
    match signals.find? fun entry => entry.1 = signal with
    | some (_, name) => s!"signal: {signal} (SIG{name})"
    | none => s!"signal: {signal}"

/-- The text that stands for the number of the running shell. -/
def shellId : String := "1000"

/-- The text of a part of a word. -/
def Part.expand (status : Nat) : Part → String
  | .char c => String.singleton c
  | .processId => shellId
  | .lastStatus => toString status

/-- The text of a word; a word that nothing is left of does not count. -/
def Word.text? (status : Nat) (w : Word) : Option String :=
  let text := String.join (w.parts.map (Part.expand status))
  if text.isEmpty && !w.quoted then none else some text

/-- Where an output goes. -/
inductive Output where
  | onward
  | complaints
  | nowhere
  | file (path : String)

/-- What a command is connected to. -/
structure Wiring where
  workspace : Workspace
  input : List UInt8
  output : Output
  complaints : Output

/-- The wiring behind a redirection; nothing if its file cannot be opened. -/
def Wiring.redirect (status : Nat) (wiring : Wiring) (r : Redirect) : Option Wiring :=
  let path := (r.path.text? status).getD ""
  let connect (output : Output) (w : Workspace) : Wiring :=
    if r.output = 2 then { wiring with workspace := w, complaints := output }
    else { wiring with workspace := w, output }
  match r.flow with
  | .source =>
    if path = "/dev/null" then some { wiring with input := [] }
    else match wiring.workspace.read path with
      | .ok bytes => some { wiring with input := bytes }
      | .error _ => none
  | .copy =>
    if path = "1" then some (connect wiring.output wiring.workspace)
    else if path = "2" then some (connect wiring.complaints wiring.workspace)
    else none
  | .target append =>
    if path = "/dev/null" then some (connect .nowhere wiring.workspace)
    else
      let kept := match append, wiring.workspace.read path with
        | true, .ok bytes => bytes
        | _, _ => []
      match wiring.workspace.write path kept with
      | .ok w => some (connect (.file path) w)
      | .error _ => none

/-- A script while it runs. -/
structure Progress where
  workspace : Workspace
  /-- What is left of the input. -/
  input : List UInt8
  output : List UInt8
  status : Nat
  ending : Option Ending

/-- The progress with some bytes sent to an output. -/
def Progress.send (p : Progress) (output : Output) (bytes : List UInt8) : Progress :=
  match output with
  | .onward => { p with output := p.output ++ bytes }
  | .complaints | .nowhere => p
  | .file path =>
    let there := match p.workspace.read path with
      | .ok bytes => bytes
      | .error _ => []
    match p.workspace.write path (there ++ bytes) with
    | .ok workspace => { p with workspace }
    | .error _ => p

/-- The signal that a word names, by number or name. -/
def signal? (word : String) : Option Nat :=
  match word.toNat? with
  | some n => some n
  | none =>
    let cs := word.toList
    let name := String.ofList ((dropWord? cs "SIG".toList).getD cs)
    (signals.find? fun entry => entry.2 = name).map (·.1)

/-- The signal and the target of a call to send one. -/
def killed? : List String → Option (Nat × String)
  | ["-s", name, target] => (signal? name).map fun n => (n, target)
  | [option, target] =>
    match option.toList with
    | '-' :: name => (signal? (String.ofList name)).map fun n => (n, target)
    | _ => none
  | [target] => some (15, target)
  | _ => none

/-- The progress behind a command of the shell itself, if the name is one. -/
def builtin? (p : Progress) (name : String) (args : List String) : Option Progress :=
  match name with
  | ":" => some { p with status := 0 }
  | "exit" =>
    let status := match args with
      | [] => p.status
      | word :: _ => (word.toNat?.map (· % 256)).getD 2
    some { p with status, ending := some (.exited status) }
  | "kill" =>
    match killed? args with
    | some (n, target) =>
      if target = shellId then
        if n = 0 ∨ (signals.find? fun entry => entry.1 = n).isNone then some { p with status := 0 }
        else some { p with ending := some (.killed n) }
      else some { p with status := 1 }
    | none => some { p with status := 2 }
  | _ => none

/-- The progress behind a command. -/
def runCommand (p : Progress) (c : Command) : Progress :=
  let words := c.words.filterMap (Word.text? p.status)
  match c.redirects.foldlM (Wiring.redirect p.status) ⟨p.workspace, p.input, .onward, .complaints⟩ with
  | none => { p with status := 2 }
  | some wiring =>
    let p := { p with workspace := wiring.workspace }
    match words with
    | [] => { p with status := 0 }
    | name :: args =>
      match builtin? p name args with
      | some p => p
      | none =>
        let result :=
          match tool? true p.workspace (bareName name) args wiring.input with
          | some result => result
          | none => .failed 127 s!"sh: 1: {name}: not found"
        let redirected := c.redirects.any fun r => match r.flow with
          | .source => true
          | _ => false
        let left := if consumes (bareName name) args && !redirected then [] else p.input
        let sent := (p.send wiring.output result.output).send wiring.complaints result.complaint
        { sent with input := left, status := result.status }

/-- The progress behind commands of which each reads what the one before writes. -/
def runCommands (p : Progress) : List Command → Progress
  | [] => p
  | [c] => runCommand p c
  | c :: rest =>
    let first := runCommand { p with output := [] } c
    match first.ending with
    | some (.killed n) => { first with output := p.output, ending := some (.killed n) }
    | _ =>
      let later := runCommands { first with input := first.output, output := p.output, ending := none }
        rest
      { later with input := first.input }

/-- The progress behind a pipeline. An exit within one of several commands ends that command alone. -/
def runPipeline (p : Progress) (line : Pipeline) : Progress :=
  let after := runCommands p line.commands
  let ending := match after.ending with
    | some (.exited n) => if line.commands.length ≤ 1 then some (.exited n) else none
    | other => other
  let status := if line.negated then (if after.status = 0 then 1 else 0) else after.status
  { after with ending, status }

/-- Whether a pipeline runs after a status. -/
def Condition.holds (status : Nat) : Condition → Bool
  | .always => true
  | .afterSuccess => status = 0
  | .afterFailure => status ≠ 0

/-- The progress behind a script, up to where it ends. -/
def runScript (p : Progress) : Script → Progress
  | [] => p
  | (condition, line) :: rest =>
    let after := if condition.holds p.status then runPipeline p line else p
    if after.ending.isSome then after else runScript after rest

/-- What is left behind by a run. -/
structure Outcome where
  workspace : Workspace
  output : List UInt8
  ending : Ending

/-- Runs a script. One that cannot be read fails. -/
def run (w : Workspace) (text : String) (input : List UInt8) : Outcome :=
  match Script.read? text with
  | none => ⟨w, [], .exited 2⟩
  | some script =>
    let p := runScript ⟨w, input, [], 0, none⟩ script
    ⟨p.workspace, p.output, p.ending.getD (.exited p.status)⟩

/-- Runs a program with arguments; nothing if there is none of its name. -/
def runProgram (w : Workspace) (name : String) (args : List String) (input : List UInt8) :
    Option Outcome :=
  match bareName name, args with
  | "sh", ["-c", text] => some (run w text input)
  | bare, _ =>
    (tool? false w bare args input).map fun result => ⟨w, result.output, .exited result.status⟩

end ResourceGraph.Shell
