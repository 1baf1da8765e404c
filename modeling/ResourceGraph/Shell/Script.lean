/-!
Scripts: lines of commands. Commands are joined into pipelines by bars; a pipeline runs always, or only
if what ran before it succeeded or failed. Quotes and backslashes take the meaning from signs.
-/

namespace ResourceGraph.Shell

/-- A part of a word. -/
inductive Part where
  | char (c : Char)
  /-- The number of the running shell. -/
  | processId
  /-- The status of the last command. -/
  | lastStatus

/-- A word of a command. -/
structure Word where
  parts : List Part
  /-- Whether the word counts even if nothing is in it. -/
  quoted : Bool

/-- What a redirection does. -/
inductive Flow where
  /-- It reads from a file. -/
  | source
  /-- It writes to a file, from its start or behind its end. -/
  | target (append : Bool)
  /-- It writes to where another output goes. -/
  | copy

/-- A unit of a script. -/
inductive Token where
  | word (w : Word)
  | redirect (output : Nat) (flow : Flow)
  | pipe
  | andThen
  | orElse
  | finish
  | newline

/-! ### Units -/

/-- What the next character belongs to. -/
inductive Mode where
  | plain
  | single
  | double
  /-- A backslash is in front. -/
  | escape (inDouble : Bool)
  /-- A dollar sign is in front. -/
  | dollar (inDouble : Bool)
  /-- The name of a variable goes on; no variable has a value. -/
  | name (inDouble : Bool)
  | comment
  /-- A bar is in front. -/
  | bar
  /-- An ampersand is in front. -/
  | ampersand
  /-- The sign of a redirection to an output is in front. -/
  | greater (output : Nat)

/-- A script while its units are read. -/
structure Reading where
  mode : Mode
  /-- The word that goes on, its parts in reverse. -/
  word : Option Word
  /-- The units so far, in reverse. -/
  tokens : List Token

namespace Reading

/-- The start of a script. -/
def start : Reading :=
  ⟨.plain, none, []⟩

/-- The mode inside or outside of double quotes. -/
def around (inDouble : Bool) : Mode :=
  if inDouble then .double else .plain

/-- A further part of the word. -/
def add (r : Reading) (p : Part) (quoted : Bool) : Reading :=
  let w := r.word.getD ⟨[], false⟩
  { r with word := some ⟨p :: w.parts, w.quoted || quoted⟩ }

/-- A quote begins. -/
def openQuote (r : Reading) (mode : Mode) : Reading :=
  let w := r.word.getD ⟨[], false⟩
  { r with mode, word := some { w with quoted := true } }

/-- The word ends, if there is one. -/
def endWord (r : Reading) : Reading :=
  match r.word with
  | none => r
  | some w => { r with word := none, tokens := .word ⟨w.parts.reverse, w.quoted⟩ :: r.tokens }

/-- The word ends and a sign follows. -/
def sign (r : Reading) (t : Token) : Reading :=
  let ended := r.endWord
  { ended with mode := .plain, tokens := t :: ended.tokens }

/-- The output that a redirection is about: a single digit in front of it, or the usual one. -/
def takeOutput (r : Reading) (usual : Nat) : Nat × Reading :=
  match r.word with
  | some ⟨[.char c], false⟩ =>
    if c.isDigit then (c.toNat - '0'.toNat, { r with word := none }) else (usual, r.endWord)
  | _ => (usual, r.endWord)

/-- Whether the name of a variable may start with a character. -/
def startsName (c : Char) : Bool :=
  c.isAlpha || c = '_'

/-- Whether a character begins what is not understood: the output of a command in place of it. -/
def isForeign (c : Char) : Bool :=
  c.toNat = 0x60

/-- A character outside of quotes. -/
def plain (r : Reading) (c : Char) : Option Reading :=
  let r := { r with mode := .plain }
  if isForeign c || c = '(' || c = ')' then none
  else if c = '\'' then some (r.openQuote .single)
  else if c = '"' then some (r.openQuote .double)
  else if c = '\\' then some { r with mode := .escape false }
  else if c = '$' then some { r with mode := .dollar false }
  else if c = ' ' || c = '\t' then some r.endWord
  else if c = '\n' then some (r.sign .newline)
  else if c = ';' then some (r.sign .finish)
  else if c = '|' then some { r with mode := .bar }
  else if c = '&' then some { r with mode := .ampersand }
  else if c = '<' then
    let (output, r) := r.takeOutput 0
    some (r.sign (.redirect output .source))
  else if c = '>' then
    let (output, r) := r.takeOutput 1
    some { r with mode := .greater output }
  else if c = '#' && r.word.isNone then some { r with mode := .comment }
  else some (r.add (.char c) false)

/-- A character inside of double quotes. -/
def double (r : Reading) (c : Char) : Option Reading :=
  let r := { r with mode := .double }
  if isForeign c then none
  else if c = '"' then some { r with mode := .plain }
  else if c = '\\' then some { r with mode := .escape true }
  else if c = '$' then some { r with mode := .dollar true }
  else some (r.add (.char c) true)

/-- A character inside or outside of double quotes. -/
def inside (r : Reading) (inDouble : Bool) (c : Char) : Option Reading :=
  if inDouble then r.double c else r.plain c

/-- A character. -/
def step (r : Reading) (c : Char) : Option Reading :=
  match r.mode with
  | .plain => r.plain c
  | .double => r.double c
  | .single => some (if c = '\'' then { r with mode := .plain } else r.add (.char c) true)
  | .escape inDouble =>
    let r := { r with mode := around inDouble }
    if inDouble && !(c = '"' || c = '\\' || c = '$' || isForeign c) then
      some ((r.add (.char '\\') true).add (.char c) true)
    else some (r.add (.char c) true)
  | .dollar inDouble =>
    if c = '$' then some { r.add .processId false with mode := around inDouble }
    else if c = '?' then some { r.add .lastStatus false with mode := around inDouble }
    else if startsName c then some { r with mode := .name inDouble }
    else if c = '(' || c = '\x7b' then none
    else (r.add (.char '$') false).inside inDouble c
  | .name inDouble =>
    if startsName c || c.isDigit then some r else r.inside inDouble c
  | .comment => if c = '\n' then r.plain c else some r
  | .bar => if c = '|' then some (r.sign .orElse) else (r.sign .pipe).plain c
  | .ampersand => if c = '&' then some (r.sign .andThen) else none
  | .greater output =>
    if c = '>' then some (r.sign (.redirect output (.target true)))
    else if c = '&' then some (r.sign (.redirect output .copy))
    else (r.sign (.redirect output (.target false))).plain c

/-- The units of a script that ends here. A quote must not be open, and no sign can be last. -/
def finish (r : Reading) : Option (List Token) :=
  match r.mode with
  | .plain | .comment | .name false => some r.endWord.tokens.reverse
  | .dollar false => some (r.add (.char '$') false).endWord.tokens.reverse
  | .escape false => some (r.add (.char '\\') true).endWord.tokens.reverse
  | _ => none

end Reading

/-- Reads the units of a script. -/
def readTokens (text : String) : Option (List Token) :=
  (text.toList.foldlM Reading.step Reading.start).bind Reading.finish

/-! ### Commands -/

/-- A redirection of a command. -/
structure Redirect where
  output : Nat
  flow : Flow
  path : Word

/-- A command. -/
structure Command where
  words : List Word
  redirects : List Redirect

/-- Commands that read what the one before them writes. -/
structure Pipeline where
  /-- Whether success counts as failure, and failure as success. -/
  negated : Bool
  commands : List Command

/-- When a pipeline runs. -/
inductive Condition where
  | always
  | afterSuccess
  | afterFailure

/-- A script. -/
abbrev Script := List (Condition × Pipeline)

/-- A script while its commands are read. -/
structure Parsing where
  condition : Condition
  negated : Bool
  /-- The finished commands of the pipeline, in reverse. -/
  commands : List Command
  /-- The command that goes on. -/
  command : Command
  /-- The finished pipelines, in reverse. -/
  script : Script

namespace Parsing

/-- The start of a script. -/
def start : Parsing :=
  ⟨.always, false, [], ⟨[], []⟩, []⟩

/-- Whether nothing of the next command is there yet. -/
def isFresh (p : Parsing) : Bool :=
  p.command.words.isEmpty && p.command.redirects.isEmpty

/-- Whether nothing of the next pipeline is there yet. -/
def isIdle (p : Parsing) : Bool :=
  p.isFresh && p.commands.isEmpty && !p.negated

/-- A word follows; an exclamation mark in front of a pipeline negates it. -/
def addWord (p : Parsing) (w : Word) : Parsing :=
  match p.isFresh && p.commands.isEmpty, w with
  | true, ⟨[.char '!'], false⟩ => { p with negated := !p.negated }
  | _, _ => { p with command := { p.command with words := p.command.words ++ [w] } }

/-- A redirection follows. -/
def addRedirect (p : Parsing) (x : Redirect) : Parsing :=
  { p with command := { p.command with redirects := p.command.redirects ++ [x] } }

/-- A bar follows: the command ends. -/
def endCommand (p : Parsing) : Parsing :=
  { p with commands := p.command :: p.commands, command := ⟨[], []⟩ }

/-- The pipeline ends, and the next one runs on a condition. -/
def endPipeline (p : Parsing) (next : Condition) : Parsing :=
  let whole : Pipeline := ⟨p.negated, (p.command :: p.commands).reverse⟩
  { start with condition := next, script := (p.condition, whole) :: p.script }

end Parsing

/-- Whether a pipeline may be left out where it should stand. -/
def Condition.allowsNothing : Condition → Bool
  | .always => true
  | _ => false

/-- Reads the commands of a script. -/
def readCommands (p : Parsing) : List Token → Option Script
  | [] =>
    if p.isIdle then
      if p.condition.allowsNothing then some p.script.reverse else none
    else if p.isFresh then none
    else some (p.endPipeline .always).script.reverse
  | .word w :: rest => readCommands (p.addWord w) rest
  | .redirect output flow :: .word path :: rest =>
    readCommands (p.addRedirect ⟨output, flow, path⟩) rest
  | .redirect _ _ :: _ => none
  | .newline :: rest =>
    if p.isFresh then
      if p.negated then none else readCommands p rest
    else readCommands (p.endPipeline .always) rest
  | .pipe :: rest => if p.isFresh then none else readCommands p.endCommand rest
  | .andThen :: rest => if p.isFresh then none else readCommands (p.endPipeline .afterSuccess) rest
  | .orElse :: rest => if p.isFresh then none else readCommands (p.endPipeline .afterFailure) rest
  | .finish :: rest => if p.isFresh then none else readCommands (p.endPipeline .always) rest

/-- The script that a text stands for. -/
def Script.read? (text : String) : Option Script :=
  (readTokens text).bind (readCommands .start)

end ResourceGraph.Shell
