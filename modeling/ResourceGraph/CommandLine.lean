import ResourceGraph.Text.Lines

/-!
The arguments of the program: options that hold for every command, the name of a command, and its own
options. An option is given at most once in front of the name and once behind it, where the latter
counts. An option with a value has it in the next argument or in the same one.
-/

namespace ResourceGraph

open Text

namespace CommandLine

/-- What values an option takes. -/
inductive ValueKind where
  /-- None: the option is there or not. -/
  | flag
  | path
  | text
  | number
  deriving DecidableEq

/-- An option. -/
structure Spec where
  long : String
  short : Option Char
  kind : ValueKind

/-- The options that hold for every command. -/
def commonSpecs : List Spec :=
  [⟨"verbose", some 'v', .flag⟩, ⟨"json", none, .flag⟩, ⟨"config", some 'c', .path⟩]

/-- The names of the commands. -/
inductive Name where
  | init
  | context
  | load
  | stats
  deriving DecidableEq

/-- The names in the order of their helps. -/
def Name.all : List Name := [.init, .context, .load, .stats]

/-- The word for a name. -/
def Name.word : Name → String
  | .init => "init"
  | .context => "context"
  | .load => "import"
  | .stats => "stats"

/-- The options of a command. -/
def Name.specs : Name → List Spec
  | .init => [⟨"path", some 'p', .path⟩, ⟨"force", some 'f', .flag⟩]
  | .context =>
    [⟨"path", some 'p', .path⟩, ⟨"output", some 'o', .path⟩, ⟨"max-chars", none, .number⟩]
  | .load =>
    [⟨"path", some 'p', .path⟩, ⟨"database", some 'd', .path⟩, ⟨"analysis", some 'a', .path⟩,
     ⟨"command", none, .text⟩, ⟨"merge", some 'm', .flag⟩]
  | .stats => [⟨"database", some 'd', .path⟩, ⟨"node", some 'n', .text⟩]

/-- Why no command runs. -/
inductive Stop where
  /-- The arguments are wrong. -/
  | usage
  | help
  | version
  deriving DecidableEq

/-- The options given so far, with their values. -/
abbrev Given := List (String × String)

/-- The greatest number that an option takes. -/
def greatestNumber : Nat := 0xffffffffffffffff

/-- The number that a text stands for: decimal digits, with a plus sign in front of them or not. -/
def number? (text : String) : Option Nat :=
  let digits := (dropWord? text.toList ['+']).getD text.toList
  if digits.isEmpty || !digits.all Char.isDigit then none
  else
    let n := digits.foldl (fun n c => 10 * n + (c.toNat - '0'.toNat)) 0
    if n ≤ greatestNumber then some n else none

/-- Whether an option takes a value. -/
def ValueKind.accepts (kind : ValueKind) (value : String) : Bool :=
  match kind with
  | .flag => false
  | .path => !value.isEmpty
  | .text => true
  | .number => (number? value).isSome

/-- The options with one more. -/
def give (given : Given) (spec : Spec) (value : String) : Except Stop Given :=
  if given.any fun g => g.1 = spec.long then .error .usage
  else if spec.kind = .flag || spec.kind.accepts value then .ok (given ++ [(spec.long, value)])
  else .error .usage

/-- What an argument does. -/
inductive Effect where
  | gives (given : Given)
  /-- The next argument is the value of an option. -/
  | awaits (given : Given) (spec : Spec)

/-- An option that is written out. -/
def readLong (specs : List Spec) (topLevel : Bool) (given : Given) (body : List Char) :
    Except Stop Effect :=
  let (name, value) := match splitOnce '=' body with
    | some (name, value) => (String.ofList name, some (String.ofList value))
    | none => (String.ofList body, none)
  match specs.find? fun s => s.long = name with
  | some spec =>
    match spec.kind, value with
    | .flag, none => (give given spec "").map .gives
    | .flag, some _ => .error .usage
    | _, some value => (give given spec value).map .gives
    | _, none => .ok (.awaits given spec)
  | none =>
    if value.isSome then .error .usage
    else if name = "help" then .error .help
    else if name = "version" && topLevel then .error .version
    else .error .usage

/-- Options that are written as letters behind one hyphen. -/
def readShort (specs : List Spec) (topLevel : Bool) (given : Given) :
    List Char → Except Stop Effect
  | [] => .ok (.gives given)
  | c :: rest =>
    match specs.find? fun s => s.short = some c with
    | some spec =>
      if spec.kind = .flag then
        match give given spec "" with
        | .ok given => readShort specs topLevel given rest
        | .error stop => .error stop
      else if rest.isEmpty then .ok (.awaits given spec)
      else
        (give given spec (String.ofList ((dropWord? rest ['=']).getD rest))).map .gives
    | none =>
      if c = 'h' then .error .help
      else if c = 'V' && topLevel then .error .version
      else .error .usage

/-- The arguments read at one level: the options, and the first other argument with those behind
it. -/
structure Level where
  given : Given
  rest : List String

/-- Reads arguments up to the first one that is no option. -/
def readLevel (specs : List Spec) (topLevel : Bool) (awaited : Option Spec) (given : Given) :
    List String → Except Stop Level
  | [] => if awaited.isSome then .error .usage else .ok ⟨given, []⟩
  | arg :: rest =>
    let body := arg.toList
    let isOption := startsWith body ['-'] && arg ≠ "-"
    match awaited with
    | some spec =>
      if isOption then .error .usage
      else
        match give given spec arg with
        | .ok given => readLevel specs topLevel none given rest
        | .error stop => .error stop
    | none =>
      if arg = "--" then if topLevel || !rest.isEmpty then .error .usage else .ok ⟨given, []⟩
      else if isOption then
        match if startsWith body ['-', '-'] then readLong specs topLevel given (body.drop 2)
          else readShort specs topLevel given (body.drop 1) with
        | .error stop => .error stop
        | .ok (.gives given) => readLevel specs topLevel none given rest
        | .ok (.awaits given spec) => readLevel specs topLevel (some spec) given rest
      else .ok ⟨given, arg :: rest⟩

end CommandLine

/-- What the arguments ask for. -/
structure CommandLine where
  /-- Whether the answer is to be JSON. -/
  json : Bool
  /-- The file with the settings. -/
  config : Option String
  name : CommandLine.Name
  /-- The options of the command. -/
  given : CommandLine.Given

namespace CommandLine

/-- The value of an option. -/
def value? (c : CommandLine) (long : String) : Option String :=
  (c.given.find? fun g => g.1 = long).map (·.2)

/-- Whether an option is given. -/
def has (c : CommandLine) (long : String) : Bool :=
  (c.value? long).isSome

/-- Whether the options of a command go together. -/
def isComplete (c : CommandLine) : Bool :=
  match c.name with
  | .load => c.has "analysis" ≠ c.has "command"
  | _ => true

/-- The answer to a question for help about some commands. -/
def helpFor (args : List String) : Stop :=
  match args with
  | [] => .help
  | [word] => if word = "help" || Name.all.any (·.word = word) then .help else .usage
  | _ => .usage

/-- Reads the arguments. -/
def read (args : List String) : Except Stop CommandLine := do
  let top ← readLevel commonSpecs true none [] args
  match top.rest with
  | [] => .error .usage
  | word :: rest =>
    match Name.all.find? fun name => name.word = word with
    | none => .error (if word = "help" then helpFor rest else .usage)
    | some name =>
      let level ← readLevel (name.specs ++ commonSpecs) false none [] rest
      let both := level.given ++ top.given
      let line : CommandLine :=
        { json := both.any fun g => g.1 = "json"
          config := (both.find? fun g => g.1 = "config").map (·.2)
          name
          given := both }
      if level.rest.isEmpty && line.isComplete then .ok line else .error .usage

end CommandLine

end ResourceGraph
