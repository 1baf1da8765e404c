import ResourceGraph.Ignore.Glob
import ResourceGraph.Text.Blank
import ResourceGraph.Text.Lines

/-!
Rules about ignored files, one to a line. A rule ignores the paths that its glob stands for, or
keeps them if an exclamation mark stands in front; of all rules that concern a path the last one
decides.
-/

namespace ResourceGraph.Ignore

open Text

/-- A rule. -/
structure Rule where
  glob : Glob
  /-- Whether the rule keeps what it concerns. -/
  keeps : Bool
  /-- Whether the rule concerns folders alone. -/
  foldersOnly : Bool

/-- What rules say about a path. -/
inductive Verdict where
  | ignored
  | kept
  deriving DecidableEq

/-- Whether a text ends with another. -/
def endsWith (cs word : List Char) : Bool :=
  startsWith cs.reverse word.reverse

/-- A line without blanks at its end; a blank behind a backslash keeps them all. -/
def trimLine (cs : List Char) : List Char :=
  if endsWith cs ['\\', ' '] then cs else trimEnd cs

/-- The glob of a rule that is written as `cs`. Without a slash it concerns names in all folders;
two stars at the end concern what is in a folder, not the folder itself. -/
def anchor (rooted : Bool) (cs : List Char) : List Char :=
  let anywhere := !rooted && !cs.contains '/' && cs ≠ ['*', '*']
  let cs := if anywhere then ['*', '*', '/'] ++ cs else cs
  if endsWith cs ['/', '*', '*'] then cs ++ ['/', '*'] else cs

/-- A line without the slash at its end, and whether there was one. -/
def dropFolderMark (cs : List Char) : List Char × Bool :=
  match cs.reverse with
  | '/' :: '\\' :: front => (front.reverse, true)
  | '/' :: front => (front.reverse, true)
  | _ => (cs, false)

/-- The rule of a line. Empty lines, comments and lines without a valid glob have none. -/
def Rule.ofLine? (line : List Char) : Option Rule :=
  let cs := trimLine line
  if startsWith cs ['#'] || cs.isEmpty then none
  else
    let escaped := startsWith cs ['\\', '!'] || startsWith cs ['\\', '#']
    let keeps := startsWith cs ['!']
    let body := if escaped || keeps then cs.tail else cs
    let rooted := !escaped && startsWith body ['/']
    let (path, foldersOnly) := dropFolderMark (if rooted then body.tail else body)
    (Glob.read? (anchor rooted path)).map fun glob => ⟨glob, keeps, foldersOnly⟩

/-- What some rules say about a path. -/
def verdict (rules : List Rule) (path : String) (isFolder : Bool) : Option Verdict :=
  let bytes := encodeUtf8 path
  (rules.reverse.find? fun r =>
    (!r.foldersOnly || isFolder) && r.glob.matchesPath bytes).map fun r =>
      if r.keeps then .kept else .ignored

/-- The pieces of some bytes between line feeds. -/
def splitBytes : List UInt8 → List (List UInt8)
  | [] => [[]]
  | b :: rest =>
    if b = 0x0a then [] :: splitBytes rest
    else match splitBytes rest with
      | [] => [[b]]
      | part :: parts => (b :: part) :: parts

/-- The lines of a file up to the first one that is no text. -/
def fileLines (bytes : List UInt8) : List (List Char) :=
  let parts := splitBytes bytes
  let decoded := parts.map decodeUtf8
  (decoded.takeWhile fun r => match r with | .ok _ => true | .error _ => false).filterMap fun r =>
    match r with
    | .ok s => some (dropReturn s.toList)
    | .error _ => none

/-- The rules in a file. A byte order mark in front of it does not count. -/
def rulesOfFile (bytes : List UInt8) : List Rule :=
  match fileLines bytes with
  | [] => []
  | first :: rest =>
    (first.dropWhile (fun c => c.toNat = 0xfeff) :: rest).filterMap Rule.ofLine?

/-- The rules that hold besides those that are written down. -/
def standingRules : List String :=
  [".terraform/", ".terragrunt-cache/", ".infragraph/", ".git/", "node_modules/", "vendor/",
   "target/", "*.tfstate", "*.tfstate.*", "*.tfplan", "crash.log", "*.lock.hcl", "*.db",
   "*.sqlite", "*.sqlite3", "*.wal", "*.shm"]

/-- The rules of a project: those of its two files, the standing ones, and further ones. -/
def projectRules (gitFile ignoreFile : List UInt8) (excluded : List String) : List Rule :=
  rulesOfFile gitFile ++ rulesOfFile ignoreFile ++
    (standingRules ++ excluded).filterMap fun line => Rule.ofLine? line.toList

/-- Whether rules ignore a path. -/
def isIgnored (rules : List Rule) (path : String) (isFolder : Bool) : Bool :=
  verdict rules path isFolder = some .ignored

end ResourceGraph.Ignore
