import ResourceGraph.Context
import ResourceGraph.Json.Value
import ResourceGraph.Text.Blank
import ResourceGraph.Text.Case
import ResourceGraph.Toml.Reader
import ResourceGraph.Toml.Writer

/-!
The settings of a project. All of them may be left out; each has a value that holds then.
-/

namespace ResourceGraph

open Text

/-- The settings that are written down. -/
structure Settings where
  database : Option String
  path : Option String
  limit : Option Nat
  primary : Option String
  dependencyLimit : Option Nat
  strict : Option Bool
  extensions : Option (List String)
  exclude : Option (List String)
  deriving DecidableEq

namespace Settings

/-- No settings. -/
def empty : Settings :=
  ⟨none, none, none, none, none, none, none, none⟩

/-- The extensions of configuration files unless others are set. -/
def defaultExtensions : List String := ["tf"]

/-- The file that settings are kept in. -/
def defaultFile : String := "infragraph.toml"

/-- The file that the graph is kept in. -/
def defaultDatabase : String := "./.infragraph/graph.db"

/-- The extensions of configuration files, in lower case and without points in front. -/
def wantedExtensions (s : Settings) : List String :=
  match s.extensions with
  | some (e :: rest) =>
    (e :: rest).map fun ext => String.ofList (lowerChars (ext.toList.dropWhile (· = '.')))
  | _ => defaultExtensions

/-- The patterns of files that are left out. -/
def excluded (s : Settings) : List String :=
  s.exclude.getD []

/-- What the settings ask of a document. -/
def contextOptions (s : Settings) : ContextOptions :=
  let standard := ContextOptions.standard
  { limit := s.limit.getD standard.limit
    primary := s.primary.getD standard.primary
    dependencyLimit := s.dependencyLimit.getD standard.dependencyLimit
    strict := s.strict.getD standard.strict }

/-! ### Reading -/

/-- The value of a key that may be missing; a value that `read` refuses is an error. -/
def optional? (read : Toml.Value → Option α) (t : Toml.Table) (key : String) : Option (Option α) :=
  match t.find? key with
  | none => some none
  | some (.value v) => (read v).map some
  | some _ => none

/-- A string. -/
def asText? : Toml.Value → Option String
  | .text s => some s
  | _ => none

/-- A number that is not negative. -/
def asCount? : Toml.Value → Option Nat
  | .int n => if n < 0 then none else some n.toNat
  | _ => none

/-- A truth value. -/
def asBool? : Toml.Value → Option Bool
  | .bool b => some b
  | _ => none

/-- A list of strings. -/
def asTexts? : Toml.Value → Option (List String)
  | .list items => items.mapM asText?
  | _ => none

/-- The settings in a table. Other keys do not count. -/
def ofTable? (t : Toml.Table) : Option Settings := do
  return {
    database := ← optional? asText? t "database"
    path := ← optional? asText? t "path"
    limit := ← optional? asCount? t "max_document_chars"
    primary := ← optional? asText? t "primary_file"
    dependencyLimit := ← optional? asCount? t "overview_dependency_limit"
    strict := ← optional? asBool? t "strict_implicit"
    extensions := ← optional? asTexts? t "extensions"
    exclude := ← optional? asTexts? t "exclude" }

/-- The settings in a text. -/
def read (text : String) : Except Error Settings :=
  match (Toml.read? text).bind ofTable? with
  | some s => .ok s
  | none => .error .badToml

/-! ### Writing -/

/-- The line of a key, if it is set. -/
def line (key : String) (value : Option String) : String :=
  match value with
  | none => ""
  | some text => key ++ " = " ++ text ++ "\n"

/-- The greatest number that can be written. -/
def greatest : Nat := 0x7fffffffffffffff

/-- The settings as a text. A number of more than 63 bits cannot be written. -/
def write (s : Settings) : Except Error String :=
  if greatest < s.limit.getD 0 ∨ greatest < s.dependencyLimit.getD 0 then .error .badToml
  else .ok (String.join
    [line "database" (s.database.map Toml.writeString),
     line "path" (s.path.map Toml.writeString),
     line "max_document_chars" (s.limit.map toString),
     line "primary_file" (s.primary.map Toml.writeString),
     line "overview_dependency_limit" (s.dependencyLimit.map toString),
     line "strict_implicit" (s.strict.map fun b => if b then "true" else "false"),
     line "extensions" (s.extensions.map Toml.writeStrings),
     line "exclude" (s.exclude.map Toml.writeStrings)])

/-! ### Ignored files -/

/-- The line that keeps the folder of the graph out of version control. -/
def ignoreLine : String := ".infragraph/"

/-- A list of ignored files that has the line for the folder of the graph: one that has it already
stays as it is. -/
def withIgnoreLine (text : String) : String :=
  let cs := text.toList
  if (lines cs).any fun line => trimChars line = ignoreLine.toList then text
  else
    let front := if cs.isEmpty ∨ cs.getLast? = some '\n' then text else text ++ "\n"
    front ++ ignoreLine ++ "\n"

end Settings

end ResourceGraph
