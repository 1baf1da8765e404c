import ResourceGraph.Error
import ResourceGraph.Text.Case

/-!
The kinds of declarations, their names, and the word in front of their addresses.
-/

namespace ResourceGraph

/-- A kind of declaration. -/
inductive Kind where
  | resource
  | data
  | module
  | variable
  | local
  | output
  | provider
  deriving DecidableEq

namespace Kind

/-- All kinds. -/
def all : List Kind :=
  [.resource, .data, .module, .variable, .local, .output, .provider]

/-- The name of a kind. -/
def name : Kind → String
  | .resource => "resource"
  | .data => "data"
  | .module => "module"
  | .variable => "variable"
  | .local => "local"
  | .output => "output"
  | .provider => "provider"

/-- The word that addresses of a kind start with. A resource is addressed by its own type. -/
def addressWord? : Kind → Option String
  | .resource => none
  | .data => "data"
  | .module => "module"
  | .variable => "var"
  | .local => "local"
  | .output => "output"
  | .provider => "provider"

/-- The kind that a word names, in letters of either case. Variables and locals have two names. -/
def ofName (word : String) : Except Error Kind :=
  match Text.lower word with
  | "resource" => .ok .resource
  | "data" => .ok .data
  | "module" => .ok .module
  | "variable" | "var" => .ok .variable
  | "local" | "locals" => .ok .local
  | "output" => .ok .output
  | "provider" => .ok .provider
  | _ => .error (.unknownKind word)

end Kind

end ResourceGraph
