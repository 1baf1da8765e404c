import ResourceGraph.Analysis.Descriptor
import ResourceGraph.Digest.Blake3
import ResourceGraph.Error
import ResourceGraph.Grouping
import ResourceGraph.Json.Reader
import ResourceGraph.Text.Utf8

/-!
Nodes: resources as the graph stores them. A node has an id that stays the same from one import to
the next, and a rough category that is read off its type.
-/

namespace ResourceGraph

open Text

/-- The rough category of a node. -/
inductive NodeCategory where
  | database
  | loadBalancing
  | security
  | network
  | container
  | compute
  | storage
  | monitoring
  | other
  deriving DecidableEq

namespace NodeCategory

/-- The categories in the order in which their keywords are tried. -/
def all : List NodeCategory :=
  [.database, .loadBalancing, .security, .network, .container, .compute, .storage, .monitoring,
   .other]

/-- The name of a category. -/
def name : NodeCategory → String
  | .database => "database"
  | .loadBalancing => "load_balancing"
  | .security => "security"
  | .network => "network"
  | .container => "container"
  | .compute => "compute"
  | .storage => "storage"
  | .monitoring => "monitoring"
  | .other => "other"

/-- The words that put a type into a category, wherever they stand in it. -/
def keywords : NodeCategory → List String
  | .database =>
    ["db_", "rds", "dynamodb", "database", "sql", "cosmosdb", "elasticache", "redis"]
  | .loadBalancing =>
    ["lb", "load_balancer", "elb", "alb", "application_gateway", "forwarding_rule"]
  | .security =>
    ["security_group", "iam", "kms", "firewall", "key_vault", "acl", "waf", "certificate", "secret"]
  | .network => ["vpc", "subnet", "gateway", "route", "network", "eip", "public_ip", "dns"]
  | .container => ["ecs", "eks", "ecr", "kubernetes", "container", "aks", "gke"]
  | .compute =>
    ["instance", "virtual_machine", "lambda", "function", "autoscaling", "launch_template"]
  | .storage => ["s3", "bucket", "ebs", "efs", "storage", "disk", "volume"]
  | .monitoring => ["cloudwatch", "monitor", "log", "alarm", "sns", "insights"]
  | .other => []

/-- The category of a type: the first one with a keyword in it. -/
def ofType (type : String) : NodeCategory :=
  let lowered := lowerChars type.toList
  (all.find? fun c => c.keywords.any fun word => occurs word.toList lowered).getD .other

/-- The category with exactly this name. -/
def ofExactName? (word : String) : Option NodeCategory :=
  all.find? fun c => c.name = word

/-- The category that a word names, in letters of either case. -/
def ofName (word : String) : Except Error NodeCategory :=
  match ofExactName? (lower word) with
  | some c => .ok c
  | none => .error (.unknownCategory word)

end NodeCategory

/-- A resource in the graph. -/
structure Node where
  /-- The id, which no other node has. -/
  id : String
  /-- The id that the analyzer gave, if it gave one. -/
  resourceId : Option String
  name : String
  type : String
  provider : String
  category : NodeCategory
  /-- The properties as one line of JSON. -/
  properties : String
  deriving DecidableEq

namespace Node

/-- The string without the given characters at its end. -/
def dropEnd (drop : Char → Bool) (cs : List Char) : List Char :=
  (cs.reverse.dropWhile drop).reverse

/-- The provider that is named by a text: its last part between slashes, without quotes around it
and in lower case. -/
def providerNamed? (given : String) : Option String :=
  let path := dropEnd (· = '/') given.toList
  let last := (path.reverse.takeWhile (· ≠ '/')).reverse
  let bare := dropEnd (· = '"') (last.dropWhile (· = '"'))
  if bare.isEmpty then none else some (String.ofList (lowerChars bare))

/-- The provider of a resource: the one that is given, else the one that its type names. -/
def normalProvider (given : Option String) (type : String) : String :=
  match (nonBlank? given).bind providerNamed? with
  | some name => name
  | none => (providerOf? type).getD "unknown"

/-- An id for a resource without a name: the start of the hash of all that is known about it. -/
def hashedId (d : ResourceDescriptor) : String :=
  let hash := Digest.blake3Hex (encodeUtf8 d.compact)
  "resource_" ++ String.ofList (hash.toList.take 16)

/-- The id of a resource: the one that is given, else its type and its name, else a hash. -/
def stableId (d : ResourceDescriptor) : String :=
  match nonBlank? d.id with
  | some id => id
  | none =>
    match nonBlank? d.type, nonBlank? d.name with
    | some type, some name => type ++ "." ++ name
    | _, _ => hashedId d

/-- The node of a resource. -/
def ofDescriptor (d : ResourceDescriptor) : Node :=
  let type := (nonBlank? d.type).getD ""
  { id := stableId d
    resourceId := nonBlank? d.id
    name := (nonBlank? d.name).getD ""
    type := type
    provider := normalProvider d.provider type
    category := .ofType type
    properties := d.properties.compact }

/-- The properties of a node; null if they cannot be read. -/
def propertiesJson (n : Node) : Json :=
  (Json.read? n.properties).getD .null

end Node

end ResourceGraph
