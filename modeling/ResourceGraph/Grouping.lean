import ResourceGraph.Registry
import ResourceGraph.Text.Lines

/-!
Grouping resources by provider and by field of use. Resources whose type names no provider form a
group of their own at the end. Groups named for networks come first, then those named for security.
-/

namespace ResourceGraph

open Text Sorted

/-- The field of use of a type of resources. -/
inductive Field where
  | network
  | security
  | compute
  | container
  | database
  | storage
  | loadBalancing
  | monitoring
  | other
  deriving DecidableEq, Ord

namespace Field

/-- The fields in the order in which their groups are listed. -/
def all : List Field :=
  [.network, .security, .compute, .container, .database, .storage, .loadBalancing, .monitoring,
   .other]

/-- The name of a field. -/
def name : Field → String
  | .network => "Network"
  | .security => "Security"
  | .compute => "Compute"
  | .container => "Container"
  | .database => "Database"
  | .storage => "Storage"
  | .loadBalancing => "Load_Balancing"
  | .monitoring => "Monitoring"
  | .other => "Other"

/-- The types that belong to a field, each with all types that go on from it with an underscore. -/
def stems : Field → List String
  | .network =>
    ["aws_vpc", "aws_subnet", "aws_internet_gateway", "aws_nat_gateway", "aws_route",
     "aws_route_table", "aws_route53", "aws_eip", "aws_vpc_endpoint", "aws_network_interface",
     "azurerm_virtual_network", "azurerm_subnet", "azurerm_public_ip", "azurerm_route_table",
     "google_compute_network", "google_compute_subnetwork", "google_compute_router"]
  | .security =>
    ["aws_security_group", "aws_iam", "aws_kms", "aws_network_acl", "aws_key_pair",
     "aws_acm_certificate", "aws_secretsmanager", "aws_wafv2", "azurerm_network_security_group",
     "azurerm_key_vault", "azurerm_role_assignment", "google_compute_firewall",
     "google_service_account", "google_project_iam"]
  | .compute =>
    ["aws_instance", "aws_launch_template", "aws_autoscaling_group", "aws_lambda",
     "azurerm_virtual_machine", "azurerm_linux_virtual_machine", "azurerm_windows_virtual_machine",
     "azurerm_function_app", "google_compute_instance", "google_cloudfunctions"]
  | .container =>
    ["aws_ecs", "aws_eks", "aws_ecr", "azurerm_kubernetes_cluster", "azurerm_container",
     "google_container", "kubernetes"]
  | .database =>
    ["aws_db_instance", "aws_rds", "aws_dynamodb", "aws_elasticache", "aws_db_subnet_group",
     "azurerm_mssql", "azurerm_postgresql", "azurerm_mysql", "azurerm_cosmosdb", "google_sql",
     "google_bigtable"]
  | .storage =>
    ["aws_s3_bucket", "aws_ebs_volume", "aws_efs", "azurerm_storage_account",
     "azurerm_storage_container", "azurerm_managed_disk", "google_storage_bucket"]
  | .loadBalancing =>
    ["aws_lb", "aws_alb", "aws_elb", "azurerm_lb", "azurerm_application_gateway",
     "google_compute_forwarding_rule", "google_compute_backend_service"]
  | .monitoring =>
    ["aws_cloudwatch", "aws_sns", "azurerm_monitor", "azurerm_log_analytics",
     "azurerm_application_insights", "google_monitoring", "google_logging"]
  | .other => []

/-- Whether a type in lower case is a stem or goes on from it with an underscore. -/
def goesOnFrom (type : List Char) (stem : String) : Bool :=
  match dropWord? type stem.toList with
  | none => false
  | some [] => true
  | some (c :: _) => c = '_'

/-- The field of a type: the first one with a stem that fits. -/
def ofType (type : String) : Field :=
  let lowered := lowerChars type.toList
  (all.find? fun field => field.stems.any (goesOnFrom lowered)).getD .other

end Field

/-- The provider of a type: what stands in front of its first underscore, in lower case. -/
def providerOf? (type : String) : Option String :=
  match splitOnce '_' type.toList with
  | some (c :: front, _) => some (String.ofList (lowerChars (c :: front)))
  | _ => none

/-- The name under which a provider is listed. -/
def providerTitle (provider : String) : String :=
  match provider with
  | "aws" => "AWS"
  | "azurerm" | "azuread" => "Azure"
  | "google" => "GCP"
  | "kubernetes" => "Kubernetes"
  | other => capitalize other

/-- A group of resources. -/
structure Group where
  name : String
  resources : List String
  deriving DecidableEq

namespace Group

/-- A sentence about the size of a group. -/
def description (g : Group) : String :=
  if g.resources.length = 1 then "Contains 1 resource"
  else s!"Contains {g.resources.length} resources"

/-- The name of the group of resources without a provider. -/
def miscellaneous : String := "Miscellaneous"

/-- The providers that are listed in front of all others. -/
def leadingProviders : List String := ["aws", "azurerm"]

/-- How early a provider is listed; all providers but the leading ones come at the end. -/
def providerRank (provider : String) : Nat :=
  leadingProviders.idxOf provider

/-- Whether a provider may be listed in front of another: by rank, and then by name. -/
def providerLE (p q : String) : Bool :=
  ((compare (providerRank p) (providerRank q)).then (compare p q)).isLE

/-- How early a group is listed by its name alone. -/
def rank (g : Group) : Nat :=
  let name := lowerChars g.name.toList
  if occurs "network".toList name then 0
  else if occurs "security".toList name then 1
  else 2

/-- The groups with the foundations first, otherwise in the same order. -/
def foundationsFirst (groups : List Group) : List Group :=
  groups.mergeSort fun g g' => g.rank ≤ g'.rank

end Group

/-- Resources by provider and by field, and those whose type names no provider. -/
structure Filed where
  provided : Table (List (Field × List String))
  loose : List String

namespace Filed

/-- Nothing is filed yet. -/
def empty : Filed :=
  ⟨[], []⟩

/-- Files a resource behind those of its provider and its field. -/
def add (f : Filed) (d : Declaration) : Filed :=
  match providerOf? d.type with
  | some provider =>
    let file := alter (Field.ofType d.type) [] fun ids => ids ++ [d.id]
    { f with provided := alter provider [] file f.provided }
  | none => { f with loose := f.loose ++ [d.id] }

/-- The providers in the order in which they are listed. -/
def providers (f : Filed) : List String :=
  (f.provided.map Prod.fst).mergeSort Group.providerLE

/-- The groups of one provider, by field. -/
def groupsOf (f : Filed) (provider : String) : List Group :=
  match f.provided.find? provider with
  | none => []
  | some fields =>
    fields.map fun (field, ids) => ⟨providerTitle provider ++ " - " ++ field.name, ids⟩

/-- The groups, by provider. -/
def groups (f : Filed) : List Group :=
  f.providers.flatMap f.groupsOf ++
    (if f.loose.isEmpty then [] else [⟨Group.miscellaneous, f.loose⟩])

end Filed

/-- The groups of the resources of a registry. -/
def Group.ofRegistry (r : Registry) : List Group :=
  foundationsFirst (r.resources.foldl Filed.add .empty).groups

end ResourceGraph
