import Mathlib.Data.Prod.Lex
import ResourceGraph.Proofs.Grouping

/-! # The order of groups

A group holds the resources of one provider and one field. Groups are first listed by provider and then by field,
and reordering them by what their names say keeps that order among names of one rank. So the whole list ascends
strictly by rank, provider and field. The resources without a provider come last: their name has the last rank. -/

namespace ResourceGraph
open Sorted Text

/-! ## Listing by rank -/

section Rank
variable {α : Type} {R : α → α → Prop} {rank : α → Nat} {ranks : List Nat} {xs : List α}

/-- Listing the elements of one rank after the other keeps the order among those of the same rank. -/
theorem pairwise_flatMap_filter (hranks : ranks.Pairwise (· < ·)) (hxs : xs.Pairwise R) :
    (ranks.flatMap fun k => xs.filter fun x => rank x = k).Pairwise
      fun x y => rank x < rank y ∨ rank x = rank y ∧ R x y := by
  have rank_eq : ∀ {k x}, x ∈ xs.filter (fun x => rank x = k) → rank x = k := fun hx =>
    of_decide_eq_true (List.mem_filter.mp hx).2
  rw [List.pairwise_flatMap]
  constructor
  · intro k _
    refine (hxs.filter _).imp_of_mem fun hx hy hR => Or.inr ⟨?_, hR⟩
    exact (rank_eq hx).trans (rank_eq hy).symm
  · refine hranks.imp fun hlt x hx y hy => Or.inl ?_
    rwa [rank_eq hx, rank_eq hy]

end Rank

namespace Group
variable {ds : List Declaration} {groups : List Group} {r : Registry}

theorem foundationsFirst_eq :
    foundationsFirst groups = [0, 1, 2].flatMap fun k => groups.filter fun g => g.rank = k :=
  mergeSort_eq_flatMap_filter (by decide) fun g _ => rank_mem g

/-! ## Buckets -/

/-- What the resources of one group have in common: the lower-cased provider of their types, and their field. -/
structure Bucket where
  provider : String
  field : Field
  deriving DecidableEq

namespace Bucket

/-- The bucket of a declaration, if its type names a provider. -/
def of? (d : Declaration) : Option Bucket := (providerOf? d.type).map fun p => ⟨p, Field.ofType d.type⟩

/-- The bucket of what a registry holds at an address. -/
def at? (r : Registry) (id : String) : Option Bucket := (r.get? id).bind of?

def name (b : Bucket) : String := providerTitle b.provider ++ " - " ++ b.field.name

/-- The group of a bucket: all resources that fall into it, in the order in which the registry lists them. -/
def group (r : Registry) (b : Bucket) : Group := ⟨b.name, r.resourceIds.filter fun id => at? r id = some b⟩

def place (b : Bucket) : (ℕ ×ₗ String) ×ₗ ℕ := toLex (providerPlace b.provider, Field.all.idxOf b.field)

/-- Where the group of a bucket is listed: first by the rank of its name. -/
def key (r : Registry) (b : Bucket) : ℕ ×ₗ (ℕ ×ₗ String) ×ₗ ℕ := toLex ((b.group r).rank, b.place)

end Bucket

/-- The resources of a registry whose types name no provider. -/
def looseIds (r : Registry) : List String := r.resourceIds.filter fun id => Bucket.at? r id = none

/-- The group of the resources without a provider, if there are any. -/
def looseGroup (r : Registry) : List Group := if looseIds r = [] then [] else [⟨miscellaneous, looseIds r⟩]

namespace Bucket
variable {d : Declaration} {b : Bucket}

theorem of?_eq_some : of? d = some b ↔ providerOf? d.type = some b.provider ∧ Field.ofType d.type = b.field := by
  obtain ⟨provider, field⟩ := b
  simp [of?]

theorem mem_group {id : String} : id ∈ (b.group r).resources ↔ id ∈ r.resourceIds ∧ at? r id = some b := by
  simp [group]

theorem of?_eq_none : of? d = none ↔ providerOf? d.type = none := Option.map_eq_none_iff

end Bucket

/-! ## The groups of buckets -/

/-- The buckets that some declarations fall into, by provider and field. -/
def buckets (ds : List Declaration) : List Bucket :=
  (providersInOrder ds).flatMap fun p => (Field.all.filter fun field => members ds p field ≠ []).map (Bucket.mk p)

theorem mem_buckets {b : Bucket} : b ∈ buckets ds ↔ ∃ d ∈ ds, Bucket.of? d = some b := by
  have hmembers : members ds b.provider b.field ≠ [] ↔ ∃ d ∈ ds, Bucket.of? d = some b := by
    simp [members, Bucket.of?_eq_some]
  rw [← hmembers]
  unfold buckets
  rw [List.mem_flatMap]
  constructor
  · rintro ⟨p, -, hb⟩
    obtain ⟨field, hfield, rfl⟩ := List.mem_map.mp hb
    exact of_decide_eq_true (List.mem_filter.mp hfield).2
  · intro hb
    obtain ⟨d, hd, hof⟩ := hmembers.mp hb
    refine ⟨b.provider, mem_providersInOrder.mpr ⟨d, hd, (Bucket.of?_eq_some.mp hof).1⟩, ?_⟩
    exact List.mem_map.mpr ⟨b.field, List.mem_filter.mpr ⟨mem_fields _, decide_eq_true hb⟩, rfl⟩

theorem ofProvider_eq {p : String} : ofProvider ds p =
    ((Field.all.filter fun field => members ds p field ≠ []).map (Bucket.mk p)).map
      fun b => ⟨b.name, members ds b.provider b.field⟩ := by
  unfold ofProvider fieldsOf
  induction Field.all with
  | nil => rfl
  | cons field fields ih =>
    rw [List.filterMap_cons, List.filter_cons]
    by_cases hmembers : members ds p field = []
    · simpa [hmembers] using ih
    · simpa [hmembers, Bucket.name] using ih

theorem at?_id (h : r.Built) {d : Declaration} (hd : d ∈ r.resources) : Bucket.at? r d.id = Bucket.of? d := by
  have hget : r.get? d.id = some d := (h.keyed.of_mem_resources hd).2
  rw [Bucket.at?, hget, Option.bind_some]

/-- Picking resources by their buckets picks the addresses at which such resources are declared. -/
theorem filter_resources (h : r.Built) (pick : Option Bucket → Bool) :
    (r.resources.filter fun d => pick (Bucket.of? d)).map Declaration.id =
      r.resourceIds.filter fun id => pick (Bucket.at? r id) := by
  rw [← h.keyed.map_id_resources h.listed, List.filter_map]
  congr 1
  exact List.filter_congr fun d hd => by rw [Function.comp_apply, at?_id h hd]

theorem members_resources (h : r.Built) (b : Bucket) :
    members r.resources b.provider b.field = (b.group r).resources := by
  have hpick := filter_resources h fun found => decide (found = some b)
  simpa only [members, Bucket.group, Bucket.of?_eq_some] using hpick

theorem loose_resources (h : r.Built) : (loose r.resources).map Declaration.id = looseIds r := by
  have hpick := filter_resources h fun found => decide (found = none)
  simpa only [loose, looseIds, Bucket.of?_eq_none] using hpick

theorem partition_resources (h : r.Built) :
    partition r.resources = (buckets r.resources).map (Bucket.group r) ++ looseGroup r := by
  have hgroup : (fun b : Bucket => (⟨b.name, members r.resources b.provider b.field⟩ : Group)) = Bucket.group r := by
    funext b
    rw [members_resources h]
    rfl
  rw [partition, loose_resources h, buckets, List.map_flatMap]
  congr 1
  · exact List.flatMap_congr fun p _ => by rw [ofProvider_eq, hgroup]
  · simp [looseGroup]

/-! ## The order of buckets -/

theorem Bucket.place_lt {a b : Bucket} : a.place < b.place ↔ providerPlace a.provider < providerPlace b.provider ∨
    providerPlace a.provider = providerPlace b.provider ∧ Field.all.idxOf a.field < Field.all.idxOf b.field :=
  Prod.Lex.toLex_lt_toLex

theorem Bucket.key_lt {a b : Bucket} : a.key r < b.key r ↔
    (a.group r).rank < (b.group r).rank ∨ (a.group r).rank = (b.group r).rank ∧ a.place < b.place :=
  Prod.Lex.toLex_lt_toLex

theorem pairwise_buckets : (buckets ds).Pairwise fun a b => a.place < b.place := by
  have hfields : Field.all.Pairwise fun f g => Field.all.idxOf f < Field.all.idxOf g := by decide
  unfold buckets
  rw [List.pairwise_flatMap]
  constructor
  · intro p _
    rw [List.pairwise_map]
    refine (hfields.filter _).imp ?_
    intro f g hlt
    exact Bucket.place_lt.mpr (Or.inr ⟨rfl, hlt⟩)
  · refine pairwise_providersInOrder.imp fun hlt a ha b hb => ?_
    obtain ⟨_, -, rfl⟩ := List.mem_map.mp ha
    obtain ⟨_, -, rfl⟩ := List.mem_map.mp hb
    exact Bucket.place_lt.mpr (Or.inl hlt)

/-! ## Reordering the groups -/

/-- The buckets of the resources of a registry, in the order in which their groups are listed. -/
def listing (r : Registry) : List Bucket :=
  [0, 1, 2].flatMap fun k => (buckets r.resources).filter fun b => (b.group r).rank = k

theorem pairwise_listing : (listing r).Pairwise fun a b => a.key r < b.key r := by
  have hranks : [0, 1, 2].Pairwise (· < ·) := by decide
  exact (pairwise_flatMap_filter hranks pairwise_buckets).imp Bucket.key_lt.mpr

theorem mem_listing {b : Bucket} : b ∈ listing r ↔ b ∈ buckets r.resources := by
  unfold listing
  rw [List.mem_flatMap]
  constructor
  · rintro ⟨k, -, hb⟩
    exact (List.mem_filter.mp hb).1
  · intro hb
    exact ⟨_, rank_mem _, List.mem_filter.mpr ⟨hb, decide_eq_true rfl⟩⟩

theorem rank_looseGroup {g : Group} (hg : g ∈ looseGroup r) : g.rank = 2 := by
  have hname : (Group.mk miscellaneous []).rank = 2 := by decide +kernel
  unfold looseGroup at hg
  split at hg
  · cases hg
  · rw [List.mem_singleton.mp hg]
    exact hname

/-- The group at the end stays there, since its name has the last rank. -/
theorem foundationsFirst_looseGroup :
    foundationsFirst (groups ++ looseGroup r) = foundationsFirst groups ++ looseGroup r := by
  have hnone : ∀ k, k ≠ 2 → (looseGroup r).filter (·.rank = k) = [] := by
    intro k hk
    refine List.filter_eq_nil_iff.mpr fun g hg => ?_
    simpa [rank_looseGroup hg] using Ne.symm hk
  have hall : (looseGroup r).filter (·.rank = 2) = looseGroup r :=
    List.filter_eq_self.mpr fun g hg => by simp [rank_looseGroup hg]
  have h0 := hnone 0 (by decide)
  have h1 := hnone 1 (by decide)
  simp [foundationsFirst_eq, h0, h1, hall]

theorem ofRegistry_eq (h : r.Built) : ofRegistry r = (listing r).map (Bucket.group r) ++ looseGroup r := by
  rw [ofRegistry_eq_partition, partition_resources h, foundationsFirst_looseGroup, foundationsFirst_eq, listing, List.map_flatMap]
  congr 1
  exact List.flatMap_congr fun k _ => List.filter_map

/-! ## Listed groups -/

/-- `buckets` lists the groups of a registry that have a provider: one group for each bucket that holds any resource,
    in ascending order. Behind them stands the group of the resources without a provider. -/
structure ListedBy (r : Registry) (buckets : List Bucket) (groups : List Group) : Prop where
  eq : groups = buckets.map (Bucket.group r) ++ looseGroup r
  ascending : buckets.Pairwise fun a b => a.key r < b.key r
  mem_iff : ∀ b, b ∈ buckets ↔ ∃ id ∈ r.resourceIds, Bucket.at? r id = some b

theorem listedBy_listing (h : r.Built) : ListedBy r (listing r) (ofRegistry r) where
  eq := ofRegistry_eq h
  ascending := pairwise_listing
  mem_iff b := by
    rw [mem_listing, mem_buckets, ← h.keyed.map_id_resources h.listed]
    simp only [List.mem_map, exists_exists_and_eq_and]
    refine exists_congr fun d => and_congr_right fun hd => ?_
    rw [at?_id h hd]

/-- The name of a bucket has blanks in it. -/
theorem Bucket.name_ne_miscellaneous (b : Bucket) : b.name ≠ miscellaneous := by
  intro hname
  have hblank : ' ' ∈ b.name.toList := by simp [Bucket.name]
  rw [hname] at hblank
  exact absurd hblank (by decide)

theorem resources_of_mem_looseGroup {g : Group} (hg : g ∈ looseGroup r) :
    g.name = miscellaneous ∧ g.resources = looseIds r := by
  unfold looseGroup at hg
  split at hg
  · cases hg
  · rw [List.mem_singleton.mp hg]
    exact ⟨rfl, rfl⟩

/-- Groups ascend strictly by the rank of their names, then by provider and then by field, with the resources without
    a provider at the end. A group holds just the resources of one provider and one field, or just those without a
    provider, in the order of the registry. -/
theorem ofRegistry_ascending (h : r.Built) :
    (∃ buckets, ListedBy r buckets (ofRegistry r)) ∧
      ∀ g ∈ ofRegistry r, g.resources.Sublist r.resourceIds ∧
        (g.name = miscellaneous → ∀ id ∈ r.resourceIds, id ∈ g.resources ↔ Bucket.at? r id = none) ∧
        (g.name ≠ miscellaneous → ∃ b, ∀ id ∈ r.resourceIds, id ∈ g.resources ↔ Bucket.at? r id = some b) := by
  refine ⟨⟨listing r, listedBy_listing h⟩, fun g hg => ?_⟩
  rw [ofRegistry_eq h] at hg
  rcases List.mem_append.mp hg with hg | hg
  · obtain ⟨b, -, rfl⟩ := List.mem_map.mp hg
    refine ⟨List.filter_sublist, fun hname => absurd hname b.name_ne_miscellaneous, fun _ => ⟨b, fun id hid => ?_⟩⟩
    exact Bucket.mem_group.trans (and_iff_right hid)
  · obtain ⟨hname, hids⟩ := resources_of_mem_looseGroup hg
    rw [hids]
    refine ⟨List.filter_sublist, fun _ id hid => ?_, fun hne => absurd hname hne⟩
    simp [looseIds, hid]

/-- A resource without a provider, two of a leading provider, and a network of another one. -/
def twoProviders : Registry :=
  Registry.empty.insertAll
    [.make .resource "standalone" "x" "main.tf", .make .resource "AWS_iam_role" "ci" "main.tf",
     .make .resource "google_compute_network" "net" "main.tf", .make .resource "aws_kms_key" "disk" "main.tf"]

theorem ofRegistry_ascending_twoProviders : twoProviders.Built ∧
    (∃ buckets, ListedBy twoProviders buckets (ofRegistry twoProviders)) ∧
    ofRegistry twoProviders =
      [⟨"GCP - Network", ["google_compute_network.net"]⟩, ⟨"AWS - Security", ["AWS_iam_role.ci", "aws_kms_key.disk"]⟩,
       ⟨miscellaneous, ["standalone.x"]⟩] := by
  have built : twoProviders.Built := .insertAll .empty _
  refine ⟨built, (ofRegistry_ascending built).1, ?_⟩
  rw [ofRegistry_eq_partition, foundationsFirst_eq]
  decide +kernel

end Group
end ResourceGraph
