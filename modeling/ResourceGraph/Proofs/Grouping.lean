import Mathlib.Data.List.Nodup
import Mathlib.Data.List.Perm.Basic
import ResourceGraph.Proofs.Grouping.Filing
import ResourceGraph.Proofs.Registry

/-! # Groups

Grouping by provider and field splits the resources along keys of which each value is asked for once. So the
groups hold every resource exactly once, in whatever order they are listed afterwards. -/

namespace ResourceGraph
open Sorted Text

/-! ## Splitting a list along a key -/

section Split
variable {α κ : Type} [DecidableEq κ] {f : α → κ} {keys : List κ} {xs : List α}

/-- The elements of one key after the other are all elements, if every key is asked for once. -/
theorem flatMap_filter_perm (hkeys : keys.Nodup) (hcover : ∀ x ∈ xs, f x ∈ keys) :
    (keys.flatMap fun k => xs.filter fun x => f x = k).Perm xs := by
  induction keys generalizing xs with
  | nil =>
    have hnone : xs = [] := List.eq_nil_iff_forall_not_mem.mpr fun x hx => List.not_mem_nil (hcover x hx)
    rw [hnone]
    exact .nil
  | cons k keys ih =>
    obtain ⟨hk, hkeys⟩ := List.nodup_cons.mp hkeys
    have hothers : (keys.flatMap fun k' => (xs.filter fun x => !decide (f x = k)).filter fun x => f x = k').Perm
        (xs.filter fun x => !decide (f x = k)) := by
      refine ih hkeys fun x hx => ?_
      obtain ⟨hx, hne⟩ := List.mem_filter.mp hx
      exact (List.mem_cons.mp (hcover x hx)).resolve_left (by simpa using hne)
    -- No other key picks an element of `k`, so it makes no difference that those are gone.
    have hsame : (keys.flatMap fun k' => (xs.filter fun x => !decide (f x = k)).filter fun x => f x = k') =
        keys.flatMap fun k' => xs.filter fun x => f x = k' := by
      refine List.flatMap_congr fun k' hk' => ?_
      rw [List.filter_filter]
      refine List.filter_congr fun x _ => ?_
      by_cases hx : f x = k'
      · have hne : k' ≠ k := fun heq => hk (heq ▸ hk')
        simp [hx, hne]
      · simp [hx]
    rw [hsame] at hothers
    rw [List.flatMap_cons]
    exact (hothers.append_left _).trans (List.filter_append_perm _ _)

end Split

namespace Group
variable {ds : List Declaration} {provider : String} {g : Group} {groups : List Group}

/-! ## The groups of one provider -/

theorem nodup_fields : Field.all.Nodup := by decide

/-- The resources of one provider, whatever their field. -/
def providedBy (ds : List Declaration) (provider : String) : List Declaration :=
  ds.filter fun d => providerOf? d.type = some provider

theorem members_eq (field : Field) :
    members ds provider field =
      ((providedBy ds provider).filter fun d => Field.ofType d.type = field).map Declaration.id := by
  unfold members providedBy
  rw [List.filter_filter]
  congr 1
  refine List.filter_congr fun d _ => ?_
  rw [Bool.and_comm, Bool.decide_and]

/-- A field without resources is left out, which loses no resource. -/
theorem resources_ofProvider :
    (ofProvider ds provider).flatMap (·.resources) = Field.all.flatMap (members ds provider) := by
  unfold ofProvider fieldsOf
  rw [List.flatMap_map]
  induction Field.all with
  | nil => rfl
  | cons field fields ih =>
    rw [List.filterMap_cons, List.flatMap_cons]
    by_cases hmembers : members ds provider field = []
    · rw [if_pos hmembers, hmembers]
      exact ih
    · rw [if_neg hmembers, List.flatMap_cons, ih]

theorem ofProvider_perm :
    ((ofProvider ds provider).flatMap (·.resources)).Perm ((providedBy ds provider).map Declaration.id) := by
  have hmembers : members ds provider = fun field =>
      ((providedBy ds provider).filter fun d => Field.ofType d.type = field).map Declaration.id := funext members_eq
  rw [resources_ofProvider, hmembers, ← List.map_flatMap]
  exact (flatMap_filter_perm nodup_fields fun d _ => mem_fields _).map _

theorem ofProvider_nonempty (hg : g ∈ ofProvider ds provider) : g.resources ≠ [] := by
  obtain ⟨entry, hentry, rfl⟩ := List.mem_map.mp hg
  obtain ⟨field, -, hentry⟩ := List.mem_filterMap.mp hentry
  split at hentry
  · cases hentry
  · rename_i hne
    cases hentry
    exact hne

/-! ## All providers -/

/-- The groups of all providers and the one without a provider hold every resource once. -/
theorem partition_perm : ((partition ds).flatMap (·.resources)).Perm (ds.map Declaration.id) := by
  have keys : ((providersInOrder ds).map some ++ [none]).Nodup := by
    refine List.nodup_append.mpr ⟨?_, List.pairwise_singleton _ _, by simp⟩
    exact nodup_providersInOrder.map fun _ _ => Option.some.inj
  have cover : ∀ d ∈ ds, providerOf? d.type ∈ (providersInOrder ds).map some ++ [none] := by
    intro d hd
    cases hp : providerOf? d.type with
    | none => simp
    | some p => simpa using mem_providersInOrder.mpr ⟨d, hd, hp⟩
  have split : ((providersInOrder ds).flatMap (fun p => (providedBy ds p).map Declaration.id) ++
      (loose ds).map Declaration.id).Perm (ds.map Declaration.id) := by
    have h := (flatMap_filter_perm keys cover).map Declaration.id
    rwa [List.flatMap_append, List.flatMap_map, List.map_append, List.map_flatMap, List.flatMap_singleton] at h
  have hloose : (if ((loose ds).map Declaration.id).isEmpty then []
      else [Group.mk miscellaneous ((loose ds).map Declaration.id)]).flatMap (·.resources) =
        (loose ds).map Declaration.id := by
    cases (loose ds).map Declaration.id with
    | nil => rfl
    | cons id ids => simp
  refine List.Perm.trans ?_ split
  rw [partition, List.flatMap_append, List.flatMap_assoc, hloose]
  exact (List.Perm.flatMap_left _ fun _ _ => ofProvider_perm).append_right _

theorem partition_nonempty (hg : g ∈ partition ds) : g.resources ≠ [] := by
  rw [partition] at hg
  rcases List.mem_append.mp hg with hg | hg
  · obtain ⟨p, -, hg⟩ := List.mem_flatMap.mp hg
    exact ofProvider_nonempty hg
  · split at hg
    · cases hg
    · rename_i hsome
      rw [List.mem_singleton.mp hg]
      simpa using hsome

/-! ## The order of groups -/

theorem rank_mem (g : Group) : g.rank ∈ [0, 1, 2] := by
  simp only [rank]
  split
  · decide
  · split <;> decide

/-- Listing the foundations first only reorders the groups. -/
theorem foundationsFirst_perm : (foundationsFirst groups).Perm groups := List.mergeSort_perm _ _

theorem mem_foundationsFirst : g ∈ foundationsFirst groups ↔ g ∈ groups := foundationsFirst_perm.mem_iff

/-! ## The groups of a registry -/

variable {r : Registry}

theorem ofRegistry_perm (h : r.Built) : ((ofRegistry r).flatMap (·.resources)).Perm r.resourceIds := by
  have hgroups : ((ofRegistry r).flatMap (·.resources)).Perm ((partition r.resources).flatMap (·.resources)) := by
    rw [ofRegistry_eq_partition]
    exact foundationsFirst_perm.flatMap_right _
  rw [← h.keyed.map_id_resources h.listed]
  exact hgroups.trans partition_perm

theorem ofRegistry_nonempty (hg : g ∈ ofRegistry r) : g.resources ≠ [] := by
  rw [ofRegistry_eq_partition] at hg
  exact partition_nonempty (mem_foundationsFirst.mp hg)

/-- The groups of a registry hold each of its resources once, and none of them is empty. -/
theorem ofRegistry_partition (h : r.Built) :
    ((ofRegistry r).flatMap (·.resources)).Perm r.resourceIds ∧ r.resourceIds.Nodup ∧
      ∀ g ∈ ofRegistry r, g.resources ≠ [] :=
  ⟨ofRegistry_perm h, h.listed.nodup, fun _ => ofRegistry_nonempty⟩

/-- A network, a resource without a provider, and a resource at whose address a data source is declared later. -/
def redeclared : Registry :=
  (((Registry.empty.insert (.make .resource "data.aws_ami" "base" "main.tf")).insert
    (.make .resource "aws_vpc" "main" "main.tf")).insert
    (.make .resource "standalone" "x" "main.tf")).insert
    (.make .data "aws_ami" "base" "data.tf")

theorem ofRegistry_partition_redeclared : redeclared.Built ∧
    ((ofRegistry redeclared).flatMap (·.resources)).Perm ["data.aws_ami.base", "aws_vpc.main", "standalone.x"] := by
  have built : redeclared.Built := .insert (.insert (.insert (.insert .empty _) _) _) _
  have ids : redeclared.resourceIds = ["data.aws_ami.base", "aws_vpc.main", "standalone.x"] := by decide +kernel
  exact ⟨built, ids ▸ (ofRegistry_partition built).1⟩

end Group

end ResourceGraph
