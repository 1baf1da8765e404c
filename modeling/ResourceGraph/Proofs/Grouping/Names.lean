import ResourceGraph.Proofs.Grouping.Order
import ResourceGraph.Proofs.Text.Cut

/-! # The names of groups

A group is named for the title of its provider and for its field, and the name gives both back. Several providers
may have one title, though, since providers of one vendor share it, and then groups of different providers have one
name. That is the only way in which two groups get the same name. -/

namespace ResourceGraph
open Sorted Text

theorem Field.name_injective {f f' : Field} (h : f.name = f'.name) : f = f' := by
  have hall : ∀ f ∈ Field.all, ∀ f' ∈ Field.all, f.name = f'.name → f = f' := by decide
  exact hall f (Group.mem_fields f) f' (Group.mem_fields f') h

namespace Group
variable {r : Registry} {a b : Bucket}

/-- What stands behind the last blank of a name is the field. -/
theorem splitOnce_name (b : Bucket) : splitOnce ' ' b.name.toList.reverse =
    some (b.field.name.toList.reverse, (providerTitle b.provider ++ " -").toList.reverse) := by
  have hblank : ∀ f ∈ Field.all, ' ' ∉ f.name.toList.reverse := by decide
  have hname : b.name.toList.reverse =
      b.field.name.toList.reverse ++ ' ' :: (providerTitle b.provider ++ " -").toList.reverse := by
    simp [Bucket.name]
  rw [hname]
  exact splitOnce_append (hblank _ (mem_fields _))

theorem Bucket.name_eq_iff :
    a.name = b.name ↔ providerTitle a.provider = providerTitle b.provider ∧ a.field = b.field := by
  constructor
  · intro hname
    have hparts := (splitOnce_name a).symm.trans (hname ▸ splitOnce_name b)
    simp only [Option.some.injEq, Prod.mk.injEq, List.reverse_inj, String.toList_inj, String.append_left_inj] at hparts
    exact ⟨hparts.2, Field.name_injective hparts.1⟩
  · rintro ⟨htitle, hfield⟩
    rw [Bucket.name, htitle, hfield, Bucket.name]

/-- Two groups are those of different providers with one title, and of the same field. -/
def Alike (r : Registry) (g g' : Group) : Prop :=
  ∃ p q field, p ≠ q ∧ providerTitle p = providerTitle q ∧ g = Bucket.group r ⟨p, field⟩ ∧ g' = Bucket.group r ⟨q, field⟩

theorem alike_group_iff (hne : a ≠ b) : (a.group r).name = (b.group r).name ↔ Alike r (a.group r) (b.group r) := by
  constructor
  · intro hname
    obtain ⟨htitle, hfield⟩ := Bucket.name_eq_iff.mp hname
    obtain ⟨p, field⟩ := a
    obtain ⟨q, field'⟩ := b
    obtain rfl : field = field' := hfield
    exact ⟨p, q, field, fun hpq => hne (hpq ▸ rfl), htitle, rfl, rfl⟩
  · rintro ⟨p, q, field, -, htitle, hg, hg'⟩
    rw [hg, hg']
    exact Bucket.name_eq_iff.mpr ⟨htitle, rfl⟩

theorem not_alike_looseGroup {g g' : Group} (hg' : g' ∈ looseGroup r) : ¬Alike r g g' := by
  rintro ⟨p, q, field, -, -, -, rfl⟩
  exact Bucket.name_ne_miscellaneous ⟨q, field⟩ (resources_of_mem_looseGroup hg').1

/-- A group of a registry is the only one of its name, save for groups of the same field and of providers with the same
    title. So no two groups have one name just if no two providers of resources of one field have one title. -/
theorem ofRegistry_names (h : r.Built) :
    (ofRegistry r).Pairwise (fun g g' => g.name = g'.name ↔ Alike r g g') ∧
      (((ofRegistry r).map Group.name).Nodup ↔ ∀ id ∈ r.resourceIds, ∀ id' ∈ r.resourceIds, ∀ a b,
        Bucket.at? r id = some a → Bucket.at? r id' = some b → a.field = b.field →
          providerTitle a.provider = providerTitle b.provider → a.provider = b.provider) := by
  have hlisted : ListedBy r (listing r) (ofRegistry r) := listedBy_listing h
  have hdistinct : (listing r).Pairwise (· ≠ ·) := hlisted.ascending.imp fun hlt => ne_of_apply_ne (Bucket.key r) hlt.ne
  have hpairs : (ofRegistry r).Pairwise fun g g' => g.name = g'.name ↔ Alike r g g' := by
    rw [hlisted.eq, List.pairwise_append, List.pairwise_map]
    refine ⟨hdistinct.imp alike_group_iff, ?_, fun g hg g' hg' => ?_⟩
    · unfold looseGroup
      split
      · exact .nil
      · exact List.pairwise_singleton _ _
    · obtain ⟨b, -, rfl⟩ := List.mem_map.mp hg
      refine iff_of_false (fun hname => ?_) (not_alike_looseGroup hg')
      exact b.name_ne_miscellaneous (hname.trans (resources_of_mem_looseGroup hg').1)
  refine ⟨hpairs, fun hnodup id hid id' hid' a b ha hb hfield htitle => ?_, fun hapart => ?_⟩
  · have hlists : ∀ {id b}, id ∈ r.resourceIds → Bucket.at? r id = some b → b.group r ∈ ofRegistry r := by
      intro id b hid hb
      rw [hlisted.eq]
      exact List.mem_append_left _ (List.mem_map_of_mem ((hlisted.mem_iff b).mpr ⟨id, hid, hb⟩))
    have hname : (a.group r).name = (b.group r).name := Bucket.name_eq_iff.mpr ⟨htitle, hfield⟩
    have hgroup : a.group r = b.group r := List.inj_on_of_nodup_map hnodup (hlists hid ha) (hlists hid' hb) hname
    have hin : id ∈ (b.group r).resources := hgroup ▸ Bucket.mem_group.mpr ⟨hid, ha⟩
    have hsame : some a = some b := ha.symm.trans (Bucket.mem_group.mp hin).2
    rw [Option.some.inj hsame]
  · rw [List.Nodup, List.pairwise_map]
    refine hpairs.imp_of_mem fun hg hg' hiff hname => ?_
    obtain ⟨p, q, field, hpq, htitle, rfl, rfl⟩ := hiff.mp hname
    obtain ⟨id, hid⟩ := List.exists_mem_of_ne_nil _ (ofRegistry_nonempty hg)
    obtain ⟨id', hid'⟩ := List.exists_mem_of_ne_nil _ (ofRegistry_nonempty hg')
    obtain ⟨hid, ha⟩ := Bucket.mem_group.mp hid
    obtain ⟨hid', hb⟩ := Bucket.mem_group.mp hid'
    exact hpq (hapart id hid id' hid' _ _ ha hb rfl htitle)

/-- A resource group and a user, of two providers with one title. -/
def sameTitle : Registry :=
  Registry.empty.insertAll
    [.make .resource "azuread_user" "ops" "main.tf", .make .resource "azurerm_resource_group" "main" "main.tf"]

theorem built_sameTitle : sameTitle.Built := .insertAll .empty _

theorem ofRegistry_sameTitle : ofRegistry sameTitle =
    [⟨"Azure - Other", ["azurerm_resource_group.main"]⟩, ⟨"Azure - Other", ["azuread_user.ops"]⟩] := by
  rw [ofRegistry_eq_partition, foundationsFirst_eq]
  decide +kernel

theorem ofRegistry_names_sameTitle : sameTitle.Built ∧
    Alike sameTitle ⟨"Azure - Other", ["azurerm_resource_group.main"]⟩ ⟨"Azure - Other", ["azuread_user.ops"]⟩ := by
  refine ⟨built_sameTitle, ?_⟩
  have hpairs := (ofRegistry_names built_sameTitle).1
  rw [ofRegistry_sameTitle] at hpairs
  exact ((List.pairwise_cons.mp hpairs).1 _ (List.mem_singleton_self _)).mp rfl

/-- A name does not identify a group. -/
theorem not_names_apart : ¬∀ r : Registry, r.Built → ((ofRegistry r).map Group.name).Nodup := by
  intro hapart
  have hnodup := hapart sameTitle built_sameTitle
  rw [ofRegistry_sameTitle] at hnodup
  exact absurd hnodup (by decide)

end Group
end ResourceGraph
