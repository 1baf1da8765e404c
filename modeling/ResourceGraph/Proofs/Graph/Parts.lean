import Mathlib.Data.List.Basic
import ResourceGraph.Proofs.Graph.ExactIds
import ResourceGraph.Proofs.Graph.Merge

/-! # Importing in parts

Replacing the graph by one analysis and merging another one into it leaves the graph of both together, if the
relationships of the first are between its own resources: each end spells out the id of one.

The relationships of the first analysis are then looked up among two sets of nodes, without those of the second
analysis and with them. Both hold a node of the id that an end spells out, whichever resource gave it its other
fields, and the text leads to that id in both (`ends?_graphOf`). The relationships of the second analysis are looked
up among the same nodes in any case. -/

namespace ResourceGraph
open Sorted Store Text

namespace Analysis
variable {a b : Analysis}

/-- Two analyses as one: the records of the second stand behind those of the first. -/
instance : Append Analysis where
  append a b := ⟨a.resources ++ b.resources, a.relationships ++ b.relationships⟩

theorem resources_append : (a ++ b).resources = a.resources ++ b.resources := rfl

theorem relationships_append : (a ++ b).relationships = a.relationships ++ b.relationships := rfl

theorem Valid.append (ha : a.Valid) (hb : b.Valid) : (a ++ b).Valid where
  resources d hd := (List.mem_append.mp hd).elim (ha.resources d) (hb.resources d)
  relationships d hd := (List.mem_append.mp hd).elim (ha.relationships d) (hb.relationships d)

/-- A text spells out the id of a resource, blanks around it aside. -/
def Names (a : Analysis) (ref : String) : Prop := ∃ r ∈ a.resources, Node.stableId r = trim ref

theorem Names.append {ref : String} (h : a.Names ref) (b : Analysis) : (a ++ b).Names ref := by
  obtain ⟨r, hr, hid⟩ := h
  exact ⟨r, List.mem_append_left _ hr, hid⟩

/-- All relationships are between resources of the analysis itself. -/
def Closed (a : Analysis) : Prop := ∀ d ∈ a.relationships, a.Names d.source ∧ a.Names d.target

end Analysis

namespace Materialize

/-! ## Ends that spell out ids -/

section Ends
variable {ways : List Strategy} {a : Analysis} {d : RelationshipDescriptor} {ref : String}

theorem graphOf_ordered (ways : List Strategy) (a : Analysis) : (graphOf ways a).Ordered :=
  ⟨Ascending.upsertAll .nil, Ascending.upsertAll .nil⟩

theorem graphOf_exact (ways : List Strategy) (ha : a.Valid) : (graphOf ways a).Exact := by
  intro n hn
  have holds : Holds ways a (graphOf ways a) := graphOf_holds ha
  obtain ⟨d, -, rfl⟩ := holds.nodes n hn
  exact Node.exact_ofDescriptor d

theorem idOf?_graphOf (ha : a.Valid) (href : a.Names ref) :
    Endpoint.idOf? Strategy.all (graphOf Strategy.all a) ref = some (trim ref) := by
  have stored : (graphOf Strategy.all a).HasNode (trim ref) := ((graphOf_holds ha).ids _).mpr href
  exact idOf?_of_trim (graphOf_ordered _ _) (graphOf_exact _ ha) stored rfl

/-- In the graph of an analysis a relationship between its own resources joins the two that it names. -/
theorem ends?_graphOf (ha : a.Valid) (hs : a.Names d.source) (ht : a.Names d.target) :
    ends? Strategy.all (graphOf Strategy.all a) d = some (trim d.source, trim d.target) :=
  ends?_eq_some.mpr ⟨idOf?_graphOf ha hs, idOf?_graphOf ha ht⟩

end Ends

/-! ## One analysis after the other -/

section Parts
variable {ways : List Strategy} {a b : Analysis}

theorem nodesOver_graphOf (ways : List Strategy) (a b : Analysis) : nodesOver (graphOf ways a) b = nodesOf (a ++ b) := by
  unfold nodesOver nodesOf
  rw [Analysis.resources_append, List.map_append, upsertAll_append]
  rfl

/-- Writing an analysis over the graph of another one gives the graph of both, if the relationships of the first
    have the same edges among the nodes of both. -/
theorem graphOver_graphOf
    (h : ∀ d ∈ a.relationships, edge? ways (graphOf ways a) d = edge? ways (graphOf ways (a ++ b)) d) :
    graphOver ways (graphOf ways a) b = graphOf ways (a ++ b) := by
  have hnodes : nodesOver (graphOf ways a) b = nodesOf (a ++ b) := nodesOver_graphOf ways a b
  have hsame : edge? ways ⟨nodesOver (graphOf ways a) b, (graphOf ways a).edges⟩ = edge? ways (graphOf ways (a ++ b)) :=
    edge?_congr hnodes
  have hfirst : a.relationships.filterMap (edge? ways (graphOf ways a)) =
      a.relationships.filterMap (edge? ways (graphOf ways (a ++ b))) := List.filterMap_congr h
  have hedges : (graphOver ways (graphOf ways a) b).edges = (graphOf ways (a ++ b)).edges :=
    calc upsertAll Edge.key (graphOf ways a).edges
          (b.relationships.filterMap (edge? ways ⟨nodesOver (graphOf ways a) b, (graphOf ways a).edges⟩))
        = upsertAll Edge.key (upsertAll Edge.key [] (a.relationships.filterMap (edge? ways (graphOf ways (a ++ b)))))
            (b.relationships.filterMap (edge? ways (graphOf ways (a ++ b)))) := by
          rw [hsame, edges_graphOf ways a, hfirst]
      _ = upsertAll Edge.key [] ((a ++ b).relationships.filterMap (edge? ways (graphOf ways (a ++ b)))) := by
          rw [Analysis.relationships_append, List.filterMap_append, upsertAll_append]
      _ = (graphOf ways (a ++ b)).edges := (edges_graphOf ways (a ++ b)).symm
  exact congrArg₂ Store.mk hnodes hedges

/-- Relationships between own resources have the same edges when more records come behind them. -/
theorem edge?_graphOf_append (ha : a.Valid) (hb : b.Valid) (hclosed : a.Closed) {d : RelationshipDescriptor}
    (hd : d ∈ a.relationships) :
    edge? Strategy.all (graphOf Strategy.all a) d = edge? Strategy.all (graphOf Strategy.all (a ++ b)) d := by
  obtain ⟨hs, ht⟩ := hclosed d hd
  unfold edge?
  rw [ends?_graphOf ha hs ht, ends?_graphOf (ha.append hb) (hs.append b) (ht.append b)]

/-- Replacing the graph by an analysis whose relationships are between its own resources, and then merging another
    one, leaves the graph that replacing it by both at once leaves, whatever was stored before. -/
theorem run_replace_append (ha : a.Valid) (hb : b.Valid) (hclosed : a.Closed) (s s' : Session) :
    ∃ first t second u whole v, run noFaults Strategy.all .replace s a = (.ok first, t) ∧
      run noFaults Strategy.all .merge t b = (.ok second, u) ∧
      run noFaults Strategy.all .replace s' (a ++ b) = (.ok whole, v) ∧ u.store = v.store := by
  obtain ⟨⟨first, hfirst⟩, hstored⟩ := run_replace_store Strategy.all ha s
  obtain ⟨⟨whole, hwhole⟩, hboth⟩ := run_replace_store Strategy.all (ha.append hb) s'
  obtain ⟨u, hmerge, hover⟩ := run_merge Strategy.all hb (run noFaults Strategy.all .replace s a).2
  refine ⟨first, _, _, u, whole, _, Prod.ext hfirst rfl, hmerge, Prod.ext hwhole rfl, ?_⟩
  rw [hover, hstored, hboth]
  exact graphOver_graphOf fun d hd => edge?_graphOf_append ha hb hclosed hd

/-- The second analysis gives the node `a` another type and the edge from `a` to itself again. -/
theorem run_replace_append_uses : uses.Valid ∧ renamed.Valid ∧ uses.Closed ∧
    ∃ first t second u whole v, run noFaults Strategy.all .replace (.start .empty) uses = (.ok first, t) ∧
      run noFaults Strategy.all .merge t renamed = (.ok second, u) ∧
      run noFaults Strategy.all .replace (.start .empty) (uses ++ renamed) = (.ok whole, v) ∧ u.store = v.store := by
  have uses_valid : uses.Valid := ⟨by decide, by decide⟩
  have renamed_valid : renamed.Valid := ⟨by decide, by decide⟩
  have closed : uses.Closed := by
    unfold Analysis.Closed Analysis.Names
    decide +kernel
  exact ⟨uses_valid, renamed_valid, closed, run_replace_append uses_valid renamed_valid closed (.start .empty) (.start .empty)⟩

end Parts

end Materialize

end ResourceGraph
