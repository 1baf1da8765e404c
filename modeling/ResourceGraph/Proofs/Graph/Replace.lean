import ResourceGraph.Proofs.Answers
import ResourceGraph.Proofs.Graph.Confidence
import ResourceGraph.Proofs.Graph.Runs

/-! # Replacing the graph

Where no call fails, a run that replaces the graph stores a function of the analysis and nothing else
(`graphOf`): the node of the last resource of each id, and for each key the edge of the last relationship
whose two ends lead to nodes with that key.

The ends of relationships are found in a store whose nodes are complete. Storing an edge changes no node, so
every relationship is judged against the nodes of the final store. -/

namespace ResourceGraph
open Sorted Store

namespace Materialize

/-! ## The graph of an analysis -/

section Graph
variable (ways : List Strategy) (g : Store) (d : RelationshipDescriptor)

/-- The edge that is stored for a relationship whose two ends lead to nodes. -/
def edge? : Option Edge := (ends? ways g d).map fun ends => stored (.ofDescriptor ends.1 ends.2 d)

/-- The key of the edge that is stored for a relationship whose two ends lead to nodes. -/
def keyOf? : Option Edge.Key := (ends? ways g d).map fun ends => ⟨ends.1, ends.2, relationshipType d.type⟩

theorem edge?_key : (edge? ways g d).map Edge.key = keyOf? ways g d := by
  unfold edge? keyOf?
  rw [Option.map_map]
  congr 1
  funext ends
  exact stored_key _

end Graph

/-- The nodes of an analysis, the last of each id. -/
def nodesOf (a : Analysis) : List Node := upsertAll Node.id [] (a.resources.map .ofDescriptor)

/-- The graph of an analysis. -/
def graphOf (ways : List Strategy) (a : Analysis) : Store :=
  ⟨nodesOf a, upsertAll Edge.key [] (a.relationships.filterMap (edge? ways ⟨nodesOf a, []⟩))⟩

section Nodes
variable {ways : List Strategy} {g h : Store} {d : RelationshipDescriptor}

theorem strategyFind?_congr (hnodes : g.nodes = h.nodes) (ref : String) (way : Strategy) :
    way.find? g ref = way.find? h ref := by
  cases g
  cases h
  cases hnodes
  cases way <;> rfl

/-- Where a text leads is decided by the nodes. -/
theorem find?_congr (hnodes : g.nodes = h.nodes) (ref : String) :
    Endpoint.find? ways g ref = Endpoint.find? ways h ref := by
  unfold Endpoint.find? Endpoint.firstOf?
  simp only [strategyFind?_congr hnodes]

theorem ends?_congr (hnodes : g.nodes = h.nodes) : ends? ways g d = ends? ways h d := by
  unfold ends?
  simp only [Endpoint.idOf?_eq, find?_congr hnodes]

theorem edge?_congr (hnodes : g.nodes = h.nodes) : edge? ways g = edge? ways h := by
  funext d
  unfold edge?
  rw [ends?_congr hnodes]

theorem keyOf?_congr {g h : Store} (hnodes : g.nodes = h.nodes) (d : RelationshipDescriptor) :
    keyOf? ways g d = keyOf? ways h d := by
  unfold keyOf?
  rw [ends?_congr hnodes]

end Nodes

/-! ## Writing everything -/

section Writing
variable {ways : List Strategy}

theorem foldl_writeNode_store (ds : List ResourceDescriptor) (p : Progress) :
    (ds.foldl (writeNode noFaults) p).session.store =
      { p.session.store with nodes := upsertAll Node.id p.session.store.nodes (ds.map .ofDescriptor) } := by
  induction ds generalizing p with
  | nil => rfl
  | cons d ds ih =>
    rw [List.foldl_cons, ih, writeNode_noFaults]
    rfl

/-- A valid relationship has an edge that can be stored. -/
theorem putEdge_of_isValid (g : Store) (source target : String) {d : RelationshipDescriptor} (hd : d.isValid = true) :
    g.putEdge (.ofDescriptor source target d) =
      .ok { g with edges := upsert Edge.key (stored (.ofDescriptor source target d)) g.edges } := by
  unfold Store.putEdge
  rw [Edge.ofDescriptor_confidence, Edge.clamp_of_isValid hd, d.isValid_isNaN hd]
  rfl

/-- One valid relationship adds its edge, if its ends lead to nodes. -/
theorem writeEdge_store (ways : List Strategy) (p : Progress) {d : RelationshipDescriptor} (hd : d.isValid = true) :
    (writeEdge noFaults ways p d).session.store = { p.session.store with
      edges := upsertAll Edge.key p.session.store.edges (edge? ways p.session.store d).toList } := by
  unfold edge?
  cases hends : ends? ways p.session.store d with
  | none => exact (writeEdge_noFaults_of_none hends).1
  | some ends => exact (writeEdge_noFaults_of_some hends (putEdge_of_isValid _ _ _ hd)).1

theorem foldl_writeEdge_store {ds : List RelationshipDescriptor} (hds : ∀ d ∈ ds, d.isValid = true) (p : Progress) :
    (ds.foldl (writeEdge noFaults ways) p).session.store = { p.session.store with
      edges := upsertAll Edge.key p.session.store.edges (ds.filterMap (edge? ways p.session.store)) } := by
  induction ds generalizing p with
  | nil => rfl
  | cons d ds ih =>
    have hstep := writeEdge_store ways p (hds d List.mem_cons_self)
    -- The first edge changes no node, so the others are looked up among the nodes that it was.
    rw [List.foldl_cons, ih (fun d' hd' => hds d' (List.mem_cons_of_mem _ hd')),
      edge?_congr (writeEdge_nodes noFaults ways p d), hstep, List.filterMap_cons]
    cases edge? ways p.session.store d <;> rfl

/-- The nodes of an analysis over those of a graph. -/
def nodesOver (g : Store) (a : Analysis) : List Node := upsertAll Node.id g.nodes (a.resources.map .ofDescriptor)

/-- An analysis written over a graph. -/
def graphOver (ways : List Strategy) (g : Store) (a : Analysis) : Store :=
  ⟨nodesOver g a, upsertAll Edge.key g.edges (a.relationships.filterMap (edge? ways ⟨nodesOver g a, g.edges⟩))⟩

theorem write_store {a : Analysis} (ha : a.Valid) (p : Progress) :
    (write noFaults ways p a).session.store = graphOver ways p.session.store a := by
  rw [store_write, foldl_writeEdge_store ha.relationships, foldl_writeNode_store]
  rfl

end Writing

section Replace
variable {ways : List Strategy} {a : Analysis}

/-- A run that replaces the graph ends, and the graph of the analysis is stored then. -/
theorem run_replace_store (ways : List Strategy) (ha : a.Valid) (s : Session) :
    (∃ tally, (run noFaults ways .replace s a).1 = .ok tally) ∧
      (run noFaults ways .replace s a).2.store = graphOf ways a := by
  unfold run
  rcases prepare_inv noFaults .replace s with ⟨h, -⟩ | ⟨-, h⟩ | ⟨-, hf, -⟩
  · cases h
  · rw [h]
    exact ⟨⟨_, rfl⟩, write_store ha _⟩
  · exact absurd hf not_hit_noFaults

/-! ## What the graph of an analysis holds -/

/-- A store holds the last resource of each id, and the last relationship of each key whose ends lead to its
    nodes. Confidences are compared as numbers, which have one zero. -/
structure Holds (ways : List Strategy) (a : Analysis) (g : Store) : Prop where
  ids : ∀ id, g.HasNode id ↔ ∃ d ∈ a.resources, Node.stableId d = id
  idsOnce : (g.nodes.map Node.id).Nodup
  nodes : ∀ n ∈ g.nodes, ∃ d, (a.resources.filter (Node.stableId · = n.id)).getLast? = some d ∧ n = .ofDescriptor d
  keys : ∀ k, (∃ e ∈ g.edges, e.key = k) ↔ ∃ d ∈ a.relationships, keyOf? ways g d = some k
  keysOnce : (g.edges.map Edge.key).Nodup
  edges : ∀ e ∈ g.edges, ∃ d, (a.relationships.filter (keyOf? ways g · = some e.key)).getLast? = some d ∧
    e.description = d.description ∧ (e.confidence == d.confidence) = true

theorem edges_graphOf (ways : List Strategy) (a : Analysis) : (graphOf ways a).edges =
    upsertAll Edge.key [] (a.relationships.filterMap (edge? ways (graphOf ways a))) := by
  have hnodes : edge? ways (graphOf ways a) = edge? ways ⟨nodesOf a, []⟩ := edge?_congr rfl
  rw [hnodes]
  rfl

theorem graphOf_keys (k : Edge.Key) :
    (∃ e ∈ (graphOf ways a).edges, e.key = k) ↔ ∃ d ∈ a.relationships, keyOf? ways (graphOf ways a) d = some k := by
  rw [edges_graphOf, mem_keys_upsertAll_nil]
  simp only [← edge?_key, Option.map_eq_some_iff]
  constructor
  · rintro ⟨e, he, hk⟩
    obtain ⟨d, hd, hed⟩ := List.mem_filterMap.mp he
    exact ⟨d, hd, e, hed, hk⟩
  · rintro ⟨d, hd, e, hed, hk⟩
    exact ⟨e, List.mem_filterMap.mpr ⟨d, hd, hed⟩, hk⟩

theorem graphOf_edges (ha : a.Valid) {e : Edge} (he : e ∈ (graphOf ways a).edges) :
    ∃ d, (a.relationships.filter (keyOf? ways (graphOf ways a) · = some e.key)).getLast? = some d ∧
      e.description = d.description ∧ (e.confidence == d.confidence) = true := by
  rw [edges_graphOf, mem_upsertAll_nil, getLast?_filter_filterMap, Option.bind_eq_some_iff] at he
  obtain ⟨d, hlast, hed⟩ := he
  have hpred : ∀ d, ((edge? ways (graphOf ways a) d).any fun x => x.key = e.key) =
      decide (keyOf? ways (graphOf ways a) d = some e.key) := by
    intro d
    rw [← edge?_key]
    cases edge? ways (graphOf ways a) d <;> simp
  simp only [hpred] at hlast
  obtain ⟨hd, -⟩ := List.mem_filter.mp (List.mem_of_getLast? hlast)
  have hvalid := ha.relationships d hd
  obtain ⟨ends, -, rfl⟩ := Option.map_eq_some_iff.mp hed
  refine ⟨d, hlast, by simp, ?_⟩
  have hconf : (Edge.ofDescriptor ends.1 ends.2 d).confidence = d.confidence := by
    rw [Edge.ofDescriptor_confidence, Edge.clamp_of_isValid hvalid]
  have hstored := stored_confidence (e := .ofDescriptor ends.1 ends.2 d) (by rw [hconf]; exact d.isValid_isNaN hvalid)
  rwa [hconf] at hstored

/-- The graph of a valid analysis holds the last resources and relationships. -/
theorem graphOf_holds (ha : a.Valid) : Holds ways a (graphOf ways a) where
  ids id := by
    refine mem_keys_upsertAll_nil.trans ⟨?_, ?_⟩
    · rintro ⟨n, hn, rfl⟩
      obtain ⟨d, hd, rfl⟩ := List.mem_map.mp hn
      exact ⟨d, hd, rfl⟩
    · rintro ⟨d, hd, rfl⟩
      exact ⟨.ofDescriptor d, List.mem_map_of_mem hd, rfl⟩
  idsOnce := (Ascending.upsertAll .nil).nodup_keys
  nodes n hn := by
    have hlast := mem_upsertAll_nil.mp hn
    rw [List.filter_map, List.getLast?_map] at hlast
    obtain ⟨d, hlast, rfl⟩ := Option.map_eq_some_iff.mp hlast
    exact ⟨d, hlast, rfl⟩
  keys := graphOf_keys
  keysOnce := (Ascending.upsertAll .nil).nodup_keys
  edges _ he := graphOf_edges ha he

/-- A run that replaces the graph, where no call fails, leaves what the analysis holds, whatever was stored
    before. -/
theorem run_replace_holds (ways : List Strategy) (ha : a.Valid) (s : Session) :
    (∃ tally, (run noFaults ways .replace s a).1 = .ok tally) ∧
      Holds ways a (run noFaults ways .replace s a).2.store ∧
      ∀ s', (run noFaults ways .replace s' a).2.store = (run noFaults ways .replace s a).2.store := by
  obtain ⟨hok, hstore⟩ := run_replace_store ways ha s
  refine ⟨hok, ?_, fun s' => ?_⟩
  · rw [hstore]
    exact graphOf_holds ha
  · rw [hstore, (run_replace_store ways ha s').2]

/-- Two resources of one id, of which the second gives another type, and a relationship from it to itself. -/
def renamed : Analysis :=
  ⟨[⟨some "a", some "b", none, none, .null⟩, ⟨some " a ", some "c", none, none, .null⟩], [⟨"a", "a", "uses", "", 1.0⟩]⟩

/-- The relationship finds the node that the second resource leaves. -/
theorem run_replace_renamed : renamed.Valid ∧
    Holds Strategy.all renamed (run noFaults Strategy.all .replace (.start .empty) renamed).2.store ∧
    (run noFaults Strategy.all .replace (.start .empty) renamed).2.store.nodes =
      [.ofDescriptor ⟨some " a ", some "c", none, none, .null⟩] ∧
    (run noFaults Strategy.all .replace (.start .empty) renamed).2.store.edges.map Edge.key = [⟨"a", "a", "USES"⟩] := by
  have valid : renamed.Valid := ⟨by decide, by decide⟩
  have stored := (run_replace_store Strategy.all valid (.start .empty)).2
  have nodes : (graphOf Strategy.all renamed).nodes = [.ofDescriptor ⟨some " a ", some "c", none, none, .null⟩] := by
    decide +kernel
  have keys : (graphOf Strategy.all renamed).edges.map Edge.key = [⟨"a", "a", "USES"⟩] := by decide +kernel
  refine ⟨valid, (run_replace_holds Strategy.all valid (.start .empty)).2.1, ?_, ?_⟩
  · rw [stored, nodes]
  · rw [stored, keys]

end Replace

end Materialize

end ResourceGraph
