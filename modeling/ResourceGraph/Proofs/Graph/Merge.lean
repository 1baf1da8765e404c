import ResourceGraph.Proofs.Graph.Integrity
import ResourceGraph.Proofs.Graph.Replace

/-! # Merging into the graph

A run that merges keeps all ids and all keys, and it touches no more than it is told to: a node changes only if a
resource has its id, and an edge only if the run finds its key for a relationship (`merge_keeps`).

Where no call fails, merging the same records again changes nothing (`merge_idempotent`). Storing elements again
gives the list that is there, so the relationships of the second run are looked up among the same nodes. -/

namespace ResourceGraph.Materialize
open Store Sorted

/-! ## What is kept -/

section Kept
variable {faults : Faults} {ways : List Strategy} {a : Analysis} {s : Session} {p : Progress}

/-- The key of the edge for a relationship whose two ends are found by calls that may fail. -/
def foundKey? (faults : Faults) (ways : List Strategy) (p : Progress) (d : RelationshipDescriptor) : Option Edge.Key :=
  match findEnds faults ways p d with
  | (.ok (some (source, target)), _) => some ⟨source, target, relationshipType d.type⟩
  | _ => none

/-- The keys that are found for relationships when these are written in order. -/
def foundKeys (faults : Faults) (ways : List Strategy) (p : Progress) : List RelationshipDescriptor → List Edge.Key
  | [] => []
  | d :: ds => (foundKey? faults ways p d).toList ++ foundKeys faults ways (writeEdge faults ways p d) ds

/-- A key that is found is the one that the two ends lead to. -/
theorem foundKey?_eq_some {k : Edge.Key} {d : RelationshipDescriptor} (h : foundKey? faults ways p d = some k) :
    keyOf? ways p.session.store d = some k := by
  unfold foundKey? at h
  split at h
  · rename_i source target q hends
    cases h
    obtain ⟨hx, -⟩ := findEnds_ok hends
    unfold keyOf?
    rw [← hx]
    rfl
  · cases h

/-- The keys that are found are those of relationships among the nodes, which stay the same. -/
theorem keyOf?_of_mem_foundKeys {k : Edge.Key} {ds : List RelationshipDescriptor}
    (h : k ∈ foundKeys faults ways p ds) : ∃ d ∈ ds, keyOf? ways p.session.store d = some k := by
  induction ds generalizing p with
  | nil => cases h
  | cons d ds ih =>
    rcases List.mem_append.mp h with h | h
    · exact ⟨d, List.mem_cons_self, foundKey?_eq_some (Option.mem_toList.mp h)⟩
    · obtain ⟨d', hd', hkey⟩ := ih h
      rw [keyOf?_congr (writeEdge_nodes faults ways p d)] at hkey
      exact ⟨d', List.mem_cons_of_mem _ hd', hkey⟩

theorem mem_edges_writeEdge {e : Edge} {d : RelationshipDescriptor} (h : foundKey? faults ways p d ≠ some e.key) :
    e ∈ (writeEdge faults ways p d).session.store.edges ↔ e ∈ p.session.store.edges := by
  unfold foundKey? at h
  unfold writeEdge
  split
  · rename_i q hends
    have hstore : q.session.store = p.session.store := (findEnds_error hends).2.1.store_eq
    exact Iff.of_eq (by rw [← hstore]; rfl)
  · rename_i q hends
    have hstore : q.session.store = p.session.store := (findEnds_ok hends).2.1.store_eq
    exact Iff.of_eq (by rw [← hstore])
  · rename_i source target q hends
    have hstore : q.session.store = p.session.store := (findEnds_ok hends).2.1.store_eq
    rw [hends] at h
    split
    · rename_i t hput
      obtain ⟨g, hg, rfl⟩ := Session.putEdge_ok hput
      rw [← hstore]
      exact mem_putEdge_iff hg fun hkey => h (by rw [hkey]; rfl)
    · rename_i err t hput
      obtain ⟨-, rfl⟩ := Session.putEdge_error hput
      rw [← hstore]
      exact Iff.rfl

theorem mem_edges_foldl_writeEdge {e : Edge} {ds : List RelationshipDescriptor}
    (h : e.key ∉ foundKeys faults ways p ds) :
    e ∈ (ds.foldl (writeEdge faults ways) p).session.store.edges ↔ e ∈ p.session.store.edges := by
  induction ds generalizing p with
  | nil => exact Iff.rfl
  | cons d ds ih =>
    unfold foundKeys at h
    rw [List.mem_append, not_or] at h
    obtain ⟨hd, hds⟩ := h
    rw [List.foldl_cons, ih hds]
    exact mem_edges_writeEdge fun hkey => hd (by rw [hkey]; exact List.mem_singleton_self _)

theorem mem_nodes_foldl_writeNode {n : Node} {ds : List ResourceDescriptor} (h : n.id ∉ ds.map Node.stableId) :
    n ∈ (ds.foldl (writeNode faults) p).session.store.nodes ↔ n ∈ p.session.store.nodes := by
  induction ds generalizing p with
  | nil => exact Iff.rfl
  | cons d ds ih =>
    rw [List.map_cons, List.mem_cons, not_or] at h
    obtain ⟨hd, hds⟩ := h
    rw [List.foldl_cons, ih hds]
    rcases writeNode_inv faults p d with heq | ⟨-, heq⟩
    · rw [heq]
      exact mem_putNode_iff hd
    · rw [heq]

theorem edges_writeNode (faults : Faults) (p : Progress) (d : ResourceDescriptor) :
    (writeNode faults p d).session.store.edges = p.session.store.edges := by
  rcases writeNode_inv faults p d with heq | ⟨-, heq⟩
  · rw [heq]
    rfl
  · rw [heq]

/-- The keys that a merging run finds for the relationships that it writes. -/
def mergedKeys (faults : Faults) (ways : List Strategy) (s : Session) (a : Analysis) : List Edge.Key :=
  foundKeys faults ways (a.resources.foldl (writeNode faults) ⟨.start .merge, s⟩) a.relationships

/-- A graph holds what another one held, up to the nodes of some ids and the edges of some keys. These are
    stored still, but other nodes and edges may have taken their places. -/
structure Kept (ids : List String) (keys : List Edge.Key) (g h : Store) : Prop where
  hasNode : ∀ id, g.HasNode id → h.HasNode id
  hasEdge : ∀ k, g.HasEdge k → h.HasEdge k
  nodes : ∀ n, n.id ∉ ids → (n ∈ h.nodes ↔ n ∈ g.nodes)
  edges : ∀ e, e.key ∉ keys → (e ∈ h.edges ↔ e ∈ g.edges)

/-- Whichever calls fail, a run that merges keeps all ids and keys. It leaves the nodes whose id no resource has
    and the edges whose key it does not find for any relationship. It finds the keys that the ends of relationships
    lead to among the nodes that it leaves. -/
theorem merge_keeps (faults : Faults) (ways : List Strategy) (s : Session) (a : Analysis) :
    Kept (a.resources.map Node.stableId) (mergedKeys faults ways s a) s.store (run faults ways .merge s a).2.store ∧
      ∀ k ∈ mergedKeys faults ways s a,
        ∃ d ∈ a.relationships, keyOf? ways (run faults ways .merge s a).2.store d = some k := by
  have htrail := run_trail faults ways .merge s a
  have hstore : (run faults ways .merge s a).2.store =
      (a.relationships.foldl (writeEdge faults ways)
        (a.resources.foldl (writeNode faults) ⟨.start .merge, s⟩)).session.store := store_write faults ways _ a
  have hnodes := foldl_writeEdge_nodes faults ways a.relationships
    (a.resources.foldl (writeNode faults) ⟨.start .merge, s⟩)
  refine ⟨⟨?_, ?_, ?_, ?_⟩, ?_⟩
  · exact fun id hid => htrail.keeps_store (fun _ _ => Move.hasNode) hid
  · exact fun k hk => htrail.keeps_store (fun _ _ => Move.hasEdge) hk
  · intro n hn
    rw [hstore, hnodes, mem_nodes_foldl_writeNode hn]
  · intro e he
    have hedges := foldl_unchanged (f := fun p => p.session.store.edges) (edges_writeNode faults) a.resources
      ⟨.start .merge, s⟩
    rw [hstore, mem_edges_foldl_writeEdge he, hedges]
  · intro k hk
    obtain ⟨d, hd, hkey⟩ := keyOf?_of_mem_foundKeys hk
    refine ⟨d, hd, ?_⟩
    rw [hstore, keyOf?_congr hnodes]
    exact hkey

/-- The graph with two nodes of which the first uses itself and the second. -/
def graphOfUses : Store := graphOf Strategy.all uses

/-- The search for the end of the only relationship fails, so both edges of the graph stay as they are, and so does
    the node that no resource renames. -/
theorem merge_keeps_renamed :
    (∀ e ∈ graphOfUses.edges, e ∈ (run thirdFails Strategy.all .merge (.start graphOfUses) renamed).2.store.edges) ∧
      ∀ n ∈ graphOfUses.nodes, n.id = "b" →
        n ∈ (run thirdFails Strategy.all .merge (.start graphOfUses) renamed).2.store.nodes := by
  have kept := (merge_keeps thirdFails Strategy.all (.start graphOfUses) renamed).1
  have none : mergedKeys thirdFails Strategy.all (.start graphOfUses) renamed = [] := by decide +kernel
  refine ⟨fun e he => (kept.edges e ?_).mpr he, fun n hn hid => (kept.nodes n ?_).mpr hn⟩
  · rw [none]
    exact List.not_mem_nil
  · rw [hid]
    decide +kernel

end Kept

/-! ## Merging again -/

section Again
variable {ways : List Strategy} {a : Analysis} {p : Progress}

/-- The numbers behind one more relationship, where no call fails. -/
def countEdge (ways : List Strategy) (g : Store) (t : Tally) (d : RelationshipDescriptor) : Tally :=
  match ends? ways g d with
  | none => { t with
      edgesUnresolved := t.edgesUnresolved + 1
      resolvedBy := waysOf ways g d ++ t.resolvedBy }
  | some _ => { t with
      edgesWritten := t.edgesWritten + 1
      resolvedBy := waysOf ways g d ++ t.resolvedBy }

theorem waysOf_congr {g h : Store} (hnodes : g.nodes = h.nodes) (d : RelationshipDescriptor) :
    waysOf ways g d = waysOf ways h d := by
  unfold waysOf wayOf
  rw [find?_congr hnodes, find?_congr hnodes]

theorem countEdge_congr {g h : Store} (hnodes : g.nodes = h.nodes) : countEdge ways g = countEdge ways h := by
  funext t d
  unfold countEdge
  rw [ends?_congr hnodes, waysOf_congr hnodes]

theorem writeEdge_tally {d : RelationshipDescriptor} (hd : d.isValid = true) :
    (writeEdge noFaults ways p d).tally = countEdge ways p.session.store p.tally d := by
  unfold countEdge
  cases hends : ends? ways p.session.store d with
  | none => exact (writeEdge_noFaults_of_none hends).2
  | some ends => exact (writeEdge_noFaults_of_some hends (putEdge_of_isValid _ _ _ hd)).2

theorem foldl_writeEdge_tally (ways : List Strategy) {ds : List RelationshipDescriptor}
    (hds : ∀ d ∈ ds, d.isValid = true) (p : Progress) :
    (ds.foldl (writeEdge noFaults ways) p).tally = ds.foldl (countEdge ways p.session.store) p.tally := by
  induction ds generalizing p with
  | nil => rfl
  | cons d ds ih =>
    rw [List.foldl_cons, List.foldl_cons, ih fun d' hd' => hds d' (List.mem_cons_of_mem _ hd'),
      writeEdge_tally (hds d List.mem_cons_self), countEdge_congr (writeEdge_nodes noFaults ways p d)]

theorem foldl_writeNode_tally (ds : List ResourceDescriptor) (p : Progress) :
    (ds.foldl (writeNode noFaults) p).tally = { p.tally with nodesWritten := p.tally.nodesWritten + ds.length } := by
  induction ds generalizing p with
  | nil => rfl
  | cons d ds ih =>
    rw [List.foldl_cons, ih, writeNode_noFaults, List.length_cons, Nat.add_comm ds.length, ← Nat.add_assoc]

/-- Where no call fails, the numbers of a run depend on the nodes that the relationships are looked up among, and
    on nothing else that is stored. -/
theorem write_tally (ways : List Strategy) (ha : a.Valid) (p : Progress) : (write noFaults ways p a).tally =
    { a.relationships.foldl (countEdge ways (graphOver ways p.session.store a))
        { p.tally with nodesWritten := p.tally.nodesWritten + a.resources.length } with
      indexesCreated := indexCount } := by
  have hnodes : (a.resources.foldl (writeNode noFaults) p).session.store.nodes =
      (graphOver ways p.session.store a).nodes := by
    rw [foldl_writeNode_store]
    rfl
  have hedges := foldl_writeEdge_tally ways ha.relationships (a.resources.foldl (writeNode noFaults) p)
  rw [foldl_writeNode_tally, countEdge_congr hnodes] at hedges
  rw [← hedges]
  rfl

/-- Writing an analysis over a graph that holds it already changes nothing. -/
theorem graphOver_graphOver (ways : List Strategy) (g : Store) (a : Analysis) :
    graphOver ways (graphOver ways g a) a = graphOver ways g a := by
  have hnodes : nodesOver (graphOver ways g a) a = nodesOver g a := upsertAll_upsertAll
  have hedges : edge? ways ⟨nodesOver g a, (graphOver ways g a).edges⟩ = edge? ways ⟨nodesOver g a, g.edges⟩ :=
    edge?_congr rfl
  have hagain : upsertAll Edge.key (graphOver ways g a).edges
      (a.relationships.filterMap (edge? ways ⟨nodesOver g a, g.edges⟩)) = (graphOver ways g a).edges :=
    upsertAll_upsertAll
  calc graphOver ways (graphOver ways g a) a
      = ⟨nodesOver g a, upsertAll Edge.key (graphOver ways g a).edges
          (a.relationships.filterMap (edge? ways ⟨nodesOver g a, (graphOver ways g a).edges⟩))⟩ := by
        rw [← hnodes]; rfl
    _ = graphOver ways g a := by rw [hedges, hagain]; rfl

/-- The numbers of a run that merges an analysis into a graph, where no call fails. -/
def mergeTally (ways : List Strategy) (g : Store) (a : Analysis) : Tally :=
  { a.relationships.foldl (countEdge ways (graphOver ways g a))
      { Tally.start .merge with nodesWritten := a.resources.length } with
    indexesCreated := indexCount }

theorem run_merge (ways : List Strategy) (ha : a.Valid) (s : Session) :
    ∃ t, run noFaults ways .merge s a = (.ok (mergeTally ways s.store a), t) ∧ t.store = graphOver ways s.store a := by
  refine ⟨(write noFaults ways ⟨.start .merge, s⟩ a).session, ?_, write_store ha _⟩
  have htally := write_tally ways ha ⟨.start .merge, s⟩
  rw [Tally.start, Nat.zero_add] at htally
  unfold mergeTally Tally.start
  rw [← htally]
  rfl

/-- Merging a valid analysis once more, where no call fails, gives the same report and leaves the same graph. -/
theorem merge_idempotent (ways : List Strategy) (ha : a.Valid) (s : Session) :
    ∃ tally t t', run noFaults ways .merge s a = (.ok tally, t) ∧ run noFaults ways .merge t a = (.ok tally, t') ∧
      t'.store = t.store := by
  obtain ⟨t, hrun, hstore⟩ := run_merge ways ha s
  obtain ⟨t', hagain, hstore'⟩ := run_merge ways ha t
  have hsame : graphOver ways t.store a = graphOver ways s.store a := by rw [hstore, graphOver_graphOver]
  have htally : mergeTally ways t.store a = mergeTally ways s.store a := by
    unfold mergeTally
    rw [hsame]
  rw [htally] at hagain
  exact ⟨_, t, t', hrun, hagain, by rw [hstore', hsame, hstore]⟩

/-- The second merge finds the node that the second resource of the first one left. -/
theorem merge_idempotent_renamed : renamed.Valid ∧ ∃ tally t t',
    run noFaults Strategy.all .merge (.start graphOfUses) renamed = (.ok tally, t) ∧
      run noFaults Strategy.all .merge t renamed = (.ok tally, t') ∧ t'.store = t.store := by
  have valid : renamed.Valid := ⟨by decide, by decide⟩
  exact ⟨valid, merge_idempotent Strategy.all valid (.start graphOfUses)⟩

end Again

end ResourceGraph.Materialize
