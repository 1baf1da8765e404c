import ResourceGraph.Proofs.Graph.Merge

/-! # The order of records

Where no call fails, the graph does not depend on the order of resources that have different ids, and of the
relationships it depends only in which one of those with the same key gives the edge its description and its
confidence: nodes, keys and numbers stay the same (`run_perm`).

Relationships are looked up among nodes that none of them changes, so what each of them adds to the graph and to
the numbers is the same wherever it stands. `Linked` says what a list of them adds, in terms that a permutation of
the list leaves as they are. -/

namespace ResourceGraph.Materialize
open Store Sorted

/-! ## Runs without failing calls -/

section Views
variable {ways : List Strategy} {a : Analysis} {p : Progress} {d : RelationshipDescriptor}

/-- The numbers and the graph that a run has come to, by whatever calls. -/
def Progress.view (p : Progress) : Tally × Store := (p.tally, p.session.store)

/-- What writing one relationship comes to where no call fails. -/
def link (ways : List Strategy) (v : Tally × Store) (d : RelationshipDescriptor) : Tally × Store :=
  let t := { v.1 with resolvedBy := waysOf ways v.2 d ++ v.1.resolvedBy }
  match ends? ways v.2 d with
  | none => ({ t with edgesUnresolved := t.edgesUnresolved + 1 }, v.2)
  | some (source, target) =>
    match v.2.putEdge (.ofDescriptor source target d) with
    | .ok g => ({ t with edgesWritten := t.edgesWritten + 1 }, g)
    | .error _ => ({ t with edgesFailed := t.edgesFailed + 1 }, v.2)

theorem view_writeEdge (ways : List Strategy) (p : Progress) (d : RelationshipDescriptor) :
    (writeEdge noFaults ways p d).view = link ways p.view d := by
  unfold link Progress.view
  dsimp only
  split
  · rename_i hends
    obtain ⟨hstore, htally⟩ := writeEdge_noFaults_of_none hends
    rw [hstore, htally]
  · rename_i source target hends
    split
    · rename_i g hput
      obtain ⟨hstore, htally⟩ := writeEdge_noFaults_of_some hends hput
      rw [hstore, htally]
    · rename_i e hput
      obtain ⟨hstore, htally⟩ := writeEdge_noFaults_of_refused hends hput
      rw [hstore, htally]

theorem view_foldl_writeEdge (ways : List Strategy) (p : Progress) (ds : List RelationshipDescriptor) :
    (ds.foldl (writeEdge noFaults ways) p).view = ds.foldl (link ways) p.view :=
  (List.foldl_hom Progress.view fun p d => (view_writeEdge ways p d).symm).symm

theorem view_foldl_writeNode (p : Progress) (ds : List ResourceDescriptor) :
    (ds.foldl (writeNode noFaults) p).view =
      ({ p.tally with nodesWritten := p.tally.nodesWritten + ds.length },
       { p.session.store with nodes := upsertAll Node.id p.session.store.nodes (ds.map .ofDescriptor) }) := by
  unfold Progress.view
  rw [foldl_writeNode_tally, foldl_writeNode_store]

/-- Making the indexes adds to the numbers only. -/
theorem view_writeIndexes (p : Progress) :
    (writeIndexes noFaults p).view = ({ p.tally with indexesCreated := indexCount }, p.session.store) := rfl

theorem view_write (ways : List Strategy) (p : Progress) (a : Analysis) :
    (write noFaults ways p a).view =
      ({ (a.relationships.foldl (link ways) (a.resources.foldl (writeNode noFaults) p).view).1 with
          indexesCreated := indexCount },
       (a.relationships.foldl (link ways) (a.resources.foldl (writeNode noFaults) p).view).2) := by
  rw [← view_foldl_writeEdge]
  exact view_writeIndexes _

/-- Where no call fails, a run ends, and it begins with the same numbers and the same graph for all analyses. -/
theorem run_noFaults (ways : List Strategy) (mode : Mode) (s : Session) : ∃ start, ∀ a,
    run noFaults ways mode s a = (.ok (write noFaults ways start a).tally, (write noFaults ways start a).session) := by
  obtain ⟨tally, t, hprep⟩ := prepare_noFaults mode s
  refine ⟨⟨tally, t⟩, fun a => ?_⟩
  unfold run
  rw [hprep]

end Views

/-! ## Resources -/

/-- Resources of different ids can be written in any order. -/
theorem view_write_resources (ways : List Strategy) (p : Progress) {a : Analysis} {rs : List ResourceDescriptor}
    (hperm : rs.Perm a.resources) (hids : (a.resources.map Node.stableId).Nodup) :
    (write noFaults ways p ⟨rs, a.relationships⟩).view = (write noFaults ways p a).view := by
  have hkeys : ((rs.map Node.ofDescriptor).map Node.id).Nodup := by
    rw [List.map_map]
    exact (hperm.map Node.stableId).nodup_iff.mpr hids
  have hnodes : (rs.foldl (writeNode noFaults) p).view = (a.resources.foldl (writeNode noFaults) p).view := by
    rw [view_foldl_writeNode, view_foldl_writeNode, hperm.length_eq, upsertAll_perm (hperm.map _) hkeys]
  rw [view_write, view_write]
  dsimp only
  rw [hnodes]

/-! ## Relationships -/

section Links
variable {ways : List Strategy} {v w u : Tally × Store} {g h : Store} {ds ds' : List RelationshipDescriptor}

/-- The key under which a relationship is stored. It has none if an end leads nowhere, or if its confidence is no
    number. -/
def storedKey? (ways : List Strategy) (g : Store) (d : RelationshipDescriptor) : Option Edge.Key :=
  (keyOf? ways g d).filter fun _ => !(Edge.clamp d.confidence).isNaN

/-- What some relationships add to a graph and to the numbers when they are written, in whatever order. -/
structure Linked (ways : List Strategy) (ds : List RelationshipDescriptor) (v w : Tally × Store) : Prop where
  nodes : w.2.nodes = v.2.nodes
  keys : ∀ k, w.2.HasEdge k ↔ v.2.HasEdge k ∨ ∃ d ∈ ds, storedKey? ways v.2 d = some k
  written : w.1.edgesWritten = v.1.edgesWritten + ds.countP fun d => (storedKey? ways v.2 d).isSome
  unresolved : w.1.edgesUnresolved = v.1.edgesUnresolved + ds.countP fun d => (keyOf? ways v.2 d).isNone
  resolvedBy : w.1.resolvedBy.Perm (ds.flatMap (waysOf ways v.2) ++ v.1.resolvedBy)

theorem storedKey?_congr (hnodes : g.nodes = h.nodes) : storedKey? ways g = storedKey? ways h := by
  funext d
  unfold storedKey?
  rw [keyOf?_congr hnodes]

theorem Linked.refl (ways : List Strategy) (v : Tally × Store) : Linked ways [] v v :=
  ⟨rfl, fun k => by simp, rfl, rfl, .refl _⟩

theorem Linked.trans (h₁ : Linked ways ds v w) (h₂ : Linked ways ds' w u) : Linked ways (ds ++ ds') v u := by
  -- All are looked up among the nodes that there were at first.
  have hstored : storedKey? ways w.2 = storedKey? ways v.2 := storedKey?_congr h₁.nodes
  have hkey : keyOf? ways w.2 = keyOf? ways v.2 := funext fun d => keyOf?_congr h₁.nodes d
  have hways : waysOf ways w.2 = waysOf ways v.2 := funext fun d => waysOf_congr h₁.nodes d
  obtain ⟨nodes, keys, written, unresolved, resolvedBy⟩ := h₂
  rw [hstored] at keys written
  rw [hkey] at unresolved
  rw [hways] at resolvedBy
  refine ⟨nodes.trans h₁.nodes, fun k => ?_, ?_, ?_, ?_⟩
  · rw [keys, h₁.keys, or_assoc]
    simp only [List.mem_append, or_and_right, exists_or]
  · rw [written, h₁.written, List.countP_append, Nat.add_assoc]
  · rw [unresolved, h₁.unresolved, List.countP_append, Nat.add_assoc]
  · have hboth := resolvedBy.trans (h₁.resolvedBy.append_left _)
    rw [← List.append_assoc] at hboth
    rw [List.flatMap_append]
    exact hboth.trans (List.perm_append_comm.append_right _)

/-- A permutation of the relationships adds the same. -/
theorem Linked.perm (h : Linked ways ds v w) (hperm : ds.Perm ds') : Linked ways ds' v w where
  nodes := h.nodes
  keys k := by
    rw [h.keys]
    simp only [hperm.mem_iff]
  written := by rw [h.written, hperm.countP_eq]
  unresolved := by rw [h.unresolved, hperm.countP_eq]
  resolvedBy := h.resolvedBy.trans ((hperm.flatMap_right _).append_right _)

theorem linked_link (ways : List Strategy) (v : Tally × Store) (d : RelationshipDescriptor) :
    Linked ways [d] v (link ways v d) := by
  unfold link
  dsimp only
  split
  · rename_i hends
    have hkey : keyOf? ways v.2 d = none := by simp [keyOf?, hends]
    have hstored : storedKey? ways v.2 d = none := by simp [storedKey?, hkey]
    exact ⟨rfl, fun k => by simp [hstored], by simp [hstored], by simp [hkey], by simp⟩
  · rename_i source target hends
    have hkey : keyOf? ways v.2 d = some (Edge.ofDescriptor source target d).key := by
      simp [keyOf?, hends, Edge.key]
    split
    · rename_i g hput
      obtain ⟨hnumber, -⟩ := putEdge_ok hput
      rw [Edge.ofDescriptor_confidence] at hnumber
      have hstored : storedKey? ways v.2 d = some (Edge.ofDescriptor source target d).key := by
        rw [storedKey?, hkey, hnumber]
        rfl
      refine ⟨putEdge_nodes hput, fun k => ?_, by simp [hstored], by simp [hkey], by simp⟩
      rw [hasEdge_putEdge_iff hput]
      simp [hstored]
    · rename_i e hput
      have hnan := putEdge_error hput
      rw [Edge.ofDescriptor_confidence] at hnan
      have hstored : storedKey? ways v.2 d = none := by
        rw [storedKey?, hkey, hnan]
        rfl
      exact ⟨rfl, fun k => by simp [hstored], by simp [hstored], by simp [hkey], by simp⟩

theorem linked_foldl (ways : List Strategy) (ds : List RelationshipDescriptor) (v : Tally × Store) :
    Linked ways ds v (ds.foldl (link ways) v) := by
  induction ds generalizing v with
  | nil => exact .refl ways v
  | cons d ds ih => exact (linked_link ways v d).trans (ih _)

/-- Two graphs with their numbers agree in all but what the edges say. -/
structure Alike (v w : Tally × Store) : Prop where
  nodes : w.2.nodes = v.2.nodes
  keys : ∀ k, w.2.HasEdge k ↔ v.2.HasEdge k
  edgesWritten : w.1.edgesWritten = v.1.edgesWritten
  edgesUnresolved : w.1.edgesUnresolved = v.1.edgesUnresolved
  resolutions : w.1.resolutions = v.1.resolutions

theorem Linked.alike (h₁ : Linked ways ds v w) (h₂ : Linked ways ds v u) : Alike w u where
  nodes := h₂.nodes.trans h₁.nodes.symm
  keys k := (h₂.keys k).trans (h₁.keys k).symm
  edgesWritten := h₂.written.trans h₁.written.symm
  edgesUnresolved := h₂.unresolved.trans h₁.unresolved.symm
  resolutions := by
    unfold Tally.resolutions
    simp only [(h₂.resolvedBy.trans h₁.resolvedBy.symm).count_eq]

theorem view_write_relationships (ways : List Strategy) (p : Progress) {a : Analysis}
    (hperm : ds.Perm a.relationships) :
    Alike (write noFaults ways p a).view (write noFaults ways p ⟨a.resources, ds⟩).view := by
  have before := linked_foldl ways a.relationships (a.resources.foldl (writeNode noFaults) p).view
  have behind := linked_foldl ways ds (a.resources.foldl (writeNode noFaults) p).view
  obtain ⟨nodes, keys, written, unresolved, resolutions⟩ := before.alike (behind.perm hperm)
  rw [view_write, view_write]
  exact ⟨nodes, keys, written, unresolved, resolutions⟩

end Links

/-! ## Whole runs -/

section Runs
variable {ways : List Strategy} {mode : Mode} {s : Session} {a : Analysis}

/-- Where no call fails, a run gives the same report and leaves the same graph for any order of resources that have
    different ids. For any order of the relationships it leaves the same nodes and edges of the same keys, and it
    counts the same. -/
theorem run_perm (ways : List Strategy) (mode : Mode) (s : Session) (a : Analysis) :
    (∀ rs : List ResourceDescriptor, rs.Perm a.resources → (a.resources.map Node.stableId).Nodup →
      ∃ tally t t', run noFaults ways mode s a = (.ok tally, t) ∧
        run noFaults ways mode s ⟨rs, a.relationships⟩ = (.ok tally, t') ∧ t'.store = t.store) ∧
    ∀ ds : List RelationshipDescriptor, ds.Perm a.relationships →
      ∃ tally t tally' t', run noFaults ways mode s a = (.ok tally, t) ∧
        run noFaults ways mode s ⟨a.resources, ds⟩ = (.ok tally', t') ∧ Alike (tally, t.store) (tally', t'.store) := by
  obtain ⟨start, hrun⟩ := run_noFaults ways mode s
  refine ⟨fun rs hperm hids => ?_, fun ds hperm => ?_⟩
  · obtain ⟨htally, hstore⟩ := Prod.ext_iff.mp (view_write_resources ways start hperm hids)
    have hsame : (write noFaults ways start ⟨rs, a.relationships⟩).tally = (write noFaults ways start a).tally := htally
    exact ⟨_, _, _, hrun a, by rw [hrun, hsame], hstore⟩
  · exact ⟨_, _, _, _, hrun a, hrun ⟨a.resources, ds⟩, view_write_relationships ways start hperm⟩

/-- Two resources, and two relationships of one key that say different things. -/
def described : Analysis :=
  ⟨[⟨some "a", none, none, none, .null⟩, ⟨some "b", none, none, none, .null⟩],
   [⟨"a", "b", "uses", "first", 0.5⟩, ⟨"a", "b", "Uses", "second", 1.0⟩]⟩

/-- What the only edge says is decided by the order of the relationships, and nothing else is. -/
theorem run_perm_described :
    ((described.resources.map Node.stableId).Nodup ∧
      ∃ tally t t', run noFaults Strategy.all .merge (.start .empty) described = (.ok tally, t) ∧
        run noFaults Strategy.all .merge (.start .empty) ⟨described.resources.reverse, described.relationships⟩ =
          (.ok tally, t') ∧ t'.store = t.store) ∧
    ∃ tally t tally' t', run noFaults Strategy.all .merge (.start .empty) described = (.ok tally, t) ∧
      run noFaults Strategy.all .merge (.start .empty) ⟨described.resources, described.relationships.reverse⟩ =
        (.ok tally', t') ∧
      Alike (tally, t.store) (tally', t'.store) ∧ t.store.edges.map Edge.description = ["second"] ∧
      t'.store.edges.map Edge.description = ["first"] := by
  obtain ⟨resources, relationships⟩ := run_perm Strategy.all .merge (.start .empty) described
  have ids : (described.resources.map Node.stableId).Nodup := by decide +kernel
  have last : (run noFaults Strategy.all .merge (.start .empty) described).2.store.edges.map Edge.description =
      ["second"] := by decide +kernel
  have first : (run noFaults Strategy.all .merge (.start .empty)
      ⟨described.resources, described.relationships.reverse⟩).2.store.edges.map Edge.description = ["first"] := by
    decide +kernel
  obtain ⟨tally, t, tally', t', hrun, hrun', alike⟩ := relationships _ (List.reverse_perm _)
  rw [hrun] at last
  rw [hrun'] at first
  exact ⟨⟨ids, resources _ (List.reverse_perm _) ids⟩, tally, t, tally', t', hrun, hrun', alike, last, first⟩

end Runs

end ResourceGraph.Materialize
