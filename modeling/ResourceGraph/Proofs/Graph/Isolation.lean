import ResourceGraph.Proofs.Graph.Integrity
import ResourceGraph.Proofs.Graph.Tallies

/-! # A failing call costs one record

Calls that fail cost a run the records that it counts as failed, and nothing else: the run leaves the graph that
a run without failing calls makes of the other records.

The two runs are compared record by record. Their graphs stay equal: a record that is counted as failed has
changed nothing and is left out of the second run, and every other record does what it does where no call
fails. -/

namespace ResourceGraph.Materialize
open Store

/-! ### Records that are not counted as failed -/

/-- The records of a list that add nothing to a count when all of them are written in order. -/
def uncounted {α : Type} (count : Tally → Nat) (write : Progress → α → Progress) (p : Progress) : List α → List α
  | [] => []
  | d :: ds =>
    let rest := uncounted count write (write p d) ds
    if count (write p d).tally = count p.tally then d :: rest else rest

/-- What an analyzer found, without the resources and the relationships that are counted as failed when it is
    written. -/
def unfailedFrom (faults : Faults) (ways : List Strategy) (p : Progress) (a : Analysis) : Analysis where
  resources := uncounted Tally.nodesFailed (writeNode faults) p a.resources
  relationships := uncounted Tally.edgesFailed (writeEdge faults ways) (a.resources.foldl (writeNode faults) p)
    a.relationships

/-- What an analyzer found, without the resources and the relationships that a run counts as failed. -/
def unfailed (faults : Faults) (ways : List Strategy) (mode : Mode) (s : Session) (a : Analysis) : Analysis :=
  match prepare faults mode s with
  | (.error _, _) => a
  | (.ok tally, t) => unfailedFrom faults ways ⟨tally, t⟩ a

theorem uncounted_sublist {α : Type} (count : Tally → Nat) (write : Progress → α → Progress) (p : Progress)
    (ds : List α) : (uncounted count write p ds).Sublist ds := by
  induction ds generalizing p with
  | nil => exact .refl _
  | cons d ds ih =>
    unfold uncounted
    dsimp only
    split
    · exact (ih (write p d)).cons_cons d
    · exact (ih (write p d)).cons d

/-! ### Two runs side by side -/

/-- Two runs with the same graph, of which the second has seen no failure. -/
structure Twins (p q : Progress) : Prop where
  store : p.session.store = q.session.store
  nodesFailed : q.tally.nodesFailed = 0
  edgesFailed : q.tally.edgesFailed = 0

section Steps
variable {faults : Faults} {ways : List Strategy} {p q : Progress}

theorem writeNode_twins (faults : Faults) (h : Twins p q) (d : ResourceDescriptor) :
    ((writeNode faults p d).tally.nodesFailed = p.tally.nodesFailed ∧
        Twins (writeNode faults p d) (writeNode noFaults q d)) ∨
      ((writeNode faults p d).tally.nodesFailed = p.tally.nodesFailed + 1 ∧ Twins (writeNode faults p d) q) := by
  rcases writeNode_inv faults p d with heq | ⟨-, heq⟩
  · rw [heq, writeNode_noFaults]
    exact Or.inl ⟨rfl, by rw [h.store], h.nodesFailed, h.edgesFailed⟩
  · rw [heq]
    exact Or.inr ⟨rfl, h.store, h.nodesFailed, h.edgesFailed⟩

theorem writeEdge_twins (faults : Faults) (ways : List Strategy) (h : Twins p q) (d : RelationshipDescriptor) :
    ((writeEdge faults ways p d).tally.edgesFailed = p.tally.edgesFailed ∧
        Twins (writeEdge faults ways p d) (writeEdge noFaults ways q d)) ∨
      ((writeEdge faults ways p d).tally.edgesFailed = p.tally.edgesFailed + 1 ∧
        Twins (writeEdge faults ways p d) q) := by
  rcases writeEdge_inv faults ways p d with ⟨hends, htrail, htally⟩ |
    ⟨source, target, g, t, hends, hput, -, hsession, htally⟩ | ⟨-, htrail, found, -, htally⟩
  · -- The relationship is unresolved in both runs.
    rw [h.store] at hends
    obtain ⟨hstore', htally'⟩ := writeEdge_noFaults_of_none hends
    refine Or.inl ⟨by rw [htally], ?_, by rw [htally']; exact h.nodesFailed, by rw [htally']; exact h.edgesFailed⟩
    rw [htrail.store_eq, hstore', h.store]
  · -- Both runs store the same edge.
    rw [h.store] at hends hput
    obtain ⟨hstore', htally'⟩ := writeEdge_noFaults_of_some hends hput
    refine Or.inl ⟨by rw [htally], ?_, by rw [htally']; exact h.nodesFailed, by rw [htally']; exact h.edgesFailed⟩
    rw [hsession, hstore']
  · refine Or.inr ⟨by rw [htally], ?_, h.nodesFailed, h.edgesFailed⟩
    rw [htrail.store_eq, h.store]

/-- Writing many records in one run, and those of them that it does not count as failed in the other. -/
theorem foldl_twins {α : Type} {count : Tally → Nat} {write write' : Progress → α → Progress}
    (step : ∀ {p q}, Twins p q → ∀ d, (count (write p d).tally = count p.tally ∧ Twins (write p d) (write' q d)) ∨
      (count (write p d).tally = count p.tally + 1 ∧ Twins (write p d) q))
    (h : Twins p q) (ds : List α) :
    Twins (ds.foldl write p) ((uncounted count write p ds).foldl write' q) ∧
      (uncounted count write p ds).length + count (ds.foldl write p).tally = ds.length + count p.tally := by
  induction ds generalizing p q with
  | nil => exact ⟨h, rfl⟩
  | cons d ds ih =>
    unfold uncounted
    dsimp only
    rw [List.foldl_cons, List.length_cons]
    rcases step h d with ⟨hsame, htwins⟩ | ⟨hmore, htwins⟩
    · obtain ⟨hrest, hlen⟩ := ih htwins
      rw [if_pos hsame, List.foldl_cons, List.length_cons]
      exact ⟨hrest, by omega⟩
    · obtain ⟨hrest, hlen⟩ := ih htwins
      rw [if_neg (by omega)]
      exact ⟨hrest, by omega⟩

end Steps

/-! ### Whole runs -/

section Runs
variable {faults : Faults} {ways : List Strategy} {mode : Mode} {s : Session} {p q : Progress}

/-- Whether clearing the graph fails is all that the beginning of a run depends on. -/
theorem prepare_eq_noFaults (hclear : mode = .replace → faults s.past.length .clear = none) :
    prepare faults mode s = prepare noFaults mode s := by
  cases mode with
  | merge => rfl
  | replace =>
    unfold prepare Session.clear Session.call
    rw [hclear rfl]
    rfl

theorem writeNode_edgesFailed (p : Progress) (d : ResourceDescriptor) :
    (writeNode faults p d).tally.edgesFailed = p.tally.edgesFailed := by
  rcases writeNode_inv faults p d with heq | ⟨-, heq⟩ <;> rw [heq]

theorem writeEdge_nodesFailed (p : Progress) (d : RelationshipDescriptor) :
    (writeEdge faults ways p d).tally.nodesFailed = p.tally.nodesFailed := by
  rcases writeEdge_inv faults ways p d with ⟨-, -, heq⟩ | ⟨_, _, _, _, -, -, -, -, heq⟩ | ⟨-, -, _, -, heq⟩ <;> rw [heq]

theorem writeIndexes_nodesFailed (p : Progress) : (writeIndexes faults p).tally.nodesFailed = p.tally.nodesFailed := by
  unfold writeIndexes
  split <;> rfl

theorem writeIndexes_edgesFailed (p : Progress) : (writeIndexes faults p).tally.edgesFailed = p.tally.edgesFailed := by
  unfold writeIndexes
  split <;> rfl

/-- Some records of an analysis are left out, as many as are counted as failed. -/
structure Reduced (a : Analysis) (tally : Tally) (rest : Analysis) : Prop where
  resources : rest.resources.Sublist a.resources
  nodesFailed : rest.resources.length + tally.nodesFailed = a.resources.length
  relationships : rest.relationships.Sublist a.relationships
  edgesFailed : rest.relationships.length + tally.edgesFailed = a.relationships.length

theorem writeIndexes_twins (h : Twins p q) : Twins (writeIndexes faults p) (writeIndexes noFaults q) where
  store := by rw [(writeIndexes_trail faults p).store_eq, (writeIndexes_trail noFaults q).store_eq, h.store]
  nodesFailed := by rw [← h.nodesFailed, writeIndexes_nodesFailed]
  edgesFailed := by rw [← h.edgesFailed, writeIndexes_edgesFailed]

/-- Writing everything in one run, and in the other one all that is not counted as failed. -/
theorem write_twins (faults : Faults) (ways : List Strategy) (a : Analysis) (h : Twins p q)
    (hp : p.tally.nodesFailed = 0 ∧ p.tally.edgesFailed = 0) :
    Twins (write faults ways p a) (write noFaults ways q (unfailedFrom faults ways p a)) ∧
      Reduced a (write faults ways p a).tally (unfailedFrom faults ways p a) := by
  obtain ⟨nodes, nodesCount⟩ := foldl_twins (writeNode_twins faults) h a.resources
  obtain ⟨edges, edgesCount⟩ := foldl_twins (writeEdge_twins faults ways) nodes a.relationships
  -- Writing the relationships adds no failed resource, and the other way round.
  have nodesFailed : (write faults ways p a).tally.nodesFailed =
      (a.resources.foldl (writeNode faults) p).tally.nodesFailed :=
    (writeIndexes_nodesFailed _).trans (foldl_unchanged (f := fun p => p.tally.nodesFailed) writeEdge_nodesFailed _ _)
  have edgesFailed : (a.resources.foldl (writeNode faults) p).tally.edgesFailed = 0 :=
    (foldl_unchanged (f := fun p => p.tally.edgesFailed) writeNode_edgesFailed _ _).trans hp.2
  refine ⟨writeIndexes_twins edges, uncounted_sublist _ _ _ _, ?_, uncounted_sublist _ _ _ _, ?_⟩
  · rw [nodesFailed]
    exact nodesCount.trans (by rw [hp.1, Nat.add_zero])
  · unfold write
    rw [writeIndexes_edgesFailed]
    exact edgesCount.trans (by rw [edgesFailed, Nat.add_zero])

/-- A run whose calls may fail, except for clearing the graph, ends with the graph that a run without failing
    calls makes of all records but those that the first one counts as failed. -/
theorem run_isolates (faults : Faults) (ways : List Strategy) (mode : Mode) (s : Session) (a : Analysis)
    (hclear : mode = .replace → faults s.past.length .clear = none) :
    ∃ tally t tally' t', run faults ways mode s a = (.ok tally, t) ∧
      run noFaults ways mode s (unfailed faults ways mode s a) = (.ok tally', t') ∧
      t.store = t'.store ∧ tally'.nodesFailed = 0 ∧ tally'.edgesFailed = 0 ∧
      Reduced a tally (unfailed faults ways mode s a) := by
  obtain ⟨start, s', hprep'⟩ := prepare_noFaults mode s
  have hprep : prepare faults mode s = (.ok start, s') := by rw [prepare_eq_noFaults hclear, hprep']
  have zero : start.nodesFailed = 0 ∧ start.edgesFailed = 0 := by
    have counts := Tally.Counts.prepare hprep
    have nodes := counts.nodes
    have edges := counts.edges
    omega
  have atStart : Twins ⟨start, s'⟩ ⟨start, s'⟩ := ⟨rfl, zero.1, zero.2⟩
  obtain ⟨twins, reduced⟩ := write_twins faults ways a atStart zero
  have hrest : unfailed faults ways mode s a = unfailedFrom faults ways ⟨start, s'⟩ a := by
    unfold unfailed
    rw [hprep]
  rw [hrest]
  exact ⟨_, _, _, _, by unfold run; rw [hprep], by unfold run; rw [hprep'], twins.store, twins.nodesFailed,
    twins.edgesFailed, reduced⟩

/-- The second resource of `uses` is not stored, so its second relationship leads nowhere. -/
theorem run_isolates_uses :
    ((unfailed thirdFails Strategy.all .replace (.start .empty) uses).resources.length,
      (unfailed thirdFails Strategy.all .replace (.start .empty) uses).relationships.length) = (1, 2) ∧
    (run thirdFails Strategy.all .replace (.start .empty) uses).2.store =
      (run noFaults Strategy.all .replace (.start .empty)
        (unfailed thirdFails Strategy.all .replace (.start .empty) uses)).2.store := by
  obtain ⟨tally, t, tally', t', hrun, hrun', hstore, -⟩ :=
    run_isolates thirdFails Strategy.all .replace (.start .empty) uses fun _ => rfl
  refine ⟨by decide +kernel, ?_⟩
  rw [hrun, hrun']
  exact hstore

end Runs

end ResourceGraph.Materialize
