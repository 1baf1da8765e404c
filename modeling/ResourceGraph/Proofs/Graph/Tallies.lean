import ResourceGraph.Proofs.Graph.Runs
import ResourceGraph.Total

/-! # What a run counts

A run counts every resource once, as written or as failed, and every relationship once, as written, as
unresolved or as failed. It finds at most two ends of a relationship, and both of them if it writes the edge.
Writing one record moves these numbers on by that record (`Counts.writeNode`, `Counts.writeEdge`), however the
calls for it end. -/

namespace ResourceGraph
open Materialize

namespace Tally

/-! ### Ways by which ends were found -/

theorem total_filterMap_nonzero (f : Strategy → Nat) (ways : List Strategy) :
    total ((ways.filterMap fun way => if f way = 0 then none else some (way, f way)).map Prod.snd) =
      total (ways.map f) := by
  induction ways with
  | nil => rfl
  | cons way ways ih =>
    rw [List.filterMap_cons, List.map_cons, total]
    by_cases hzero : f way = 0
    · simp only [hzero, if_true]
      rw [ih, Nat.zero_add]
    · simp only [hzero, if_false, List.map_cons, total]
      rw [ih]

/-- Every way is one of the four, so their numbers add up to the number of ends. -/
theorem total_resolutions (t : Tally) : total (t.resolutions.map Prod.snd) = t.resolvedBy.length := by
  unfold resolutions
  rw [total_filterMap_nonzero fun way => t.resolvedBy.count way]
  induction t.resolvedBy with
  | nil => rfl
  | cons way found ih =>
    simp only [Strategy.all, List.map_cons, List.map_nil, total] at ih ⊢
    cases way <;> simp <;> omega

/-! ### Single records -/

/-- The numbers of a run that has come past some resources and some relationships. -/
structure Counts (t : Tally) (resources relationships : Nat) : Prop where
  nodes : t.nodesWritten + t.nodesFailed = resources
  edges : t.edgesWritten + t.edgesUnresolved + t.edgesFailed = relationships
  ends : 2 * t.edgesWritten ≤ t.resolvedBy.length
  ends_le : t.resolvedBy.length ≤ 2 * relationships

namespace Counts
variable {faults : Faults} {ways : List Strategy} {mode : Mode} {s t : Session} {p : Progress} {n m : Nat}

theorem writeNode (h : p.tally.Counts n m) (d : ResourceDescriptor) :
    (writeNode faults p d).tally.Counts (n + 1) m := by
  have hnodes := h.nodes
  rcases writeNode_inv faults p d with heq | ⟨-, heq⟩
  · rw [heq]
    exact ⟨by dsimp only; omega, h.edges, h.ends, h.ends_le⟩
  · rw [heq]
    exact ⟨by dsimp only; omega, h.edges, h.ends, h.ends_le⟩

/-- One more relationship is counted, for which up to two ends were found. -/
theorem relationship {tally tally' : Tally} {found : List Strategy} (h : tally.Counts n m)
    (hnodes : tally'.nodesWritten = tally.nodesWritten ∧ tally'.nodesFailed = tally.nodesFailed)
    (hedges : tally'.edgesWritten + tally'.edgesUnresolved + tally'.edgesFailed =
      tally.edgesWritten + tally.edgesUnresolved + tally.edgesFailed + 1)
    (hfound : tally'.resolvedBy = found ++ tally.resolvedBy)
    (hwritten : 2 * tally'.edgesWritten ≤ 2 * tally.edgesWritten + found.length) (hle : found.length ≤ 2) :
    tally'.Counts n (m + 1) := by
  obtain ⟨nodes, edges, ends, ends_le⟩ := h
  have hlen : tally'.resolvedBy.length = found.length + tally.resolvedBy.length := by
    rw [hfound, List.length_append]
  exact ⟨by omega, by omega, by omega, by omega⟩

theorem writeEdge (h : p.tally.Counts n m) (d : RelationshipDescriptor) :
    (writeEdge faults ways p d).tally.Counts n (m + 1) := by
  rcases writeEdge_inv faults ways p d with ⟨-, -, heq⟩ | ⟨source, target, g, t, hends, -, -, -, heq⟩ |
    ⟨-, -, found, hle, heq⟩
  · rw [heq]
    exact h.relationship ⟨rfl, rfl⟩ (by dsimp only; omega) rfl (Nat.le_add_right _ _) (length_waysOf_le _ _ _)
  · have hlen := length_waysOf hends
    rw [heq]
    exact h.relationship ⟨rfl, rfl⟩ (by dsimp only; omega) rfl (by dsimp only; omega) (by omega)
  · rw [heq]
    exact h.relationship ⟨rfl, rfl⟩ (by dsimp only; omega) rfl (Nat.le_add_right _ _) hle

/-! ### Whole runs -/

theorem foldl_writeNode (h : p.tally.Counts n m) (faults : Faults) (ds : List ResourceDescriptor) :
    (ds.foldl (Materialize.writeNode faults) p).tally.Counts (n + ds.length) m := by
  induction ds generalizing p n with
  | nil => exact h
  | cons d ds ih =>
    rw [List.foldl_cons, List.length_cons, Nat.add_comm ds.length, ← Nat.add_assoc]
    exact ih (h.writeNode d)

theorem foldl_writeEdge (h : p.tally.Counts n m) (faults : Faults) (ways : List Strategy)
    (ds : List RelationshipDescriptor) :
    (ds.foldl (Materialize.writeEdge faults ways) p).tally.Counts n (m + ds.length) := by
  induction ds generalizing p m with
  | nil => exact h
  | cons d ds ih =>
    rw [List.foldl_cons, List.length_cons, Nat.add_comm ds.length, ← Nat.add_assoc]
    exact ih (h.writeEdge d)

theorem writeIndexes (h : p.tally.Counts n m) : (writeIndexes faults p).tally.Counts n m := by
  unfold Materialize.writeIndexes
  split
  · exact ⟨h.nodes, h.edges, h.ends, h.ends_le⟩
  · exact h

theorem prepare {tally : Tally} (h : prepare faults mode s = (.ok tally, t)) : tally.Counts 0 0 := by
  rcases prepare_inv faults mode s with ⟨-, heq⟩ | ⟨-, heq⟩ | ⟨-, -, e, heq⟩
  · rw [heq] at h
    cases h
    exact ⟨rfl, rfl, Nat.le_refl _, Nat.le_refl _⟩
  · rw [heq] at h
    cases h
    exact ⟨rfl, rfl, Nat.le_refl _, Nat.le_refl _⟩
  · rw [heq] at h
    cases h

end Counts

end Tally

/-- A run that ends has counted everything that it was asked to write. -/
theorem Materialize.run_counts {faults : Faults} {ways : List Strategy} {mode : Mode} {s t : Session} {a : Analysis}
    {tally : Tally} (h : run faults ways mode s a = (.ok tally, t)) :
    tally.Counts a.resources.length a.relationships.length := by
  unfold run at h
  split at h
  · cases h
  · rename_i start s' hprep
    cases h
    have before : (Progress.mk start s').tally.Counts 0 0 := .prepare hprep
    have nodes := before.foldl_writeNode faults a.resources
    have edges := nodes.foldl_writeEdge faults ways a.relationships
    rw [Nat.zero_add, Nat.zero_add] at edges
    exact edges.writeIndexes

end ResourceGraph
