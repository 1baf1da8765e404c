import ResourceGraph.Proofs.Graph.Runs
import ResourceGraph.Proofs.Graph.TypeNames

/-! # Referential integrity over whole histories

A history is a sequence of runs on one store, any of whose calls may fail. After every call of it both ends
of each stored edge are stored nodes, no two nodes share an id and no two edges a key, and every type is a
name of capitals, digits and single underscores.

The invariant behind this is `Sound`. A run keeps it move by move: clearing takes the edges with the nodes,
storing a node keeps every id, and an edge is stored only between ids that were just found. -/

namespace ResourceGraph
open Store

/-- A run that is to be made: the ways to find nodes, the mode, and what an analyzer found. -/
structure Job where
  ways : List Strategy
  mode : Mode
  analysis : Analysis

namespace Materialize

/-- The session behind a sequence of runs. -/
def history (faults : Faults) (s : Session) (jobs : List Job) : Session :=
  jobs.foldl (fun s j => (run faults j.ways j.mode s j.analysis).2) s

theorem history_cons (faults : Faults) (s : Session) (j : Job) (rest : List Job) :
    history faults s (j :: rest) = history faults (run faults j.ways j.mode s j.analysis).2 rest := rfl

/-- What every move of every run keeps holds of all stores of a history. -/
theorem history_keeps {P : Store → Prop} {faults : Faults} {s : Session}
    (hmove : ∀ ways mode a g g', Move ways mode a g g' → P g → P g') (hs : ∀ g ∈ s.stores, P g) (jobs : List Job) :
    ∀ g ∈ (history faults s jobs).stores, P g := by
  induction jobs generalizing s with
  | nil => exact hs
  | cons j rest ih =>
    rw [history_cons]
    exact ih ((run_trail faults j.ways j.mode s j.analysis).keeps (hmove j.ways j.mode j.analysis) hs)

/-- What holds of the empty store and is kept by every move holds of all stores of a history from there. -/
theorem history_of_empty {P : Store → Prop} (hmove : ∀ ways mode a g g', Move ways mode a g g' → P g → P g')
    (hempty : P .empty) (faults : Faults) (jobs : List Job) :
    ∀ g ∈ (history faults (.start .empty) jobs).stores, P g := by
  refine history_keeps hmove (fun g hg => ?_) jobs
  obtain rfl := List.mem_singleton.mp hg
  exact hempty

end Materialize

namespace Store

/-- Both ends of every edge are ids of nodes, ids and keys are not shared, and types are names. -/
structure Intact (g : Store) : Prop where
  ends : ∀ e ∈ g.edges, (∃ n ∈ g.nodes, n.id = e.source) ∧ ∃ n ∈ g.nodes, n.id = e.target
  ids : (g.nodes.map Node.id).Nodup
  keys : (g.edges.map Edge.key).Nodup
  types : ∀ e ∈ g.edges, TypeName e.type.toList

/-- What the moves of a run keep: an intact graph in the order of its ids and keys. -/
structure Sound (g : Store) : Prop where
  ordered : g.Ordered
  ends : ∀ e ∈ g.edges, g.HasNode e.source ∧ g.HasNode e.target
  types : ∀ e ∈ g.edges, TypeName e.type.toList

theorem Sound.intact {g : Store} (h : g.Sound) : g.Intact :=
  ⟨h.ends, h.ordered.nodes.nodup_keys, h.ordered.edges.nodup_keys, h.types⟩

theorem Sound.empty : Sound .empty where
  ordered := .empty
  ends _ he := absurd he List.not_mem_nil
  types _ he := absurd he List.not_mem_nil

theorem Sound.putNode {g : Store} (h : g.Sound) (n : Node) : (g.putNode n).Sound where
  ordered := h.ordered.putNode n
  ends e he := ⟨(h.ends e he).1.putNode n, (h.ends e he).2.putNode n⟩
  types := h.types

/-- An edge between two nodes whose type is a name keeps the graph sound. -/
theorem Sound.putEdge {g g' : Store} {e : Edge} (h : g.Sound) (hs : g.HasNode e.source) (ht : g.HasNode e.target)
    (htype : TypeName e.type.toList) (hput : g.putEdge e = .ok g') : g'.Sound where
  ordered := h.ordered.putEdge hput
  ends x hx := by
    rcases mem_putEdge_of hput hx with rfl | hx
    · rw [stored_source, stored_target]
      exact ⟨hs.putEdge hput, ht.putEdge hput⟩
    · exact ⟨(h.ends x hx).1.putEdge hput, (h.ends x hx).2.putEdge hput⟩
  types x hx := by
    rcases mem_putEdge_of hput hx with rfl | hx
    · rwa [stored_type]
    · exact h.types x hx

theorem Sound.move {ways : List Strategy} {mode : Mode} {a : Analysis} {g g' : Store}
    (hmove : Materialize.Move ways mode a g g') (h : g.Sound) : g'.Sound := by
  cases hmove with
  | stay => exact h
  | clear => exact .empty
  | node => exact h.putNode _
  | @edge d source target _ _ hends hput =>
    obtain ⟨hs, ht⟩ := Materialize.ends?_eq_some.mp hends
    refine h.putEdge (Materialize.idOf?_hasNode hs) (Materialize.idOf?_hasNode ht) ?_ hput
    rw [Edge.ofDescriptor_type]
    exact typeName_relationshipType d.type

end Store

namespace Materialize

theorem history_sound (faults : Faults) (jobs : List Job) :
    ∀ g ∈ (history faults (.start .empty) jobs).stores, g.Sound :=
  history_of_empty (fun _ _ _ _ _ => Sound.move) .empty faults jobs

/-- In a history from the empty store the stored graph is intact after every single call, whichever calls
    fail. -/
theorem history_intact (faults : Faults) (jobs : List Job) :
    ∀ g ∈ (history faults (.start .empty) jobs).stores, g.Intact :=
  fun g hg => (history_sound faults jobs g hg).intact

/-- The third call fails. -/
def thirdFails : Faults := fun n _ => if n = 2 then some .missingConfidence else none

/-- Two resources, of which the first uses itself and the second. -/
def uses : Analysis :=
  ⟨[⟨some "a", none, none, none, .null⟩, ⟨some "b", none, none, none, .null⟩],
   [⟨"a", "a", "uses", "", 1.0⟩, ⟨"a", "b", "uses", "", 1.0⟩]⟩

theorem history_intact_uses :
    (history thirdFails (.start .empty) [⟨Strategy.all, .merge, uses⟩]).store.edges.length = 1 ∧
    (history thirdFails (.start .empty) [⟨Strategy.all, .merge, uses⟩]).store.Intact :=
  ⟨by decide +kernel, history_intact thirdFails [⟨Strategy.all, .merge, uses⟩] _ List.mem_cons_self⟩

end Materialize

end ResourceGraph
