import ResourceGraph.Graph.Store
import ResourceGraph.Proofs.Ascending

/-! # Stored graphs as keyed records

A graph that calls have built holds its nodes in ascending order of their ids and its edges in ascending
order of their keys. Storing a node or an edge changes what is stored under its own id or key and keeps
everything else. -/

namespace ResourceGraph
open Sorted Std

instance : TransOrd Edge.Key :=
  inferInstanceAs (TransCmp (compareLex (compareLex (compareOn Edge.Key.source) (compareOn Edge.Key.target))
    (compareOn Edge.Key.type)))

instance : LawfulEqOrd Edge.Key where
  eq_of_compare {a b} h := by
    have h' : ((compare a.source b.source).then (compare a.target b.target)).then (compare a.type b.type) = .eq := h
    rw [Ordering.then_eq_eq, Ordering.then_eq_eq] at h'
    obtain ⟨⟨hs, ht⟩, hty⟩ := h'
    cases a
    cases b
    cases LawfulEqOrd.eq_of_compare hs
    cases LawfulEqOrd.eq_of_compare ht
    cases LawfulEqOrd.eq_of_compare hty
    rfl

namespace Edge
variable (source target : String) (d : RelationshipDescriptor)

@[simp] theorem ofDescriptor_source : (ofDescriptor source target d).source = source := rfl
@[simp] theorem ofDescriptor_target : (ofDescriptor source target d).target = target := rfl
@[simp] theorem ofDescriptor_type : (ofDescriptor source target d).type = relationshipType d.type := rfl
@[simp] theorem ofDescriptor_description : (ofDescriptor source target d).description = d.description := rfl
@[simp] theorem ofDescriptor_confidence : (ofDescriptor source target d).confidence = clamp d.confidence := rfl

end Edge

namespace Store
variable {g h : Store} {n m : Node} {e x : Edge} {id : String}

/-- Nodes are in ascending order of their ids, and edges of their keys. -/
structure Ordered (g : Store) : Prop where
  nodes : Ascending Node.id g.nodes
  edges : Ascending Edge.key g.edges

/-- Some node has this id. -/
def HasNode (g : Store) (id : String) : Prop := ∃ n ∈ g.nodes, n.id = id

theorem Ordered.empty : Ordered empty := ⟨.nil, .nil⟩

theorem Ordered.putNode (hg : g.Ordered) (n : Node) : (g.putNode n).Ordered := ⟨hg.nodes.upsert n, hg.edges⟩

/-! ## Nodes -/

theorem mem_putNode_of (hm : m ∈ (g.putNode n).nodes) : m = n ∨ m ∈ g.nodes := mem_upsert_of hm

/-- Storing a node leaves the nodes of other ids as they are. -/
theorem mem_putNode_iff (hne : m.id ≠ n.id) : m ∈ (g.putNode n).nodes ↔ m ∈ g.nodes := mem_upsert_iff_of_ne hne

/-- Storing a node keeps every id. -/
theorem HasNode.putNode (hid : g.HasNode id) (n : Node) : (g.putNode n).HasNode id := by
  obtain ⟨m, hm, rfl⟩ := hid
  by_cases hne : m.id = n.id
  · exact ⟨n, mem_upsert_self, hne.symm⟩
  · exact ⟨m, mem_upsert_of_ne hm hne, rfl⟩

theorem hasNode_putNode (g : Store) (n : Node) : (g.putNode n).HasNode n.id := ⟨n, mem_upsert_self, rfl⟩

/-- Of the nodes with a property, this one has the least id. -/
structure Least (g : Store) (P : Node → Prop) (n : Node) : Prop where
  mem : n ∈ g.nodes
  holds : P n
  le : ∀ k ∈ g.nodes, P k → k = n ∨ n.id < k.id

/-- Every search among the nodes gives the match with the least id. -/
theorem Ordered.find?_least {P : Node → Prop} {p : Node → Bool} (hg : g.Ordered) (hp : ∀ k, p k = true ↔ P k) :
    g.nodes.find? p = some n ↔ g.Least P n := by
  have lt_iff : ∀ {a b : String}, compare a b = .lt ↔ a < b := compareOfLessAndEq_eq_lt
  rw [hg.nodes.find?_least]
  simp only [hp, lt_iff]
  exact ⟨fun ⟨hn, hP, hle⟩ => ⟨hn, hP, hle⟩, fun h => ⟨h.mem, h.holds, h.le⟩⟩

theorem Ordered.exists_least {P : Node → Prop} (hg : g.Ordered) (hn : n ∈ g.nodes) (hP : P n) :
    ∃ k, g.Least P k := by
  classical
  obtain ⟨k, hk⟩ := Option.isSome_iff_exists.mp
    (List.find?_isSome (p := fun k => decide (P k)).mpr ⟨n, hn, decide_eq_true hP⟩)
  exact ⟨k, (hg.find?_least fun _ => decide_eq_true_iff).mp hk⟩

/-- A node with a property has the least id of all just if no node with this property has a lesser one. -/
theorem Least.eq_iff {P : Node → Prop} (h : g.Least P n) (hm : m ∈ g.nodes) (hP : P m) :
    n = m ↔ ∀ k ∈ g.nodes, P k → ¬k.id < m.id := by
  constructor
  · rintro rfl k hk hPk
    rcases h.le k hk hPk with rfl | hlt
    · exact String.lt_irrefl _
    · exact String.lt_asymm hlt
  · intro hnot
    rcases h.le m hm hP with rfl | hlt
    · rfl
    · exact absurd hlt (hnot n h.mem h.holds)

/-! ## Edges -/

@[simp] theorem stored_source (e : Edge) : (stored e).source = e.source := by unfold stored; split <;> rfl
@[simp] theorem stored_target (e : Edge) : (stored e).target = e.target := by unfold stored; split <;> rfl
@[simp] theorem stored_type (e : Edge) : (stored e).type = e.type := by unfold stored; split <;> rfl
@[simp] theorem stored_description (e : Edge) : (stored e).description = e.description := by
  unfold stored; split <;> rfl

@[simp] theorem stored_key (e : Edge) : (stored e).key = e.key := by simp [Edge.key]

theorem putEdge_ok (hput : g.putEdge e = .ok h) :
    e.confidence.isNaN = false ∧ h = { g with edges := upsert Edge.key (stored e) g.edges } := by
  unfold putEdge at hput
  split at hput
  · cases hput
  · rename_i hnan
    cases hput
    exact ⟨by simpa using hnan, rfl⟩

theorem putEdge_error {err : Error} (hput : g.putEdge e = .error err) : e.confidence.isNaN = true := by
  unfold putEdge at hput
  split at hput
  · assumption
  · cases hput

theorem putEdge_nodes (hput : g.putEdge e = .ok h) : h.nodes = g.nodes := by
  obtain ⟨-, rfl⟩ := putEdge_ok hput
  rfl

theorem Ordered.putEdge (hg : g.Ordered) (hput : g.putEdge e = .ok h) : h.Ordered := by
  obtain ⟨-, rfl⟩ := putEdge_ok hput
  exact ⟨hg.nodes, hg.edges.upsert _⟩

theorem mem_putEdge_of (hput : g.putEdge e = .ok h) (hx : x ∈ h.edges) : x = stored e ∨ x ∈ g.edges := by
  obtain ⟨-, rfl⟩ := putEdge_ok hput
  exact mem_upsert_of hx

/-- Storing an edge leaves the edges of other keys as they are. -/
theorem mem_putEdge_iff (hput : g.putEdge e = .ok h) (hne : x.key ≠ e.key) : x ∈ h.edges ↔ x ∈ g.edges := by
  obtain ⟨-, rfl⟩ := putEdge_ok hput
  exact mem_upsert_iff_of_ne (by rwa [stored_key])

/-- Some edge has this key. -/
def HasEdge (g : Store) (k : Edge.Key) : Prop := ∃ e ∈ g.edges, e.key = k

theorem hasEdge_putEdge (hput : g.putEdge e = .ok h) : h.HasEdge e.key := by
  obtain ⟨-, rfl⟩ := putEdge_ok hput
  exact ⟨stored e, mem_upsert_self, stored_key e⟩

/-- Storing an edge keeps every key. -/
theorem HasEdge.putEdge {k : Edge.Key} (hk : g.HasEdge k) (hput : g.putEdge e = .ok h) : h.HasEdge k := by
  by_cases heq : k = e.key
  · rw [heq]
    exact hasEdge_putEdge hput
  · obtain ⟨x, hx, rfl⟩ := hk
    obtain ⟨-, rfl⟩ := putEdge_ok hput
    exact ⟨x, mem_upsert_of_ne hx (by rwa [stored_key]), rfl⟩

theorem hasEdge_putEdge_iff {k : Edge.Key} (hput : g.putEdge e = .ok h) : h.HasEdge k ↔ g.HasEdge k ∨ e.key = k := by
  constructor
  · rintro ⟨x, hx, rfl⟩
    rcases mem_putEdge_of hput hx with rfl | hx
    · exact Or.inr (stored_key e).symm
    · exact Or.inl ⟨x, hx, rfl⟩
  · rintro (hk | rfl)
    · exact hk.putEdge hput
    · exact hasEdge_putEdge hput

theorem HasNode.putEdge (hid : g.HasNode id) (hput : g.putEdge e = .ok h) : h.HasNode id := by
  unfold HasNode
  rw [putEdge_nodes hput]
  exact hid

end Store

end ResourceGraph
