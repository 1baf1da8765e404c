import Mathlib.Data.List.Dedup
import Mathlib.Data.List.Induction
import ResourceGraph.Proofs.Graph.Calls
import ResourceGraph.Proofs.Graph.Confidence
import ResourceGraph.Proofs.Graph.Stores
import ResourceGraph.Proofs.Grouping
import ResourceGraph.Proofs.Text.Order
import ResourceGraph.Total

/-! # A stored graph as two maps

The calls that change a stored graph act on two maps, from ids to nodes and from keys to edges: clearing empties both
maps, and storing changes one entry (`Maps.change`). After any number of changes the maps hold what was stored last
under each id and each key since the last clearing. All that can be asked of the graph agrees with this. -/

namespace ResourceGraph
open Sorted Std Store Text

/-! ## Changes -/

/-- A call that changes the graph or its indexes. -/
inductive Change where
  | clear
  | putNode (n : Node)
  | putEdge (e : Edge)
  | makeIndexes

namespace Change

/-- The confidence of an edge is a number. -/
def Valid : Change → Prop
  | .putEdge e => e.confidence.isNaN = false
  | _ => True

/-- Whether all nodes and edges are removed. -/
def isClear : Change → Bool
  | .clear => true
  | _ => false

/-- The node that is stored. -/
def node? : Change → Option Node
  | .putNode n => some n
  | _ => none

/-- The edge that is stored. -/
def edge? : Change → Option Edge
  | .putEdge e => some e
  | _ => none

end Change

/-- Makes a call that changes the graph or its indexes. Two of these calls tell a number. -/
def Session.change (s : Session) : Change → Session.Outcome (Option Nat)
  | .clear => (s.clear noFaults).map (Except.map some) id
  | .putNode n => (s.putNode noFaults n).map (Except.map fun _ => none) id
  | .putEdge e => (s.putEdge noFaults e).map (Except.map fun _ => none) id
  | .makeIndexes => (s.makeIndexes noFaults).map (Except.map some) id

/-- The work on a store behind some changes of it. -/
def Session.changes (s : Session) (cs : List Change) : Session := cs.foldl (fun s c => (s.change c).2) s

section Steps
variable {s : Session} {g : Store} {c : Change}

/-- The store behind a change that is not refused. -/
def Store.change (g : Store) : Change → Store
  | .clear => .empty
  | .putNode n => g.putNode n
  | .putEdge e => { g with edges := upsert Edge.key (stored e) g.edges }
  | .makeIndexes => g

/-- The number that a change tells. -/
def Store.answer? (g : Store) : Change → Option Nat
  | .clear => some g.nodes.length
  | .makeIndexes => some indexCount
  | _ => none

/-- A change succeeds unless the confidence of an edge is no number. -/
theorem Session.change_eq (s : Session) (hc : c.Valid) :
    s.change c = (.ok (s.store.answer? c), ⟨s.store.change c, s.stores⟩) := by
  cases c with
  | clear => rfl
  | putNode n => rfl
  | putEdge e =>
    have hput : s.store.putEdge e = .ok (s.store.change (.putEdge e)) := by
      unfold Store.putEdge
      rw [if_neg (Bool.eq_false_iff.mp hc)]
      rfl
    unfold Session.change Session.putEdge Session.call
    simp only [noFaults, hput]
    rfl
  | makeIndexes => rfl

theorem Store.Ordered.change (hg : g.Ordered) (c : Change) : (g.change c).Ordered := by
  cases c with
  | clear => exact .empty
  | putNode n => exact hg.putNode n
  | putEdge e => exact ⟨hg.nodes, hg.edges.upsert _⟩
  | makeIndexes => exact hg

end Steps

/-! ## Maps -/

/-- Nodes by id and edges by key. -/
@[ext]
structure Maps where
  node? : String → Option Node
  edge? : Edge.Key → Option Edge

namespace Maps

/-- Maps without entries. -/
def empty : Maps := ⟨fun _ => none, fun _ => none⟩

/-- The maps behind a change. -/
def change (m : Maps) : Change → Maps
  | .clear => .empty
  | .putNode n => { m with node? := fun id => if id = n.id then some n else m.node? id }
  | .putEdge e => { m with edge? := fun k => if k = e.key then some (stored e) else m.edge? k }
  | .makeIndexes => m

end Maps

section Graphs
variable {g : Store} {n : Node} {e x : Edge} {id : String} {k : Edge.Key} {c : Change} {cs : List Change}

/-- A stored graph as two maps. -/
def Store.maps (g : Store) : Maps := ⟨g.findById?, fun k => g.edges.find? (·.key = k)⟩

theorem find?_eq_find? {α κ : Type} [Ord κ] [LawfulEqOrd κ] [DecidableEq κ] (key : α → κ) (k : κ)
    (xs : List α) : xs.find? (key · = k) = find? key k xs := by
  unfold find?
  congr 1
  funext x
  by_cases hx : key x = k
  · simp [hx]
  · have hne : compare k (key x) ≠ .eq := fun heq => hx (LawfulEqOrd.eq_of_compare heq).symm
    simp [hx, hne]

theorem Store.maps_eq (g : Store) : g.maps = ⟨(find? Node.id · g.nodes), (find? Edge.key · g.edges)⟩ :=
  Maps.ext (funext fun id => find?_eq_find? Node.id id g.nodes) (funext fun k => find?_eq_find? Edge.key k g.edges)

/-- A change of the graph is a change of the two maps. -/
theorem Store.maps_change (g : Store) (c : Change) : (g.change c).maps = g.maps.change c := by
  rw [maps_eq, maps_eq]
  cases c with
  | clear => rfl
  | putNode n => exact Maps.ext (funext fun id => find?_upsert) rfl
  | putEdge e =>
    refine Maps.ext rfl (funext fun k => ?_)
    have hfind : find? Edge.key k (upsert Edge.key (stored e) g.edges) =
        if k = (stored e).key then some (stored e) else find? Edge.key k g.edges := find?_upsert
    rw [stored_key] at hfind
    exact hfind
  | makeIndexes => rfl

theorem Store.Ordered.mem_nodes_iff (hg : g.Ordered) : n ∈ g.nodes ↔ g.maps.node? n.id = some n := by
  rw [maps_eq]
  exact (hg.nodes.find?_eq_some.trans (and_iff_left rfl)).symm

theorem Store.Ordered.mem_edges_iff (hg : g.Ordered) : x ∈ g.edges ↔ g.maps.edge? x.key = some x := by
  rw [maps_eq]
  exact (hg.edges.find?_eq_some.trans (and_iff_left rfl)).symm

/-- Behind some changes, the store is ordered and its maps have made the same changes. -/
theorem Session.changes_inv {s : Session} (hs : s.store.Ordered) (hcs : ∀ c ∈ cs, c.Valid) :
    (s.changes cs).store.Ordered ∧ (s.changes cs).store.maps = cs.foldl Maps.change s.store.maps := by
  induction cs generalizing s with
  | nil => exact ⟨hs, rfl⟩
  | cons c cs ih =>
    obtain ⟨hc, hcs⟩ := List.forall_mem_cons.mp hcs
    have hstep : (s.change c).2.store = s.store.change c := by rw [s.change_eq hc]
    have hrest := ih (s := (s.change c).2) (by rw [hstep]; exact hs.change c) hcs
    rw [hstep, maps_change] at hrest
    exact hrest

/-! ## What was stored last -/

/-- The changes since the last clearing. -/
def sinceClear (cs : List Change) : List Change := (cs.reverse.takeWhile fun c => !c.isClear).reverse

/-- The nodes that were stored since the last clearing. -/
def nodesSince (cs : List Change) : List Node := (sinceClear cs).filterMap Change.node?

/-- The edges that were stored since the last clearing. -/
def edgesSince (cs : List Change) : List Edge := (sinceClear cs).filterMap Change.edge?

theorem sinceClear_concat (cs : List Change) (c : Change) :
    sinceClear (cs ++ [c]) = if c.isClear then [] else sinceClear cs ++ [c] := by
  unfold sinceClear
  rw [List.reverse_append, List.reverse_singleton, List.singleton_append, List.takeWhile_cons]
  cases c.isClear <;> simp

theorem filterMap_sinceClear {α : Type} (f : Change → Option α) (cs : List Change) (c : Change) :
    (sinceClear (cs ++ [c])).filterMap f = if c.isClear then [] else (sinceClear cs).filterMap f ++ (f c).toList := by
  rw [sinceClear_concat]
  cases c.isClear
  · cases hf : f c <;> simp [hf]
  · rfl

theorem valid_of_mem_edgesSince (hcs : ∀ c ∈ cs, c.Valid) (he : e ∈ edgesSince cs) : e.confidence.isNaN = false := by
  obtain ⟨c, hc, hedge⟩ := List.mem_filterMap.mp he
  have hmem : c ∈ cs := List.mem_reverse.mp ((List.takeWhile_sublist _).subset (List.mem_reverse.mp hc))
  cases c with
  | putEdge x =>
    cases hedge
    exact hcs _ hmem
  | _ => cases hedge

/-- The maps hold what was stored last. -/
theorem foldl_maps_change (cs : List Change) : cs.foldl Maps.change .empty =
    ⟨fun id => ((nodesSince cs).filter (·.id = id)).getLast?,
      fun k => (((edgesSince cs).filter (·.key = k)).getLast?).map stored⟩ := by
  induction cs using List.reverseRecOn with
  | nil => rfl
  | append_singleton cs c ih =>
    unfold nodesSince edgesSince at ih ⊢
    rw [List.foldl_append, List.foldl_cons, List.foldl_nil, ih, filterMap_sinceClear, filterMap_sinceClear]
    cases c with
    | clear => rfl
    | putNode n =>
      refine Maps.ext (funext fun id => ?_) (funext fun k => ?_)
      · by_cases hid : id = n.id
        · simp [Maps.change, Change.isClear, Change.node?, hid]
        · simp [Maps.change, Change.isClear, Change.node?, hid, Ne.symm hid]
      · simp [Maps.change, Change.isClear, Change.edge?]
    | putEdge e =>
      refine Maps.ext (funext fun id => ?_) (funext fun k => ?_)
      · simp [Maps.change, Change.isClear, Change.node?]
      · by_cases hk : k = e.key
        · simp [Maps.change, Change.isClear, Change.edge?, hk]
        · simp [Maps.change, Change.isClear, Change.edge?, hk, Ne.symm hk]
    | makeIndexes => simp [Maps.change, Change.isClear, Change.node?, Change.edge?]

/-! ## What a graph holds -/

/-- Two edges agree in all parts. Their confidences are equal as numbers, which a positive and a negative zero are. -/
structure Edge.Agrees (x e : Edge) : Prop where
  source : x.source = e.source
  target : x.target = e.target
  type : x.type = e.type
  description : x.description = e.description
  confidence : (x.confidence == e.confidence) = true

/-- Of two edges one is in front of the other: by the bytes of its source, then of its target, then of its type. -/
def Edge.Before (x y : Edge) : Prop :=
  encodeUtf8 x.source < encodeUtf8 y.source ∨ x.source = y.source ∧
    (encodeUtf8 x.target < encodeUtf8 y.target ∨ x.target = y.target ∧ encodeUtf8 x.type < encodeUtf8 y.type)

/-- A search finds, of the nodes with a property, the one whose id comes first by its bytes. -/
structure Store.Finds (g : Store) (P : Node → Prop) (found : Option Node) : Prop where
  some : ∀ n, found = some n ↔
    n ∈ g.nodes ∧ P n ∧ ∀ k ∈ g.nodes, P k → k = n ∨ encodeUtf8 n.id < encodeUtf8 k.id
  none : found = none ↔ ∀ k ∈ g.nodes, ¬P k

/-- A stored graph holds some nodes and edges that were stored in this order. -/
structure Store.Holds (g : Store) (ns : List Node) (es : List Edge) : Prop where
  /-- A node is the last one that was stored under its id. -/
  node : ∀ n, n ∈ g.nodes ↔ (ns.filter (·.id = n.id)).getLast? = some n
  /-- An edge is the last one of those that are the same, as it is stored. -/
  edge : ∀ x, x ∈ g.edges ↔ ∃ e, (es.filter (Edge.same x)).getLast? = some e ∧ x = stored e
  /-- An edge is stored as it is, but for the sign of a zero. -/
  agrees : ∀ e ∈ es, (stored e).Agrees e ∧ ((e.confidence == 0.0) = false → stored e = e)
  countNodes : g.nodes.length = (ns.map Node.id).dedup.length
  countEdges : g.edges.length = (es.pwFilter fun x y => ¬Edge.same x y).length
  nodes : (Statistics.ofStore g).nodes = g.nodes.length ∧
    total ((Statistics.ofStore g).byCategory.map Prod.snd) = g.nodes.length
  edges : (Statistics.ofStore g).edges = g.edges.length ∧
    total ((Statistics.ofStore g).byType.map Prod.snd) = g.edges.length
  findByResourceId : ∀ id, g.Finds (fun n => n.resourceId = some id) (g.findByResourceId? id)
  findById : ∀ id, g.Finds (fun n => n.id = id) (g.findById? id)
  findByTypeAndName : ∀ type name, g.Finds (fun n => n.type = type ∧ n.name = name) (g.findByTypeAndName? type name)
  findFuzzy : ∀ fragment, g.Finds
    (fun n => fragment ≠ "" ∧ (contains n.type fragment = true ∨ contains n.name fragment = true)) (g.findFuzzy? fragment)
  /-- An edge is listed once with its source, and once with its target. -/
  once : ∀ e ∈ g.edges,
    (g.edgesFrom e.source).filter (Edge.same e) = [e] ∧ (g.edgesTo e.target).filter (Edge.same e) = [e]
  edgesFrom : ∀ id, (g.edgesFrom id).Pairwise Edge.Before ∧ ∀ e ∈ g.edgesFrom id, e ∈ g.edges ∧ e.source = id
  edgesTo : ∀ id, (g.edgesTo id).Pairwise Edge.Before ∧ ∀ e ∈ g.edgesTo id, e ∈ g.edges ∧ e.target = id

theorem Store.stored_agrees (he : e.confidence.isNaN = false) : (stored e).Agrees e where
  source := stored_source e
  target := stored_target e
  type := stored_type e
  description := stored_description e
  confidence := stored_confidence he

theorem Store.stored_of_ne_zero (he : (e.confidence == 0.0) = false) : stored e = e := by
  unfold stored
  rw [if_neg (Bool.eq_false_iff.mp he)]

theorem Edge.same_iff : Edge.same x e = true ↔ e.key = x.key := by
  unfold same
  rw [decide_eq_true_eq]
  exact eq_comm

theorem Edge.before_of_compare (h : compare x.key e.key = .lt) : x.Before e := by
  have hparts : ((compare x.source e.source).then (compare x.target e.target)).then (compare x.type e.type) = .lt := h
  simp only [Ordering.then_eq_lt, Ordering.then_eq_eq, compare_eq_lt] at hparts
  unfold Before
  rcases hparts with (hsource | ⟨hsource, htarget⟩) | ⟨⟨hsource, htarget⟩, htype⟩
  · exact Or.inl hsource
  · exact Or.inr ⟨LawfulEqOrd.eq_of_compare hsource, Or.inl htarget⟩
  · exact Or.inr ⟨LawfulEqOrd.eq_of_compare hsource, Or.inr ⟨LawfulEqOrd.eq_of_compare htarget, htype⟩⟩

theorem Store.Ordered.pairwise_before (hg : g.Ordered) (p : Edge → Bool) : (g.edges.filter p).Pairwise Edge.Before :=
  (List.Pairwise.sublist List.filter_sublist hg.edges).imp Edge.before_of_compare

theorem Store.Ordered.finds (hg : g.Ordered) {P : Node → Prop} {p : Node → Bool} (hp : ∀ k, p k = true ↔ P k) :
    g.Finds P (g.nodes.find? p) where
  some n := by
    rw [hg.nodes.find?_least]
    simp only [hp, compare_eq_lt]
  none := by
    rw [List.find?_eq_none]
    simp only [hp]

/-- The numbers of a tally add up to the length of the list. -/
theorem Statistics.total_tally (names : List String) : total ((tally names).map Prod.snd) = names.length := by
  have hnames : ((Names.ofList names).flatMap fun name => names.filter fun x => x = name).Perm names :=
    flatMap_filter_perm (Names.nodup_ofList names) fun _ => Names.mem_ofList.mpr
  have hcount : ∀ name, names.count name = (names.filter fun x => x = name).length := fun name => by
    rw [List.count, List.countP_eq_length_filter]
    rfl
  unfold tally
  rw [List.map_map, ← hnames.length_eq, ← total_map_length]
  exact congrArg total (List.map_congr_left fun name _ => hcount name)

/-- A list with ascending keys that finds the same keys as another list has as many elements as there are keys. -/
theorem length_eq_of_find? {α β κ : Type} [Ord κ] [TransOrd κ] [DecidableEq κ] {key : α → κ} {key' : β → κ}
    {xs : List α} {ys : List β} (hxs : Ascending key xs)
    (hfind : ∀ k, (xs.find? (key · = k)).isSome = ((ys.filter (key' · = k)).getLast?).isSome) :
    xs.length = (ys.map key').dedup.length := by
  have hkeys : ∀ k, k ∈ xs.map key ↔ k ∈ (ys.map key').dedup := fun k => by
    have hsome := Bool.eq_iff_iff.mp (hfind k)
    rw [List.find?_isSome, List.getLast?_isSome] at hsome
    simpa [List.filter_eq_nil_iff] using hsome
  have hperm : (xs.map key).Perm (ys.map key').dedup :=
    (List.perm_ext_iff_of_nodup hxs.nodup_keys (List.nodup_dedup _)).mpr hkeys
  rw [← hperm.length_eq, List.length_map]

theorem Edge.length_pwFilter (es : List Edge) :
    (es.pwFilter fun x y => ¬Edge.same x y).length = (es.map Edge.key).dedup.length := by
  rw [List.dedup, List.pwFilter_map, List.length_map]
  simp only [same, decide_eq_true_eq, ne_eq]

/-- A graph with the maps of some nodes and edges holds them. -/
theorem Store.Ordered.holds {ns : List Node} {es : List Edge} (hg : g.Ordered)
    (hnode : g.maps.node? = fun id => (ns.filter (·.id = id)).getLast?)
    (hedge : g.maps.edge? = fun k => ((es.filter (·.key = k)).getLast?).map stored)
    (hes : ∀ e ∈ es, e.confidence.isNaN = false) : g.Holds ns es := by
  have hnodes : ∀ n, n ∈ g.nodes ↔ (ns.filter (·.id = n.id)).getLast? = some n := fun n => by
    rw [hg.mem_nodes_iff, hnode]
  have hedges : ∀ x, x ∈ g.edges ↔ ∃ e, (es.filter (Edge.same x)).getLast? = some e ∧ x = stored e := fun x => by
    have hsame : es.filter (Edge.same x) = es.filter (·.key = x.key) := List.filter_congr fun e _ => by
      rw [Bool.eq_iff_iff, Edge.same_iff, decide_eq_true_eq]
    rw [hg.mem_edges_iff, hedge, hsame, Option.map_eq_some_iff]
    simp only [eq_comm]
  exact {
    node := hnodes
    edge := hedges
    agrees := fun e he => ⟨stored_agrees (hes e he), stored_of_ne_zero⟩
    countNodes := length_eq_of_find? hg.nodes fun id => congrArg Option.isSome (congrFun hnode id)
    countEdges := by
      rw [Edge.length_pwFilter]
      exact length_eq_of_find? hg.edges fun k => (congrArg Option.isSome (congrFun hedge k)).trans Option.isSome_map
    nodes := ⟨rfl, (Statistics.total_tally _).trans (List.length_map _)⟩
    edges := ⟨rfl, (Statistics.total_tally _).trans (List.length_map _)⟩
    findByResourceId := fun id => hg.finds fun n => decide_eq_true_iff
    findById := fun id => hg.finds fun n => decide_eq_true_iff
    findByTypeAndName := fun type name => hg.finds fun n => decide_eq_true_iff
    findFuzzy := fun fragment => by
      unfold findFuzzy?
      by_cases hempty : fragment = ""
      · simp only [hempty]
        exact ⟨by simp, by simp⟩
      · rw [if_neg (by simpa using hempty)]
        exact hg.finds fun n => by simp [hempty]
    once := fun e he => by
      unfold edgesFrom edgesTo
      rw [List.filter_filter, List.filter_filter]
      refine ⟨hg.edges.filter_eq_singleton he fun x => ?_, hg.edges.filter_eq_singleton he fun x => ?_⟩
      · rw [Bool.and_eq_true, Edge.same_iff, decide_eq_true_eq]
        exact and_iff_left_of_imp (congrArg Edge.Key.source)
      · rw [Bool.and_eq_true, Edge.same_iff, decide_eq_true_eq]
        exact and_iff_left_of_imp (congrArg Edge.Key.target)
    edgesFrom := fun id => ⟨hg.pairwise_before _, fun e he => by simpa [Store.edgesFrom] using he⟩
    edgesTo := fun id => ⟨hg.pairwise_before _, fun e he => by simpa [Store.edgesTo] using he⟩ }

/-- Changes of an empty graph change two empty maps. The graph then holds what was stored since the last clearing, and
    any other change would succeed: clearing tells the number of nodes, and making the indexes that of the indexes. -/
theorem Session.changes_holds (cs : List Change) (hcs : ∀ c ∈ cs, c.Valid) :
    let s := (Session.start .empty).changes cs
    s.store.maps = cs.foldl Maps.change .empty ∧ s.store.Holds (nodesSince cs) (edgesSince cs) ∧
      (s.change .clear).1 = .ok (some s.store.nodes.length) ∧ (∀ n, (s.change (.putNode n)).1 = .ok none) ∧
      (∀ e, e.confidence.isNaN = false → (s.change (.putEdge e)).1 = .ok none) ∧
      (s.change .makeIndexes).1 = .ok (some 8) := by
  intro s
  obtain ⟨hordered, hmaps⟩ := changes_inv (s := .start .empty) .empty hcs
  have hlast := hmaps.trans (foldl_maps_change cs)
  exact ⟨hmaps, hordered.holds (congrArg Maps.node? hlast) (congrArg Maps.edge? hlast) fun e => valid_of_mem_edgesSince hcs,
    rfl, fun n => rfl, fun e he => by rw [s.change_eq (c := .putEdge e) he]; rfl, rfl⟩

/-- A graph is cleared. Then a server and an edge to its subnet are stored, and both are stored again. -/
def storedAgain : List Change :=
  let server : Node := ⟨"a.server", none, "server", "a", "a", .compute, "null"⟩
  let uses : Edge := .make "a.server" "a.subnet" "uses"
  [.putNode { server with id := "b.server" }, .clear, .putNode server, .putEdge uses,
    .putNode { server with properties := "[1]" }, .putEdge { uses with description := "again" }, .makeIndexes]

theorem Session.changes_holds_storedAgain :
    let g := ((Session.start .empty).changes storedAgain).store
    g.Holds (nodesSince storedAgain) (edgesSince storedAgain) ∧ g.nodes.length = 1 ∧ g.edges.length = 1 ∧
      (g.findById? "a.server").map Node.properties = some "[1]" ∧
      (g.edgesFrom "a.server").map Edge.description = ["again"] := by
  have hvalid : ∀ c ∈ storedAgain, c.Valid := by
    have hnumber : (1.0 : Float).isNaN = false := by decide +kernel
    intro c hc
    simp only [storedAgain, List.mem_cons, List.not_mem_nil, or_false] at hc
    rcases hc with rfl | rfl | rfl | rfl | rfl | rfl | rfl
    exacts [trivial, trivial, trivial, hnumber, trivial, hnumber, trivial]
  have hholds := (Session.changes_holds storedAgain hvalid).2.1
  refine ⟨hholds, hholds.countNodes.trans ?_, hholds.countEdges.trans ?_, ?_, ?_⟩ <;> decide +kernel

end Graphs

end ResourceGraph
