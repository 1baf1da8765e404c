import ResourceGraph.Proofs.Graph.Confidence
import ResourceGraph.Proofs.Graph.Integrity
import ResourceGraph.Proofs.Graph.NodeIds

/-! # Exact ids

A node whose id is spelled out in a reference is found, whatever the types, names and ids of the other nodes
are. The first two of the ways to find nodes go by ids, and a node has no id but its own: the one that the
analyzer gave is either missing or the id of the node (`Node.Exact`). So these two ways can lead to no other
node, and one of them leads to this one before the looser ways are tried. -/

namespace ResourceGraph
open Store Text

/-! ## Stores -/

namespace Store
variable {g h : Store} {n m : Node} {ref : String}

/-- All nodes go by their ids. -/
def Exact (g : Store) : Prop := ∀ n ∈ g.nodes, n.Exact

theorem Exact.move {ways : List Strategy} {mode : Mode} {a : Analysis} (hmove : Materialize.Move ways mode a g h)
    (hg : g.Exact) : h.Exact := by
  cases hmove with
  | stay => exact hg
  | clear => exact fun _ hn => absurd hn List.not_mem_nil
  | node =>
    intro n hn
    rcases mem_putNode_of hn with rfl | hn
    · exact Node.exact_ofDescriptor _
    · exact hg n hn
  | edge _ _ hput =>
    unfold Exact
    rw [putEdge_nodes hput]
    exact hg

theorem findById?_eq (hg : g.Ordered) (hn : n ∈ g.nodes) : g.findById? n.id = some n := by
  cases hfind : g.findById? n.id with
  | none =>
    have hne := List.find?_eq_none.mp hfind n hn
    simp at hne
  | some m =>
    have hid : m.id = n.id := by simpa using List.find?_some (p := fun m : Node => m.id = n.id) hfind
    rw [hg.nodes.eq_of_key (List.mem_of_find?_eq_some hfind) hn hid]

/-- An id that an analyzer gave is the one of no other node. -/
theorem eq_of_findByResourceId? (hg : g.Ordered) (hex : g.Exact) (hn : n ∈ g.nodes)
    (hfind : g.findByResourceId? n.id = some m) : m = n := by
  have hm := List.mem_of_find?_eq_some hfind
  have hgiven : m.resourceId = some n.id := by
    simpa using List.find?_some (p := fun m : Node => m.resourceId = some n.id) hfind
  rcases (hex m hm).given with hnone | hsome
  · rw [hnone] at hgiven
    cases hgiven
  · rw [hsome] at hgiven
    exact hg.nodes.eq_of_key hm hn (Option.some.inj hgiven)

/-- A text that comes to the id of a node when it is trimmed leads to this node by one of its ids. -/
theorem find?_of_trim (hg : g.Ordered) (hex : g.Exact) (hn : n ∈ g.nodes) (href : trim ref = n.id) :
    ∃ way, (way = .descriptorId ∨ way = .nodeId) ∧ Endpoint.find? Strategy.all g ref = some (n, way) := by
  have hne : ¬n.id.isEmpty = true := by simpa using (hex n hn).nonempty
  unfold Endpoint.find? Endpoint.firstOf? Strategy.all
  rw [href, if_neg hne]
  -- The first way finds the node, or nothing; no way behind the second one is ever tried.
  cases hgiven : g.findByResourceId? n.id with
  | some m =>
    refine ⟨.descriptorId, Or.inl rfl, ?_⟩
    rw [List.findSome?_cons]
    simp [Strategy.find?, hgiven, eq_of_findByResourceId? hg hex hn hgiven]
  | none =>
    refine ⟨.nodeId, Or.inr rfl, ?_⟩
    rw [List.findSome?_cons, List.findSome?_cons]
    simp [Strategy.find?, hgiven, findById?_eq hg hn]

theorem idOf?_of_trim {id : String} (hg : g.Ordered) (hex : g.Exact) (hid : g.HasNode id) (href : trim ref = id) :
    Endpoint.idOf? Strategy.all g ref = some id := by
  obtain ⟨n, hn, rfl⟩ := hid
  obtain ⟨way, -, hfind⟩ := find?_of_trim hg hex hn href
  rw [Endpoint.idOf?_eq, hfind]
  rfl

end Store

/-- A text leads to one node by one of its ids: a search finds it in any session on the store, unless one of
    its calls fails. -/
def Endpoint.LeadsTo (g : Store) (ref : String) (n : Node) : Prop :=
  ∃ way, (way = .descriptorId ∨ way = .nodeId) ∧ ∀ s : Session, s.store = g →
    (Endpoint.resolve noFaults Strategy.all s ref).1 = .ok (some (n, way)) ∧
    ∀ faults found, (Endpoint.resolve faults Strategy.all s ref).1 = .ok found → found = some (n, way)

theorem Endpoint.leadsTo_of_trim {g : Store} {ref : String} {n : Node} (hg : g.Ordered) (hex : g.Exact)
    (hn : n ∈ g.nodes) (href : trim ref = n.id) : Endpoint.LeadsTo g ref n := by
  obtain ⟨way, hway, hfind⟩ := find?_of_trim hg hex hn href
  exact ⟨way, hway, foundBy_of_find? hfind⟩

namespace Materialize

/-! ## Resources that were written -/

section Written
variable {faults : Faults} {p : Progress} {id : String}

/-- The call for some resource with this id succeeded: it is counted as written. -/
def Written (faults : Faults) (p : Progress) (ds : List ResourceDescriptor) (id : String) : Prop :=
  ∃ front d back, ds = front ++ d :: back ∧ Node.stableId d = id ∧
    (writeNode faults (front.foldl (writeNode faults) p) d).tally.nodesWritten =
      (front.foldl (writeNode faults) p).tally.nodesWritten + 1

theorem foldl_writeNode_hasNode (ds : List ResourceDescriptor) (h : p.session.store.HasNode id) :
    (ds.foldl (writeNode faults) p).session.store.HasNode id := by
  have trail : Trail (Move [] .merge ⟨ds, []⟩) p.session (ds.foldl (writeNode faults) p).session :=
    foldl_writeNode_trail faults p
  exact trail.keeps_store (fun _ _ => Move.hasNode) h

/-- A resource that was written is stored when all are. -/
theorem Written.hasNode {ds : List ResourceDescriptor} (h : Written faults p ds id) :
    (ds.foldl (writeNode faults) p).session.store.HasNode id := by
  obtain ⟨front, d, back, rfl, rfl, hcount⟩ := h
  rw [List.foldl_append, List.foldl_cons]
  refine foldl_writeNode_hasNode back ?_
  rcases writeNode_inv faults (front.foldl (writeNode faults) p) d with heq | ⟨-, heq⟩
  · rw [heq, ← Node.ofDescriptor_id]
    exact hasNode_putNode _ _
  · rw [heq] at hcount
    dsimp only at hcount
    omega

end Written

/-! ## Relationships between them -/

section Joined
variable {faults : Faults} {ways : List Strategy} {p : Progress} {d : RelationshipDescriptor} {source target : String}

/-- What writing a relationship between two nodes comes to. It is not unresolved: its edge is stored between
    these two, or is counted as failed where some call is to fail or the confidence is no number. -/
structure Joined (faults : Faults) (d : RelationshipDescriptor) (source target : String) (p q : Progress) : Prop where
  ends : p.session.store.HasNode source ∧ p.session.store.HasNode target
  resolved : q.tally.edgesUnresolved = p.tally.edgesUnresolved
  outcome : (q.tally.edgesWritten = p.tally.edgesWritten + 1 ∧ q.tally.edgesFailed = p.tally.edgesFailed ∧
      p.session.store.putEdge (.ofDescriptor source target d) = .ok q.session.store) ∨
    ((faults.Hit ∨ d.confidence.isNaN = true) ∧ q.tally.edgesWritten = p.tally.edgesWritten ∧
      q.tally.edgesFailed = p.tally.edgesFailed + 1 ∧ q.session.store = p.session.store)

theorem joined_writeEdge (hg : p.session.store.Ordered) (hex : p.session.store.Exact)
    (hsource : p.session.store.HasNode source) (htarget : p.session.store.HasNode target)
    (hs : trim d.source = source) (ht : trim d.target = target) :
    Joined faults d source target p (writeEdge faults Strategy.all p d) := by
  have hends : ends? Strategy.all p.session.store d = some (source, target) :=
    ends?_eq_some.mpr ⟨idOf?_of_trim hg hex hsource hs, idOf?_of_trim hg hex htarget ht⟩
  rcases writeEdge_inv faults Strategy.all p d with ⟨hnone, -⟩ | ⟨_, _, g, t, hsome, hput, -, hsession, htally⟩ |
    ⟨hcause, htrail, found, -, htally⟩
  · rw [hends] at hnone
    cases hnone
  · rw [hends] at hsome
    cases hsome
    refine ⟨⟨hsource, htarget⟩, by rw [htally], Or.inl ⟨by rw [htally], by rw [htally], ?_⟩⟩
    rw [hput, hsession]
  · refine ⟨⟨hsource, htarget⟩, by rw [htally], Or.inr ⟨?_, by rw [htally], by rw [htally], htrail.store_eq⟩⟩
    refine hcause.imp_right ?_
    rintro ⟨source', target', e, -, hput⟩
    have hnan := putEdge_error hput
    rw [Edge.ofDescriptor_confidence] at hnan
    exact Edge.isNaN_of_clamp hnan

theorem foldl_writeEdge_hasEdge {k : Edge.Key} (ds : List RelationshipDescriptor) (h : p.session.store.HasEdge k) :
    (ds.foldl (writeEdge faults ways) p).session.store.HasEdge k := by
  have trail : Trail (Move ways .merge ⟨[], ds⟩) p.session (ds.foldl (writeEdge faults ways) p).session :=
    foldl_writeEdge_trail (fun _ hd => hd) p
  exact trail.keeps_store (fun _ _ => Move.hasEdge) h

end Joined

/-! ## Histories -/

section History
variable {faults : Faults} {mode : Mode} {a : Analysis} {s : Session}

theorem history_exact (faults : Faults) (jobs : List Job) :
    ∀ g ∈ (history faults (.start .empty) jobs).stores, g.Exact :=
  history_of_empty (fun _ _ _ _ _ => Exact.move) (fun _ hn => absurd hn List.not_mem_nil) faults jobs

/-- The progress of a run once the resources and some of the relationships are written. -/
def progressBehind (faults : Faults) (p : Progress) (a : Analysis) (front : List RelationshipDescriptor) : Progress :=
  front.foldl (writeEdge faults Strategy.all) (a.resources.foldl (writeNode faults) p)

/-- In a run from a session, each relationship whose ends name ids of resources that this run wrote joins these
    two, and its edge, once it is written, is in the final graph. -/
def JoinsWritten (faults : Faults) (mode : Mode) (s : Session) (a : Analysis) : Prop :=
  ∀ tally t front d back source target, prepare faults mode s = (.ok tally, t) → a.relationships = front ++ d :: back →
    Written faults ⟨tally, t⟩ a.resources source → Written faults ⟨tally, t⟩ a.resources target →
    trim d.source = source → trim d.target = target →
    Joined faults d source target (progressBehind faults ⟨tally, t⟩ a front)
        (progressBehind faults ⟨tally, t⟩ a (front ++ [d])) ∧
      ((progressBehind faults ⟨tally, t⟩ a (front ++ [d])).tally.edgesWritten =
          (progressBehind faults ⟨tally, t⟩ a front).tally.edgesWritten + 1 →
        (run faults Strategy.all mode s a).2.store.HasEdge ⟨source, target, relationshipType d.type⟩)

theorem progressBehind_append (faults : Faults) (p : Progress) (a : Analysis)
    (front back : List RelationshipDescriptor) : progressBehind faults p a (front ++ back) =
      back.foldl (writeEdge faults Strategy.all) (progressBehind faults p a front) := by
  unfold progressBehind
  rw [List.foldl_append]

/-- The calls of a run so far are a trail from its session. -/
theorem progressBehind_trail {tally : Tally} {t : Session} {front : List RelationshipDescriptor}
    (hprep : prepare faults mode s = (.ok tally, t)) (hfront : ∀ d ∈ front, d ∈ a.relationships) :
    Trail (Move Strategy.all mode a) s (progressBehind faults ⟨tally, t⟩ a front).session := by
  unfold progressBehind
  exact ((prepare_trail hprep).trans (foldl_writeNode_trail faults ⟨tally, t⟩)).trans (foldl_writeEdge_trail hfront _)

theorem run_store {tally : Tally} {t : Session} (hprep : prepare faults mode s = (.ok tally, t)) :
    (run faults Strategy.all mode s a).2.store =
      (progressBehind faults ⟨tally, t⟩ a a.relationships).session.store := by
  unfold run
  rw [hprep]
  exact store_write faults Strategy.all _ a

theorem Written.hasNode_behind {p : Progress} {id : String} (h : Written faults p a.resources id)
    (front : List RelationshipDescriptor) : (progressBehind faults p a front).session.store.HasNode id := by
  unfold progressBehind HasNode
  rw [foldl_writeEdge_nodes]
  exact h.hasNode

theorem joinsWritten_of (mode : Mode) (a : Analysis) (hsound : ∀ g ∈ s.stores, g.Sound) (hex : ∀ g ∈ s.stores, g.Exact) :
    JoinsWritten faults mode s a := by
  intro tally t front d back source target hprep hrel hsource htarget hs ht
  have htrail : Trail (Move Strategy.all mode a) s (progressBehind faults ⟨tally, t⟩ a front).session :=
    progressBehind_trail hprep fun d' hd' => by
      rw [hrel]
      exact List.mem_append_left _ hd'
  have sound := htrail.keeps (fun _ _ => Sound.move) hsound _ List.mem_cons_self
  have ids := htrail.keeps (fun _ _ => Exact.move) hex _ List.mem_cons_self
  have joined : Joined faults d source target (progressBehind faults ⟨tally, t⟩ a front)
      (progressBehind faults ⟨tally, t⟩ a (front ++ [d])) := by
    rw [progressBehind_append, List.foldl_cons, List.foldl_nil]
    exact joined_writeEdge sound.ordered ids (hsource.hasNode_behind front) (htarget.hasNode_behind front) hs ht
  refine ⟨joined, fun hcount => ?_⟩
  rcases joined.outcome with ⟨-, -, hput⟩ | ⟨-, hsame, -⟩
  · -- The rest of the run writes relationships only, and these keep every key.
    have hrel' : a.relationships = (front ++ [d]) ++ back := by rw [hrel, List.append_assoc, List.singleton_append]
    rw [run_store hprep, hrel', progressBehind_append]
    exact foldl_writeEdge_hasEdge back (hasEdge_putEdge hput)
  · omega

/-- In every store of a history each node goes by its id alone, and every text that spells this id out leads to
    it and to no other node. So a relationship between two resources that the same run wrote joins these two. -/
theorem history_leadsTo (faults : Faults) (jobs : List Job) :
    (∀ g ∈ (history faults (.start .empty) jobs).stores, ∀ n ∈ g.nodes,
      (n.resourceId = none ∨ n.resourceId = some n.id) ∧ trim n.id = n.id ∧
      ∀ ref, trim ref = n.id → Endpoint.LeadsTo g ref n) ∧
    ∀ mode a, JoinsWritten faults mode (history faults (.start .empty) jobs) a := by
  have sound := history_sound faults jobs
  have ids := history_exact faults jobs
  refine ⟨fun g hg n hn => ⟨(ids g hg n hn).given, trim_eq_self (ids g hg n hn).bare, fun ref href => ?_⟩,
    fun mode a => joinsWritten_of mode a sound ids⟩
  exact Endpoint.leadsTo_of_trim (sound g hg).ordered (ids g hg) hn href

/-- The second relationship of `uses` joins the two resources. -/
theorem history_leadsTo_uses :
    (run noFaults Strategy.all .merge (.start .empty) uses).2.store.HasEdge ⟨"a", "b", relationshipType "uses"⟩ :=
  ((history_leadsTo noFaults []).2 .merge uses (.start .merge) (.start .empty) [⟨"a", "a", "uses", "", 1.0⟩]
    ⟨"a", "b", "uses", "", 1.0⟩ [] "a" "b" rfl rfl ⟨[], _, _, rfl, by decide +kernel, rfl⟩
    ⟨[_], _, [], rfl, by decide +kernel, rfl⟩ (by decide +kernel) (by decide +kernel)).2 (by decide +kernel)

end History

end Materialize

end ResourceGraph
