import ResourceGraph.Graph.Materialize
import ResourceGraph.Proofs.Graph.Calls
import ResourceGraph.Proofs.Graph.Stores

/-! # What a run does to the stored graph

A run is a trail of calls, and a call of it makes one of four moves (`Move`): it leaves the graph, clears
it, stores the node of a resource, or stores an edge between the two nodes that the ends of a relationship
lead to in that very graph. `writeNode_inv` and `writeEdge_inv` say what writing one record counts and
stores; everything about runs is proved from these two and from the trail. -/

namespace ResourceGraph
open Store

/-! ## The ends of a relationship -/

/-- The id of the node that a text leads to in a store, where no call fails. -/
def Endpoint.idOf? (ways : List Strategy) (g : Store) (ref : String) : Option String :=
  match (Endpoint.resolve noFaults ways (.start g) ref).1 with
  | .ok (some (node, _)) => some node.id
  | _ => none

theorem Endpoint.idOf?_eq (ways : List Strategy) (g : Store) (ref : String) :
    Endpoint.idOf? ways g ref = (Endpoint.find? ways g ref).map fun found => found.1.id := by
  have hstore : (Session.start g).store = g := rfl
  unfold Endpoint.idOf?
  rw [Endpoint.resolve_noFaults, hstore]
  cases Endpoint.find? ways g ref <;> rfl

namespace Materialize

/-- The ids of the nodes that the two ends of a relationship lead to. -/
def ends? (ways : List Strategy) (g : Store) (d : RelationshipDescriptor) : Option (String × String) :=
  (Endpoint.idOf? ways g d.source).bind fun source =>
    (Endpoint.idOf? ways g d.target).map fun target => (source, target)

/-- The way in which one end is found, if it is. -/
def wayOf (ways : List Strategy) (g : Store) (ref : String) : List Strategy :=
  ((Endpoint.find? ways g ref).map Prod.snd).toList

/-- The ways in which the ends of a relationship are found, that of the target first. The target is not
    looked for if the source leads nowhere. -/
def waysOf (ways : List Strategy) (g : Store) (d : RelationshipDescriptor) : List Strategy :=
  if (Endpoint.find? ways g d.source).isSome then wayOf ways g d.target ++ wayOf ways g d.source else []

theorem idOf?_hasNode {ways : List Strategy} {g : Store} {ref id : String}
    (h : Endpoint.idOf? ways g ref = some id) : g.HasNode id := by
  rw [Endpoint.idOf?_eq] at h
  obtain ⟨⟨node, way⟩, hfind, rfl⟩ := Option.map_eq_some_iff.mp h
  exact ⟨node, Endpoint.find?_mem hfind, rfl⟩

theorem ends?_eq_some {ways : List Strategy} {g : Store} {d : RelationshipDescriptor} {source target : String} :
    ends? ways g d = some (source, target) ↔
      Endpoint.idOf? ways g d.source = some source ∧ Endpoint.idOf? ways g d.target = some target := by
  unfold ends?
  cases Endpoint.idOf? ways g d.source <;> cases Endpoint.idOf? ways g d.target <;> simp

theorem length_waysOf_le (ways : List Strategy) (g : Store) (d : RelationshipDescriptor) :
    (waysOf ways g d).length ≤ 2 := by
  unfold waysOf wayOf
  cases Endpoint.find? ways g d.source <;> cases Endpoint.find? ways g d.target <;> simp

/-- If both ends of a relationship are found, each of them is found in one way. -/
theorem length_waysOf {ways : List Strategy} {g : Store} {d : RelationshipDescriptor} {source target : String}
    (h : ends? ways g d = some (source, target)) : (waysOf ways g d).length = 2 := by
  obtain ⟨hs, ht⟩ := ends?_eq_some.mp h
  rw [Endpoint.idOf?_eq] at hs ht
  obtain ⟨found, hfound, -⟩ := Option.map_eq_some_iff.mp hs
  obtain ⟨found', hfound', -⟩ := Option.map_eq_some_iff.mp ht
  simp [waysOf, wayOf, hfound, hfound']

/-! ## Moves -/

/-- What one call of a run may do to the stored graph. -/
inductive Move (ways : List Strategy) (mode : Mode) (a : Analysis) (g : Store) : Store → Prop where
  | stay : Move ways mode a g g
  | clear : mode = .replace → Move ways mode a g .empty
  | node {d : ResourceDescriptor} : d ∈ a.resources → Move ways mode a g (g.putNode (.ofDescriptor d))
  | edge {d : RelationshipDescriptor} {source target : String} {h : Store} : d ∈ a.relationships →
      ends? ways g d = some (source, target) → g.putEdge (.ofDescriptor source target d) = .ok h →
      Move ways mode a g h

/-- A run that merges clears nothing, so each of its moves keeps every id. -/
theorem Move.hasNode {ways : List Strategy} {a : Analysis} {g g' : Store} {id : String} (h : Move ways .merge a g g')
    (hid : g.HasNode id) : g'.HasNode id := by
  cases h with
  | stay => exact hid
  | clear hmode => cases hmode
  | node => exact hid.putNode _
  | edge _ _ hput => exact hid.putEdge hput

theorem Move.hasEdge {ways : List Strategy} {a : Analysis} {g g' : Store} {k : Edge.Key} (h : Move ways .merge a g g')
    (hk : g.HasEdge k) : g'.HasEdge k := by
  cases h with
  | stay => exact hk
  | clear hmode => cases hmode
  | node => exact hk
  | edge _ _ hput => exact hk.putEdge hput

/-- What writing one record leaves alone, writing many leaves alone. -/
theorem foldl_unchanged {α β : Type} {f : Progress → β} {write : Progress → α → Progress}
    (step : ∀ p d, f (write p d) = f p) (ds : List α) (p : Progress) : f (ds.foldl write p) = f p := by
  induction ds generalizing p with
  | nil => rfl
  | cons d ds ih => rw [List.foldl_cons, ih, step]

section Steps
variable {faults : Faults} {ways : List Strategy} {p q : Progress} {d : RelationshipDescriptor}

/-! ## Writing one resource -/

/-- A resource is stored and counted as written, or its call fails and it is counted as failed. -/
theorem writeNode_inv (faults : Faults) (p : Progress) (r : ResourceDescriptor) :
    writeNode faults p r = ⟨{ p.tally with nodesWritten := p.tally.nodesWritten + 1 },
        ⟨p.session.store.putNode (.ofDescriptor r), p.session.stores⟩⟩ ∨
      (faults.Hit ∧ writeNode faults p r = ⟨{ p.tally with nodesFailed := p.tally.nodesFailed + 1 },
        ⟨p.session.store, p.session.stores⟩⟩) := by
  unfold writeNode
  split
  · rename_i t hput
    unfold Session.putNode at hput
    obtain ⟨g, hact, rfl⟩ := Session.call_ok hput
    cases hact
    exact Or.inl rfl
  · rename_i e t hput
    unfold Session.putNode at hput
    obtain ⟨hf | hact, rfl⟩ := Session.call_error hput
    · exact Or.inr ⟨hf, rfl⟩
    · cases hact

/-! ## Finding the ends of one relationship -/

theorem findEnd_ok {ref : String} {x : Option String} (h : findEnd faults ways p ref = (.ok x, q)) :
    x = Endpoint.idOf? ways p.session.store ref ∧ Trail Eq p.session q.session ∧
      q.tally = { p.tally with resolvedBy := wayOf ways p.session.store ref ++ p.tally.resolvedBy } := by
  unfold findEnd at h
  split at h
  · cases h
  · rename_i t hres
    obtain ⟨hx, htrail⟩ := Endpoint.resolve_ok hres
    cases h
    simp only [Endpoint.idOf?_eq, wayOf, ← hx]
    exact ⟨rfl, htrail, rfl⟩
  · rename_i node way t hres
    obtain ⟨hx, htrail⟩ := Endpoint.resolve_ok hres
    cases h
    simp only [Endpoint.idOf?_eq, wayOf, ← hx]
    exact ⟨rfl, htrail, rfl⟩

theorem findEnd_error {ref : String} {e : Error} (h : findEnd faults ways p ref = (.error e, q)) :
    faults.Hit ∧ Trail Eq p.session q.session ∧ q.tally = p.tally := by
  unfold findEnd at h
  split at h
  · rename_i hres
    obtain ⟨hf, htrail⟩ := Endpoint.resolve_error hres
    cases h
    exact ⟨hf, htrail, rfl⟩
  · cases h
  · cases h

theorem findEnds_ok {x : Option (String × String)} (h : findEnds faults ways p d = (.ok x, q)) :
    x = ends? ways p.session.store d ∧ Trail Eq p.session q.session ∧
      q.tally = { p.tally with resolvedBy := waysOf ways p.session.store d ++ p.tally.resolvedBy } := by
  -- Whether the target is looked for depends on what the search for the source came to.
  have isSome_source : ∀ {y : Option String}, y = Endpoint.idOf? ways p.session.store d.source →
      (Endpoint.find? ways p.session.store d.source).isSome = y.isSome := by
    rintro y rfl
    simp [Endpoint.idOf?_eq]
  unfold findEnds at h
  split at h
  · cases h
  · rename_i p₁ hs
    obtain ⟨hx, htrail, htally⟩ := findEnd_ok hs
    cases h
    have hnone : Endpoint.find? ways p.session.store d.source = none := by simpa using isSome_source hx
    refine ⟨by simp [ends?, ← hx], htrail, ?_⟩
    rw [htally]
    simp [waysOf, wayOf, hnone]
  · rename_i source p₁ hs
    obtain ⟨hx, htrail, htally⟩ := findEnd_ok hs
    have hsome := isSome_source hx
    have both : ∀ {y : Option String} {p₂ : Progress}, findEnd faults ways p₁ d.target = (.ok y, p₂) →
        y = Endpoint.idOf? ways p.session.store d.target ∧ Trail Eq p.session p₂.session ∧
        p₂.tally = { p.tally with resolvedBy := waysOf ways p.session.store d ++ p.tally.resolvedBy } := by
      intro y p₂ ht
      obtain ⟨hy, htrail', htally'⟩ := findEnd_ok ht
      rw [htrail.store_eq] at hy htally'
      refine ⟨hy, htrail.trans htrail', ?_⟩
      rw [htally', htally]
      simp [waysOf, hsome]
    split at h
    · cases h
    · rename_i p₂ ht
      obtain ⟨hy, htrail', htally'⟩ := both ht
      cases h
      exact ⟨by simp [ends?, ← hx, ← hy], htrail', htally'⟩
    · rename_i target p₂ ht
      obtain ⟨hy, htrail', htally'⟩ := both ht
      cases h
      exact ⟨by simp [ends?, ← hx, ← hy], htrail', htally'⟩

theorem findEnds_error {e : Error} (h : findEnds faults ways p d = (.error e, q)) :
    faults.Hit ∧ Trail Eq p.session q.session ∧ ∃ found, found.length ≤ 1 ∧
      q.tally = { p.tally with resolvedBy := found ++ p.tally.resolvedBy } := by
  unfold findEnds at h
  split at h
  · rename_i hs
    obtain ⟨hf, htrail, htally⟩ := findEnd_error hs
    cases h
    exact ⟨hf, htrail, [], by simp, htally⟩
  · cases h
  · rename_i source p₁ hs
    obtain ⟨-, htrail, htally⟩ := findEnd_ok hs
    split at h
    · rename_i ht
      obtain ⟨hf, htrail', htally'⟩ := findEnd_error ht
      cases h
      refine ⟨hf, htrail.trans htrail', _, ?_, htally'.trans htally⟩
      unfold wayOf
      cases Endpoint.find? ways p.session.store d.source <;> simp
    · cases h
    · cases h

/-! ## Writing one relationship -/

/-- A relationship that leads nowhere at one end is left out; one that leads to two nodes is stored between
    them; one whose calls fail, or whose edge is refused, leaves the graph as it is. -/
theorem writeEdge_inv (faults : Faults) (ways : List Strategy) (p : Progress) (d : RelationshipDescriptor) :
    (ends? ways p.session.store d = none ∧ Trail Eq p.session (writeEdge faults ways p d).session ∧
      (writeEdge faults ways p d).tally = { p.tally with
        edgesUnresolved := p.tally.edgesUnresolved + 1
        resolvedBy := waysOf ways p.session.store d ++ p.tally.resolvedBy }) ∨
    (∃ source target g t, ends? ways p.session.store d = some (source, target) ∧
      p.session.store.putEdge (.ofDescriptor source target d) = .ok g ∧ Trail Eq p.session t ∧
      (writeEdge faults ways p d).session = ⟨g, t.stores⟩ ∧
      (writeEdge faults ways p d).tally = { p.tally with
        edgesWritten := p.tally.edgesWritten + 1
        resolvedBy := waysOf ways p.session.store d ++ p.tally.resolvedBy }) ∨
    ((faults.Hit ∨ ∃ source target e, ends? ways p.session.store d = some (source, target) ∧
        p.session.store.putEdge (.ofDescriptor source target d) = .error e) ∧
      Trail Eq p.session (writeEdge faults ways p d).session ∧ ∃ found, found.length ≤ 2 ∧
      (writeEdge faults ways p d).tally = { p.tally with
        edgesFailed := p.tally.edgesFailed + 1
        resolvedBy := found ++ p.tally.resolvedBy }) := by
  unfold writeEdge
  split
  · rename_i q hends
    obtain ⟨hf, htrail, found, hlen, htally⟩ := findEnds_error hends
    refine Or.inr (Or.inr ⟨Or.inl hf, htrail, found, by omega, ?_⟩)
    simp [Progress.failEdge, htally]
  · rename_i q hends
    obtain ⟨hx, htrail, htally⟩ := findEnds_ok hends
    refine Or.inl ⟨hx.symm, htrail, ?_⟩
    simp [htally]
  · rename_i source target q hends
    obtain ⟨hx, htrail, htally⟩ := findEnds_ok hends
    split
    · rename_i t hput
      obtain ⟨g, hg, rfl⟩ := Session.putEdge_ok hput
      rw [htrail.store_eq] at hg
      refine Or.inr (Or.inl ⟨source, target, g, q.session, hx.symm, hg, htrail, rfl, ?_⟩)
      simp [htally]
    · rename_i e t hput
      obtain ⟨hcause, rfl⟩ := Session.putEdge_error hput
      refine Or.inr (Or.inr ⟨?_, htrail.call rfl, _, length_waysOf_le ways p.session.store d, ?_⟩)
      · rcases hcause with hf | ⟨err, herr⟩
        · exact Or.inl hf
        · rw [htrail.store_eq] at herr
          exact Or.inr ⟨source, target, err, hx.symm, herr⟩
      · simp [Progress.failEdge, htally]

/-- Writing a relationship changes no node. -/
theorem writeEdge_nodes (faults : Faults) (ways : List Strategy) (p : Progress) (d : RelationshipDescriptor) :
    (writeEdge faults ways p d).session.store.nodes = p.session.store.nodes := by
  rcases writeEdge_inv faults ways p d with ⟨-, h, -⟩ | ⟨_, _, g, t, -, hput, -, h, -⟩ | ⟨-, h, -⟩
  · rw [h.store_eq]
  · rw [h]
    exact putEdge_nodes hput
  · rw [h.store_eq]

theorem foldl_writeEdge_nodes (faults : Faults) (ways : List Strategy) (ds : List RelationshipDescriptor)
    (p : Progress) : (ds.foldl (writeEdge faults ways) p).session.store.nodes = p.session.store.nodes :=
  foldl_unchanged (f := fun p => p.session.store.nodes) (writeEdge_nodes faults ways) ds p

/-! ## Writing where no call fails -/

theorem writeNode_noFaults (p : Progress) (r : ResourceDescriptor) :
    writeNode noFaults p r = ⟨{ p.tally with nodesWritten := p.tally.nodesWritten + 1 },
      ⟨p.session.store.putNode (.ofDescriptor r), p.session.stores⟩⟩ := by
  rcases writeNode_inv noFaults p r with heq | ⟨hf, -⟩
  · exact heq
  · exact absurd hf not_hit_noFaults

theorem writeEdge_noFaults_of_none (hends : ends? ways p.session.store d = none) :
    (writeEdge noFaults ways p d).session.store = p.session.store ∧
      (writeEdge noFaults ways p d).tally = { p.tally with
        edgesUnresolved := p.tally.edgesUnresolved + 1
        resolvedBy := waysOf ways p.session.store d ++ p.tally.resolvedBy } := by
  rcases writeEdge_inv noFaults ways p d with ⟨-, htrail, htally⟩ | ⟨_, _, _, _, hsome, -⟩ |
    ⟨hf | ⟨_, _, _, hsome, -⟩, -⟩
  · exact ⟨htrail.store_eq, htally⟩
  · rw [hends] at hsome
    cases hsome
  · exact absurd hf not_hit_noFaults
  · rw [hends] at hsome
    cases hsome

theorem writeEdge_noFaults_of_some {source target : String} {g : Store}
    (hends : ends? ways p.session.store d = some (source, target))
    (hput : p.session.store.putEdge (.ofDescriptor source target d) = .ok g) :
    (writeEdge noFaults ways p d).session.store = g ∧
      (writeEdge noFaults ways p d).tally = { p.tally with
        edgesWritten := p.tally.edgesWritten + 1
        resolvedBy := waysOf ways p.session.store d ++ p.tally.resolvedBy } := by
  rcases writeEdge_inv noFaults ways p d with ⟨hnone, -⟩ | ⟨_, _, g', t, hsome, hput', -, hsession, htally⟩ |
    ⟨hf | ⟨_, _, _, hsome, hput'⟩, -⟩
  · rw [hends] at hnone
    cases hnone
  · rw [hends] at hsome
    cases hsome
    rw [hput] at hput'
    cases hput'
    exact ⟨by rw [hsession], htally⟩
  · exact absurd hf not_hit_noFaults
  · rw [hends] at hsome
    cases hsome
    rw [hput] at hput'
    cases hput'

theorem writeEdge_noFaults_of_refused {source target : String} {e : Error}
    (hends : ends? ways p.session.store d = some (source, target))
    (hput : p.session.store.putEdge (.ofDescriptor source target d) = .error e) :
    (writeEdge noFaults ways p d).session.store = p.session.store ∧
      (writeEdge noFaults ways p d).tally = { p.tally with
        edgesFailed := p.tally.edgesFailed + 1
        resolvedBy := waysOf ways p.session.store d ++ p.tally.resolvedBy } := by
  unfold writeEdge
  split
  · rename_i hfound
    exact absurd (findEnds_error hfound).1 not_hit_noFaults
  · rename_i hfound
    obtain ⟨hx, -⟩ := findEnds_ok hfound
    rw [hends] at hx
    cases hx
  · rename_i hfound
    obtain ⟨hx, htrail, htally⟩ := findEnds_ok hfound
    rw [hends] at hx
    cases hx
    split
    · rename_i hstored
      obtain ⟨g, hg, -⟩ := Session.putEdge_ok hstored
      rw [htrail.store_eq, hput] at hg
      cases hg
    · rename_i hstored
      obtain ⟨-, rfl⟩ := Session.putEdge_error hstored
      refine ⟨htrail.store_eq, ?_⟩
      simp [Progress.failEdge, htally]

end Steps

/-! ## Whole runs -/

section Runs
variable {faults : Faults} {ways : List Strategy} {mode : Mode} {a : Analysis} {s t : Session}

/-- A run begins with the graph as it is, or with the empty one; or it ends at once since the graph could
    not be cleared, and leaves it. -/
theorem prepare_inv (faults : Faults) (mode : Mode) (s : Session) :
    (mode = .merge ∧ prepare faults mode s = (.ok (.start mode), s)) ∨
      (mode = .replace ∧ prepare faults mode s =
        (.ok { Tally.start mode with clearedNodes := s.store.nodes.length }, ⟨.empty, s.stores⟩)) ∨
      (mode = .replace ∧ faults.Hit ∧ ∃ e, prepare faults mode s = (.error (.notCleared e), ⟨s.store, s.stores⟩)) := by
  cases mode with
  | merge => exact Or.inl ⟨rfl, rfl⟩
  | replace =>
    unfold prepare
    dsimp only
    split
    · rename_i e t hclear
      unfold Session.clear at hclear
      obtain ⟨hf | hact, rfl⟩ := Session.call_error hclear
      · exact Or.inr (Or.inr ⟨rfl, hf, e, rfl⟩)
      · cases hact
    · rename_i n t hclear
      unfold Session.clear at hclear
      obtain ⟨g, hact, rfl⟩ := Session.call_ok hclear
      cases hact
      exact Or.inr (Or.inl ⟨rfl, rfl⟩)

/-- Only the call that clears the graph can end a run. -/
theorem prepare_error_iff {e : Error} : (prepare faults mode s).1 = .error e ↔
    mode = .replace ∧ ∃ cause, (s.clear faults).1 = .error cause ∧ e = .notCleared cause := by
  cases mode with
  | merge => simp [prepare]
  | replace =>
    unfold prepare
    dsimp only
    split
    · rename_i cause t hclear
      simp [hclear, eq_comm]
    · rename_i n t hclear
      simp [hclear]

theorem prepare_noFaults (mode : Mode) (s : Session) : ∃ tally t, prepare noFaults mode s = (.ok tally, t) := by
  rcases prepare_inv noFaults mode s with ⟨-, heq⟩ | ⟨-, heq⟩ | ⟨-, hf, -⟩
  · exact ⟨_, _, heq⟩
  · exact ⟨_, _, heq⟩
  · exact absurd hf not_hit_noFaults

theorem prepare_trail {outcome : Except Error Tally} (h : prepare faults mode s = (outcome, t)) :
    Trail (Move ways mode a) s t := by
  rcases prepare_inv faults mode s with ⟨-, heq⟩ | ⟨hmode, heq⟩ | ⟨-, -, e, heq⟩
  · rw [heq] at h
    cases h
    exact .refl
  · rw [heq] at h
    cases h
    exact .one (.clear hmode)
  · rw [heq] at h
    cases h
    exact .one .stay

/-- Calls that only ask are moves. -/
theorem trail_of_asks (h : Trail Eq s t) : Trail (Move ways mode a) s t := h.mono fun _ _ heq => heq ▸ .stay

theorem writeIndexes_trail (faults : Faults) (p : Progress) : Trail Eq p.session (writeIndexes faults p).session := by
  unfold writeIndexes
  split
  · rename_i hcall
    exact (Session.ask_ok hcall).2
  · rename_i hcall
    exact (Session.ask_error hcall).2

/-- Making the indexes changes no graph, so a run leaves what it has written. -/
theorem store_write (faults : Faults) (ways : List Strategy) (p : Progress) (a : Analysis) :
    (write faults ways p a).session.store =
      (a.relationships.foldl (writeEdge faults ways) (a.resources.foldl (writeNode faults) p)).session.store :=
  (writeIndexes_trail faults _).store_eq

theorem writeNode_trail {d : ResourceDescriptor} (hd : d ∈ a.resources) (p : Progress) :
    Trail (Move ways mode a) p.session (writeNode faults p d).session := by
  rcases writeNode_inv faults p d with h | ⟨-, h⟩
  · rw [h]
    exact .one (.node hd)
  · rw [h]
    exact .one .stay

theorem writeEdge_trail {d : RelationshipDescriptor} (hd : d ∈ a.relationships) (p : Progress) :
    Trail (Move ways mode a) p.session (writeEdge faults ways p d).session := by
  rcases writeEdge_inv faults ways p d with ⟨-, h, -⟩ | ⟨source, target, g, t, hends, hput, h, heq, -⟩ | ⟨-, h, -⟩
  · exact trail_of_asks h
  · rw [heq]
    rw [← h.store_eq] at hends hput
    exact (trail_of_asks h).call (.edge hd hends hput)
  · exact trail_of_asks h

theorem foldl_trail {α : Type} {R : Store → Store → Prop} {write : Progress → α → Progress} {ds : List α}
    (h : ∀ d ∈ ds, ∀ p, Trail R p.session (write p d).session) (p : Progress) :
    Trail R p.session (ds.foldl write p).session := by
  induction ds generalizing p with
  | nil => exact .refl
  | cons d rest ih =>
    exact (h d List.mem_cons_self p).trans (ih (fun d' hd' => h d' (List.mem_cons_of_mem _ hd')) _)

theorem foldl_writeNode_trail (faults : Faults) (p : Progress) :
    Trail (Move ways mode a) p.session (a.resources.foldl (writeNode faults) p).session :=
  foldl_trail (fun _ hd p => writeNode_trail hd p) p

theorem foldl_writeEdge_trail {ds : List RelationshipDescriptor} (hds : ∀ d ∈ ds, d ∈ a.relationships)
    (p : Progress) : Trail (Move ways mode a) p.session (ds.foldl (writeEdge faults ways) p).session :=
  foldl_trail (fun d hd p => writeEdge_trail (hds d hd) p) p

/-- A run is a trail of moves. -/
theorem run_trail (faults : Faults) (ways : List Strategy) (mode : Mode) (s : Session) (a : Analysis) :
    Trail (Move ways mode a) s (run faults ways mode s a).2 := by
  have writes : ∀ p : Progress, Trail (Move ways mode a) p.session (write faults ways p a).session := fun p =>
    ((foldl_writeNode_trail faults p).trans (foldl_writeEdge_trail (fun _ hd => hd) _)).trans
      (trail_of_asks (writeIndexes_trail faults _))
  unfold run
  split
  · rename_i hprep
    exact prepare_trail hprep
  · rename_i tally t hprep
    exact (prepare_trail hprep).trans (writes ⟨tally, t⟩)

/-- A run ends without its numbers just where it is to clear the graph and cannot; then it leaves the graph. -/
theorem run_error_iff {e : Error} : (run faults ways mode s a).1 = .error e ↔
    mode = .replace ∧ ∃ cause, (s.clear faults).1 = .error cause ∧ e = .notCleared cause := by
  rw [← prepare_error_iff]
  unfold run
  split
  · rename_i hprep
    rw [hprep]
  · rename_i hprep
    simp [hprep]

theorem run_error_store {e : Error} (h : run faults ways mode s a = (.error e, t)) : t.store = s.store := by
  unfold run at h
  split at h
  · rename_i hprep
    cases h
    rcases prepare_inv faults mode s with ⟨-, heq⟩ | ⟨-, heq⟩ | ⟨-, -, cause, heq⟩
    all_goals
      rw [heq] at hprep
      cases hprep
    rfl
  · cases h

end Runs

end Materialize

end ResourceGraph
