import ResourceGraph.Graph.Endpoint

/-! # Calls to a store

What each call does: it fails and leaves the store, or it gives its answer. A piece of work makes a trail
of calls, and a property that every call of it keeps holds of all stores on the way (`Trail.keeps`).

A search for the end of a relationship makes calls that only ask. If none of them fails it finds what
`Endpoint.find?` finds in the store, which stays as it is. -/

namespace ResourceGraph

/-! ## Trails -/

/-- The stores before each call so far and behind the last one, the latest first. -/
def Session.stores (s : Session) : List Store := s.store :: s.past

/-- Calls that lead from one session to another, each of them from a store to one that `R` allows. -/
inductive Trail (R : Store → Store → Prop) (s : Session) : Session → Prop where
  | refl : Trail R s s
  | call {t : Session} {g : Store} : Trail R s t → R t.store g → Trail R s ⟨g, t.stores⟩

namespace Trail
variable {R R' : Store → Store → Prop} {s t u : Session}

theorem one {g : Store} (h : R s.store g) : Trail R s ⟨g, s.stores⟩ := .call .refl h

theorem trans (h₁ : Trail R s t) (h₂ : Trail R t u) : Trail R s u := by
  induction h₂ with
  | refl => exact h₁
  | call _ hr ih => exact ih.call hr

theorem mono (h : Trail R s t) (hR : ∀ g g', R g g' → R' g g') : Trail R' s t := by
  induction h with
  | refl => exact .refl
  | call _ hr ih => exact ih.call (hR _ _ hr)

/-- What every call keeps holds of all stores on the way. -/
theorem keeps {P : Store → Prop} (h : Trail R s t) (hR : ∀ g g', R g g' → P g → P g')
    (hs : ∀ g ∈ s.stores, P g) : ∀ g ∈ t.stores, P g := by
  induction h with
  | refl => exact hs
  | @call t g _ hr ih =>
    intro g' hg'
    rcases List.mem_cons.mp hg' with rfl | hg'
    · exact hR _ _ hr (ih _ List.mem_cons_self)
    · exact ih g' hg'

/-- What every call keeps holds of the store behind the last one. -/
theorem keeps_store {P : Store → Prop} (h : Trail R s t) (hR : ∀ g g', R g g' → P g → P g') (hs : P s.store) :
    P t.store := by
  induction h with
  | refl => exact hs
  | call _ hr ih => exact hR _ _ hr ih

theorem store_eq (h : Trail Eq s t) : t.store = s.store :=
  h.keeps_store (fun _ _ heq hg => heq.symm.trans hg) rfl

end Trail

/-! ## Single calls -/

/-- Some call is to fail. -/
def Faults.Hit (faults : Faults) : Prop := ∃ n c e, faults n c = some e

theorem not_hit_noFaults : ¬noFaults.Hit := by
  rintro ⟨_, _, _, h⟩
  cases h

section Calls
variable {faults : Faults} {s t : Session} {c : Call} {α : Type} {e : Error}

theorem Session.call_ok {act : Store → Except Error (α × Store)} {x : α} (h : s.call faults c act = (.ok x, t)) :
    ∃ g, act s.store = .ok (x, g) ∧ t = ⟨g, s.stores⟩ := by
  unfold Session.call at h
  split at h
  · cases h
  · split at h
    · cases h
    · rename_i hact
      cases h
      exact ⟨_, hact, rfl⟩

theorem Session.call_error {act : Store → Except Error (α × Store)} (h : s.call faults c act = (.error e, t)) :
    (faults.Hit ∨ act s.store = .error e) ∧ t = ⟨s.store, s.stores⟩ := by
  unfold Session.call at h
  split at h
  · rename_i hf
    cases h
    exact ⟨Or.inl ⟨_, _, _, hf⟩, rfl⟩
  · split at h
    · rename_i hact
      cases h
      exact ⟨Or.inr hact, rfl⟩
    · cases h

theorem Session.ask_ok {answer : Store → α} {x : α} (h : s.ask faults c answer = (.ok x, t)) :
    x = answer s.store ∧ Trail Eq s t := by
  unfold Session.ask at h
  obtain ⟨g, hact, rfl⟩ := Session.call_ok h
  cases hact
  exact ⟨rfl, .one rfl⟩

theorem Session.ask_error {answer : Store → α} (h : s.ask faults c answer = (.error e, t)) :
    faults.Hit ∧ Trail Eq s t := by
  unfold Session.ask at h
  obtain ⟨hf | hact, rfl⟩ := Session.call_error h
  · exact ⟨hf, .one rfl⟩
  · cases hact

theorem Session.putEdge_ok {x : Unit} {edge : Edge} (h : s.putEdge faults edge = (.ok x, t)) :
    ∃ g, s.store.putEdge edge = .ok g ∧ t = ⟨g, s.stores⟩ := by
  unfold Session.putEdge at h
  obtain ⟨g, hact, rfl⟩ := Session.call_ok h
  cases hput : s.store.putEdge edge with
  | error err => simp [hput, Except.map] at hact
  | ok g' =>
    simp only [hput, Except.map, Except.ok.injEq, Prod.mk.injEq, true_and] at hact
    exact ⟨g', rfl, by rw [hact]⟩

theorem Session.putEdge_error {edge : Edge} (h : s.putEdge faults edge = (.error e, t)) :
    (faults.Hit ∨ ∃ err, s.store.putEdge edge = .error err) ∧ t = ⟨s.store, s.stores⟩ := by
  unfold Session.putEdge at h
  obtain ⟨hf | hact, rfl⟩ := Session.call_error h
  · exact ⟨Or.inl hf, rfl⟩
  · cases hput : s.store.putEdge edge with
    | error err => exact ⟨Or.inr ⟨err, rfl⟩, rfl⟩
    | ok g => simp [hput, Except.map] at hact

end Calls

/-! ## Searches -/

/-- The node that one way finds in a store. -/
def Strategy.find? (g : Store) (ref : String) : Strategy → Option Node
  | .descriptorId => g.findByResourceId? ref
  | .nodeId => g.findById? ref
  | .typeAndName => (typeAndName? ref).bind fun (type, name) => g.findByTypeAndName? type name
  | .moduleFuzzy => (moduleName? ref).bind g.findFuzzy?

namespace Endpoint

/-- The node that the first of some ways finds, and that way. -/
def firstOf? (g : Store) (ref : String) (ways : List Strategy) : Option (Node × Strategy) :=
  ways.findSome? fun way => (way.find? g ref).map (·, way)

/-- The node that a text leads to in a store, and the way. -/
def find? (ways : List Strategy) (g : Store) (ref : String) : Option (Node × Strategy) :=
  if (Text.trim ref).isEmpty then none else firstOf? g (Text.trim ref) ways

end Endpoint

section Searches
variable {faults : Faults} {ways : List Strategy} {s t : Session} {ref : String} {e : Error}

/-- A search in one way makes one call or, for a text that is no address of its form, none. -/
theorem Strategy.lookup_eq (faults : Faults) (s : Session) (ref : String) (way : Strategy) :
    (way.lookup faults s ref = (.ok none, s) ∧ way.find? s.store ref = none) ∨
      ∃ c answer, way.lookup faults s ref = s.ask faults c answer ∧ answer s.store = way.find? s.store ref := by
  cases way with
  | descriptorId => exact Or.inr ⟨_, fun g => g.findByResourceId? ref, rfl, rfl⟩
  | nodeId => exact Or.inr ⟨_, fun g => g.findById? ref, rfl, rfl⟩
  | typeAndName =>
    cases h : typeAndName? ref with
    | none => exact Or.inl ⟨by simp only [Strategy.lookup, h], by simp only [Strategy.find?, h, Option.bind_none]⟩
    | some parts =>
      exact Or.inr ⟨_, _, by simp only [Strategy.lookup, h]; rfl, by simp only [Strategy.find?, h, Option.bind_some]⟩
  | moduleFuzzy =>
    cases h : moduleName? ref with
    | none => exact Or.inl ⟨by simp only [Strategy.lookup, h], by simp only [Strategy.find?, h, Option.bind_none]⟩
    | some fragment =>
      exact Or.inr ⟨_, _, by simp only [Strategy.lookup, h]; rfl, by simp only [Strategy.find?, h, Option.bind_some]⟩

theorem Strategy.lookup_ok {way : Strategy} {x : Option Node} (h : way.lookup faults s ref = (.ok x, t)) :
    x = way.find? s.store ref ∧ Trail Eq s t := by
  rcases Strategy.lookup_eq faults s ref way with ⟨heq, hnone⟩ | ⟨c, answer, heq, hanswer⟩
  · rw [heq] at h
    cases h
    exact ⟨hnone.symm, .refl⟩
  · rw [heq] at h
    rw [← hanswer]
    exact Session.ask_ok h

theorem Strategy.lookup_error {way : Strategy} (h : way.lookup faults s ref = (.error e, t)) :
    faults.Hit ∧ Trail Eq s t := by
  rcases Strategy.lookup_eq faults s ref way with ⟨heq, -⟩ | ⟨c, answer, heq, -⟩
  · rw [heq] at h
    cases h
  · rw [heq] at h
    exact Session.ask_error h

theorem Endpoint.tryAll_ok {x : Option (Node × Strategy)} (h : Endpoint.tryAll faults ref ways s = (.ok x, t)) :
    x = Endpoint.firstOf? s.store ref ways ∧ Trail Eq s t := by
  induction ways generalizing s with
  | nil =>
    cases h
    exact ⟨rfl, .refl⟩
  | cons way rest ih =>
    unfold Endpoint.tryAll at h
    unfold Endpoint.firstOf?
    rw [List.findSome?_cons]
    split at h
    · cases h
    · rename_i node s' hway
      obtain ⟨hx, htrail⟩ := Strategy.lookup_ok hway
      cases h
      rw [← hx]
      exact ⟨rfl, htrail⟩
    · rename_i s' hway
      obtain ⟨hx, htrail⟩ := Strategy.lookup_ok hway
      obtain ⟨hrest, htrail'⟩ := ih h
      rw [← hx]
      rw [htrail.store_eq] at hrest
      exact ⟨hrest, htrail.trans htrail'⟩

theorem Endpoint.tryAll_error (h : Endpoint.tryAll faults ref ways s = (.error e, t)) :
    faults.Hit ∧ Trail Eq s t := by
  induction ways generalizing s with
  | nil => cases h
  | cons way rest ih =>
    unfold Endpoint.tryAll at h
    split at h
    · rename_i hway
      cases h
      exact Strategy.lookup_error hway
    · cases h
    · rename_i hway
      obtain ⟨hf, htrail⟩ := ih h
      exact ⟨hf, (Strategy.lookup_ok hway).2.trans htrail⟩

theorem Endpoint.resolve_ok {x : Option (Node × Strategy)} (h : Endpoint.resolve faults ways s ref = (.ok x, t)) :
    x = Endpoint.find? ways s.store ref ∧ Trail Eq s t := by
  unfold Endpoint.resolve at h
  unfold Endpoint.find?
  dsimp only at h
  split at h
  · rename_i hempty
    cases h
    rw [if_pos hempty]
    exact ⟨rfl, .refl⟩
  · rename_i hne
    rw [if_neg hne]
    exact Endpoint.tryAll_ok h

theorem Endpoint.resolve_error (h : Endpoint.resolve faults ways s ref = (.error e, t)) :
    faults.Hit ∧ Trail Eq s t := by
  unfold Endpoint.resolve at h
  dsimp only at h
  split at h
  · cases h
  · exact Endpoint.tryAll_error h

/-- Where no call fails, a search finds what there is to find in the store. -/
theorem Endpoint.resolve_noFaults (ways : List Strategy) (s : Session) (ref : String) :
    (Endpoint.resolve noFaults ways s ref).1 = .ok (Endpoint.find? ways s.store ref) := by
  cases h : Endpoint.resolve noFaults ways s ref with
  | mk outcome t =>
    cases outcome with
    | ok x => rw [(Endpoint.resolve_ok h).1]
    | error e => exact absurd (Endpoint.resolve_error h).1 not_hit_noFaults

/-- A text leads to a node of a store in one way: a search finds it in any session on the store, unless one of
    its calls fails. -/
def Endpoint.FoundBy (g : Store) (ref : String) (n : Node) (way : Strategy) : Prop :=
  ∀ s : Session, s.store = g → (Endpoint.resolve noFaults Strategy.all s ref).1 = .ok (some (n, way)) ∧
    ∀ faults found, (Endpoint.resolve faults Strategy.all s ref).1 = .ok found → found = some (n, way)

theorem Endpoint.foundBy_of_find? {g : Store} {n : Node} {way : Strategy}
    (h : Endpoint.find? Strategy.all g ref = some (n, way)) : Endpoint.FoundBy g ref n way := by
  rintro s rfl
  refine ⟨by rw [Endpoint.resolve_noFaults, h], fun faults found hfound => ?_⟩
  cases hres : Endpoint.resolve faults Strategy.all s ref with
  | mk outcome t =>
    rw [hres] at hfound
    cases hfound
    rw [(Endpoint.resolve_ok hres).1, h]

/-- What one way finds is a node of the store. -/
theorem Strategy.find?_mem {g : Store} {node : Node} {way : Strategy} (h : way.find? g ref = some node) :
    node ∈ g.nodes := by
  cases way <;> simp only [Strategy.find?] at h
  case descriptorId => exact List.mem_of_find?_eq_some h
  case nodeId => exact List.mem_of_find?_eq_some h
  case typeAndName =>
    obtain ⟨parts, -, h⟩ := Option.bind_eq_some_iff.mp h
    exact List.mem_of_find?_eq_some h
  case moduleFuzzy =>
    obtain ⟨fragment, -, h⟩ := Option.bind_eq_some_iff.mp h
    unfold Store.findFuzzy? at h
    split at h
    · cases h
    · exact List.mem_of_find?_eq_some h

/-- What a text leads to is a node of the store. -/
theorem Endpoint.find?_mem {g : Store} {node : Node} {way : Strategy}
    (h : Endpoint.find? ways g ref = some (node, way)) : node ∈ g.nodes := by
  unfold Endpoint.find? Endpoint.firstOf? at h
  split at h
  · cases h
  · obtain ⟨way', -, hway⟩ := List.exists_of_findSome?_eq_some h
    obtain ⟨n, hn, heq⟩ := Option.map_eq_some_iff.mp hway
    cases heq
    exact Strategy.find?_mem hn

end Searches

end ResourceGraph
