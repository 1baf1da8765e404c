import ResourceGraph.Proofs.Dependency.Entries
import ResourceGraph.Total

/-! # What a map holds of the mentions that made it

A map is made by mentions of resources, each on its own or with a dependency. It lists the resources in the order of
first mention, and it holds each dependency that was mentioned, once. Beside the list of its entries it can be read
as two records that are kept in step, the order of the resources and a table of their targets, and whatever is read off
the two is what the list shows. The order depends on the order of the mentions, the table does not. -/

namespace ResourceGraph
open Sorted SourceFile

/-! ## Sums and first occurrences -/

theorem total_map_add {α : Type} (f g : α → Nat) (xs : List α) :
    total (xs.map fun x => f x + g x) = total (xs.map f) + total (xs.map g) := by
  induction xs with
  | nil => rfl
  | cons x xs ih =>
    simp only [List.map_cons, total, ih]
    omega

/-- Rows and columns add up to the same. -/
theorem total_comm {α β : Type} (f : α → β → Nat) (xs : List α) (ys : List β) :
    total (xs.map fun x => total (ys.map (f x))) = total (ys.map fun y => total (xs.map fun x => f x y)) := by
  induction xs with
  | nil =>
    induction ys with
    | nil => rfl
    | cons y ys ih =>
      rw [List.map_cons, total, ← ih]
      rfl
  | cons x xs ih =>
    simp only [List.map_cons, total, ih]
    exact (total_map_add (f x) (fun y => total (xs.map fun x => f x y)) ys).symm

theorem total_perm {ms ns : List Nat} (h : ms.Perm ns) : total ms = total ns := by
  induction h with
  | nil => rfl
  | cons n _ ih => rw [total, total, ih]
  | swap m n ns => simp only [total, Nat.add_left_comm]
  | trans _ _ ih ih' => exact ih.trans ih'

/-- Names put at the end of a list stand there in the order of their first occurrences. -/
theorem appendAll_eq (names new : List String) : appendAll names new = names ++ (new.removeAll names).eraseDups := by
  induction new generalizing names with
  | nil => exact (List.append_nil names).symm
  | cons name new ih =>
    rw [appendAll_cons, ih]
    by_cases hname : name ∈ names
    · simp [appendNew_of_mem hname, List.removeAll, hname]
    · have hrest : new.removeAll (names ++ [name]) = (new.removeAll names).filter fun x => !x == name := by
        rw [List.removeAll, List.removeAll, List.filter_filter]
        refine List.filter_congr fun x _ => ?_
        by_cases hx : x = name <;> simp [hx]
      rw [appendNew_of_not_mem hname, hrest, List.append_assoc, List.singleton_append]
      simp [List.removeAll, hname, List.eraseDups_cons]

theorem Targets.Ordered.addNew_eq {t : Targets} (h : t.Ordered) (c : Category) (x : String) :
    t.addNew c x = (decide (x ∉ t.get c), t.add c x) := by
  rw [Targets.addNew, Names.insertNew_eq (h c)]
  rfl

namespace DependencyMap

/-! ## Mentions -/

/-- A mention of a resource, on its own or with a dependency. -/
inductive Mention where
  | alone (id : String)
  | dependency (e : Dependency)

/-- The resource that is mentioned. -/
def Mention.id : Mention → String
  | .alone id => id
  | .dependency e => e.source

/-- The map behind a mention. -/
def mention (m : DependencyMap) : Mention → DependencyMap
  | .alone id => m.touch id
  | .dependency e => m.record e.source e.target e.category

/-- The map that some mentions make. -/
def ofMentions (ms : List Mention) : DependencyMap := ms.foldl mention empty

section Maps
variable {m : DependencyMap} {x : Mention} {ms ms' : List Mention} {id : String} {e : Dependency} {t : Targets}
  {change : Targets → Targets} {entries : List (String × Targets)}

theorem Ordered.mention (h : m.Ordered) (x : Mention) : (m.mention x).Ordered := by
  cases x with
  | alone id => exact h.touch id
  | dependency e => exact h.record e.source e.target e.category

theorem ordered_ofMentions (ms : List Mention) : (ofMentions ms).Ordered :=
  List.foldlRecOn ms DependencyMap.mention .empty fun _ hm x _ => hm.mention x

theorem ids_mention : (m.mention x).ids = appendNew m.ids x.id := by
  cases x with
  | alone id => exact ids_touch
  | dependency e => exact ids_record

theorem ids_ofMentions (ms : List Mention) : (ofMentions ms).ids = (ms.map Mention.id).eraseDups := by
  have hids : (ofMentions ms).ids = appendAll [] ((ms.filter fun _ => true).map Mention.id) :=
    ids_foldl (fun _ _ => ids_mention) ms
  rw [hids, List.filter_true, appendAll_eq, List.nil_append]
  simp [List.removeAll]

theorem mem_edges_mention : e ∈ (m.mention x).edges ↔ e ∈ m.edges ∨ x = .dependency e := by
  cases x with
  | alone id => simp [DependencyMap.mention, mem_edges_touch]
  | dependency d =>
    rw [DependencyMap.mention, mem_edges_record, or_comm, Mention.dependency.injEq]
    exact or_congr_right eq_comm

theorem mem_edges_ofMentions : e ∈ (ofMentions ms).edges ↔ .dependency e ∈ ms := by
  have hstep : ∀ m x, e ∈ (DependencyMap.mention m x).edges ↔ e ∈ m.edges ∨ x = .dependency e := fun _ _ =>
    mem_edges_mention
  have hnone : e ∉ empty.edges := List.not_mem_nil
  rw [ofMentions, mem_edges_foldl_iff hstep]
  simp [hnone]

/-! ## What recording tells -/

theorem updateIn_targetsOf (m : DependencyMap) (id : String) (change : Targets → Targets) :
    updateIn id (fun _ => change (m.targetsOf id)) m.entries = updateIn id change m.entries := by
  obtain ⟨entries⟩ := m
  unfold targetsOf DependencyMap.get?
  dsimp only
  induction entries with
  | nil => rfl
  | cons entry rest ih =>
    by_cases hentry : entry.1 = id
    · simp [updateIn, hentry]
    · simpa [updateIn, hentry] using ih

/-- A recorded dependency is new just if it was not recorded before. -/
theorem Ordered.recordNew_eq (h : m.Ordered) (e : Dependency) : m.recordNew e.source e.target e.category =
    (decide (e ∉ m.edges), m.record e.source e.target e.category) := by
  have hadd : (m.targetsOf e.source).addNew e.category e.target =
      (decide (e ∉ m.edges), (m.targetsOf e.source).add e.category e.target) := by
    rw [(h.targetsOf e.source).addNew_eq, decide_eq_decide.mpr (not_congr h.mem_targetsOf)]
  unfold recordNew DependencyMap.record
  rw [← updateIn_targetsOf]
  exact congrArg (fun found : Bool × Targets =>
    (found.1, DependencyMap.mk (updateIn e.source (fun _ => found.2) m.entries))) hadd

/-! ## Views of a map -/

theorem isSome_get?_iff : (m.get? id).isSome = true ↔ id ∈ m.ids := by
  simp [DependencyMap.get?, ids]

/-- No dependency of a map is listed twice. -/
theorem Ordered.nodup_edges (h : m.Ordered) : m.edges.Nodup := by
  have hcategories : Category.all.Nodup := by decide
  have hrow : ∀ entry ∈ m.entries, (row entry).Nodup := by
    intro entry hentry
    refine List.nodup_flatMap.mpr ⟨fun c _ => ?_, hcategories.imp fun hne => ?_⟩
    · exact ((h.targets entry hentry).nodup c).map fun x y heq => congrArg Dependency.target heq
    · intro d hd hd'
      obtain ⟨_, -, rfl⟩ := List.mem_map.mp hd
      obtain ⟨_, -, heq⟩ := List.mem_map.mp hd'
      exact hne (congrArg Dependency.category heq).symm
  refine List.nodup_flatMap.mpr ⟨hrow, (List.pairwise_map.mp h.nodup).imp fun hne => ?_⟩
  intro d hd hd'
  exact hne ((mem_row.mp hd).1.symm.trans (mem_row.mp hd').1)

theorem length_row (entry : String × Targets) : (row entry).length = entry.2.size := by
  unfold row Targets.size
  rw [← total_map_length]
  simp

theorem length_edges (m : DependencyMap) : m.edges.length = m.totalCount := by
  have hedges : m.edges = m.entries.flatMap row := rfl
  rw [hedges, ← total_map_length]
  exact congrArg total (List.map_congr_left fun entry _ => length_row entry)

theorem total_count (m : DependencyMap) : total (Category.all.map m.count) = m.totalCount :=
  total_comm (fun (c : Category) (entry : String × Targets) => (entry.2.get c).length) Category.all m.entries

/-! ## Two records side by side -/

/-- The targets of the resources, in the order of their addresses. -/
def table (m : DependencyMap) : Table Targets := Table.ofList m.entries

theorem table_eq : m.table = upsertAll Prod.fst [] m.entries := rfl

theorem ascending_table (m : DependencyMap) : Ascending Prod.fst m.table := Ascending.upsertAll .nil

/-- The table does not depend on the order of the entries. -/
theorem Ordered.table_perm {m' : DependencyMap} (h : m.Ordered) (hperm : m.entries.Perm m'.entries) :
    m.table = m'.table := upsertAll_perm hperm h.nodup

/-- The table gives each resource its targets. -/
theorem Ordered.find?_table (h : m.Ordered) (id : String) : m.table.find? id = m.get? id := by
  refine Option.ext fun t => ?_
  rw [h.get?_eq_some, Table.find?_eq_some m.ascending_table, table_eq, mem_upsertAll_nil]
  constructor
  · exact fun hlast => List.mem_of_mem_filter (List.mem_of_getLast? hlast)
  · intro hentry
    have hne : m.entries.filter (·.1 = id) ≠ [] := List.ne_nil_of_mem (List.mem_filter.mpr ⟨hentry, by simp⟩)
    obtain ⟨last, hlast⟩ := Option.isSome_iff_exists.mp (List.getLast?_isSome.mpr hne)
    obtain ⟨hmem, hid⟩ := List.mem_filter.mp (List.mem_of_getLast? hlast)
    rw [hlast, List.inj_on_of_nodup_map h.nodup hmem hentry (of_decide_eq_true hid)]

theorem Ordered.keys_table (h : m.Ordered) : (m.table.map Prod.fst).Perm m.ids := by
  refine (List.perm_ext_iff_of_nodup m.ascending_table.nodup_keys h.nodup).mpr fun id => ?_
  have hkeys : (∃ entry ∈ m.table, entry.1 = id) ↔ ∃ entry ∈ m.entries, entry.1 = id := mem_keys_upsertAll_nil
  simpa [ids] using hkeys

theorem get?_updateIn (m : DependencyMap) (id : String) (change : Targets → Targets) (other : String) :
    (DependencyMap.mk (updateIn id change m.entries)).get? other =
      if other = id then some (change (m.targetsOf id)) else m.get? other := by
  obtain ⟨entries⟩ := m
  unfold targetsOf DependencyMap.get?
  dsimp only
  induction entries with
  | nil =>
    by_cases hid : other = id
    · simp [updateIn, hid]
    · simp [updateIn, hid, Ne.symm hid]
  | cons entry rest ih =>
    unfold updateIn
    by_cases hentry : entry.1 = id
    · rw [if_pos hentry, List.find?_cons, List.find?_cons, List.find?_cons]
      by_cases hid : other = id
      · simp [hentry, hid]
      · simp [hentry, hid, Ne.symm hid]
    · rw [if_neg hentry, List.find?_cons, List.find?_cons, List.find?_cons]
      by_cases hid : entry.1 = other
      · simp [hid, show other ≠ id from hid ▸ hentry]
      · simpa [hid, hentry] using ih

/-- The order of the resources, and their targets by address. -/
structure Split where
  order : List String
  table : Table Targets

/-- A map as two records. -/
def split (m : DependencyMap) : Split := ⟨m.ids, m.table⟩

/-- Changes the targets of a resource. A resource that the table does not have yet is put at the end of the order. -/
def Split.update (s : Split) (id : String) (change : Targets → Targets) : Split where
  order := if (s.table.find? id).isSome then s.order else s.order ++ [id]
  table := s.table.insert id (change ((s.table.find? id).getD .empty))

/-- Records that a resource depends on a target; also tells whether that is new. -/
def Split.recordNew (s : Split) (source target : String) (category : Category) : Bool × Split :=
  let (new, targets) := ((s.table.find? source).getD .empty).addNew category target
  (new, s.update source fun _ => targets)

/-- The resources with their targets, in the order of the resources. -/
def Split.rows (s : Split) : List (String × Targets) := s.order.filterMap fun id => (s.table.find? id).map (id, ·)

/-- The dependencies, on a walk over the order. -/
def Split.edges (s : Split) : List Dependency := s.rows.flatMap row

/-- The number of dependencies of one category, on a walk over the table. -/
def Split.count (s : Split) (category : Category) : Nat :=
  total (s.table.map fun entry => (entry.2.get category).length)

/-- The number of dependencies, on a walk over the table. -/
def Split.totalCount (s : Split) : Nat := total (s.table.map fun entry => entry.2.size)

/-- Two records show what a map shows. -/
structure Split.Shows (s : Split) (m : DependencyMap) : Prop where
  edges : s.edges = m.edges
  count : ∀ category, s.count category = m.count category
  totalCount : s.totalCount = m.totalCount
  recordNew : ∀ source target category, s.recordNew source target category =
    ((m.recordNew source target category).1, (m.recordNew source target category).2.split)

/-- Both records behind a mention. -/
def Split.mention (s : Split) : Mention → Split
  | .alone id => s.update id fun t => t
  | .dependency e => s.update e.source fun t => t.add e.category e.target

theorem Ordered.split_update (h : m.Ordered) (hchange : ∀ t, t.Ordered → (change t).Ordered) (id : String) :
    split ⟨updateIn id change m.entries⟩ = m.split.update id change := by
  have hfind : ((split m).table.find? id) = m.get? id := h.find?_table id
  have horder : (updateIn id change m.entries).map Prod.fst =
      if (m.get? id).isSome then m.ids else m.ids ++ [id] := by
    simp only [isSome_get?_iff]
    exact map_fst_updateIn
  have htable : table ⟨updateIn id change m.entries⟩ = m.table.insert id (change (m.targetsOf id)) := by
    refine Table.ext (ascending_table _) (m.ascending_table.upsert _) fun other => ?_
    rw [(h.update hchange id).find?_table, Table.find?_insert, get?_updateIn, h.find?_table]
  unfold Split.update
  rw [hfind]
  exact congrArg₂ Split.mk horder htable

theorem Ordered.split_mention (h : m.Ordered) (x : Mention) : (m.mention x).split = m.split.mention x := by
  cases x with
  | alone id => exact h.split_update (fun _ ht => ht) id
  | dependency e => exact h.split_update (fun _ ht => ht.add e.category e.target) e.source

theorem split_ofMentions (ms : List Mention) : (ofMentions ms).split = ms.foldl Split.mention ⟨[], []⟩ := by
  have hfold : ∀ m : DependencyMap, m.Ordered → (ms.foldl DependencyMap.mention m).split =
      ms.foldl Split.mention m.split := by
    induction ms with
    | nil => exact fun _ _ => rfl
    | cons x ms ih =>
      intro m hm
      rw [List.foldl_cons, ih _ (hm.mention x), hm.split_mention, List.foldl_cons]
  exact hfold empty .empty

theorem Ordered.rows_split (h : m.Ordered) : m.split.rows = m.entries := by
  have hfind : (fun id => (m.table.find? id).map (id, ·)) = fun id => (m.get? id).map (id, ·) :=
    funext fun id => by rw [h.find?_table]
  rw [h.entries_eq, ← hfind]
  rfl

theorem Ordered.table_perm_entries (h : m.Ordered) : m.table.Perm m.entries := by
  refine (List.perm_ext_iff_of_nodup m.ascending_table.nodup (List.Nodup.of_map _ h.nodup)).mpr fun entry => ?_
  rw [← Table.find?_eq_some m.ascending_table, h.find?_table, h.get?_eq_some]

theorem Ordered.shows_split (h : m.Ordered) : m.split.Shows m where
  edges := by
    rw [Split.edges, h.rows_split]
    rfl
  count _ := total_perm (h.table_perm_entries.map _)
  totalCount := total_perm (h.table_perm_entries.map _)
  recordNew source target category := by
    have hfind : m.split.table.find? source = m.get? source := h.find?_table source
    have hnew : ((m.targetsOf source).addNew category target).2.Ordered := by
      rw [(h.targetsOf source).addNew_eq]
      exact (h.targetsOf source).add category target
    unfold Split.recordNew
    rw [hfind]
    exact congrArg _ (h.split_update (fun _ _ => hnew) source).symm

end Maps

/-! ## What mentions make -/

/-- A map lists the resources in the order of first mention, each once, and they are the keys of its table, which is
    kept beside the order; the two show what the map shows. It lists each dependency that was mentioned, once, and
    nothing else, and counts them in all and by category. Another mention of a dependency is new just if there was none
    before. The same mentions in another order, some of them more than once, make the same table. -/
theorem ofMentions_holds (ms : List Mention) :
    let m := ofMentions ms
    (m.ids.Nodup ∧ m.ids = (ms.map Mention.id).eraseDups ∧ (m.table.map Prod.fst).Perm m.ids ∧
      m.split = ms.foldl Split.mention ⟨[], []⟩ ∧ m.split.Shows m) ∧
    (m.edges.Nodup ∧ (∀ e, e ∈ m.edges ↔ .dependency e ∈ ms) ∧
      m.edges.length = m.totalCount ∧ total (Category.all.map m.count) = m.totalCount) ∧
    (∀ e, (m.recordNew e.source e.target e.category).1 = true ↔ .dependency e ∉ ms) ∧
    ∀ ms', (∀ x, x ∈ ms' ↔ x ∈ ms) → (ofMentions ms').table = m.table := by
  intro m
  have hm : m.Ordered := ordered_ofMentions ms
  refine ⟨⟨hm.nodup, ids_ofMentions ms, hm.keys_table, split_ofMentions ms, hm.shows_split⟩,
    ⟨hm.nodup_edges, fun e => mem_edges_ofMentions, length_edges m, total_count m⟩, fun e => ?_, fun ms' hms => ?_⟩
  · rw [← mem_edges_ofMentions, hm.recordNew_eq, decide_eq_true_iff]
  · have hm' : (ofMentions ms').Ordered := ordered_ofMentions ms'
    refine hm'.table_perm (hm'.entries_perm hm (fun id => ?_) fun e => ?_)
    · simp only [m, ids_ofMentions, List.mem_eraseDups, List.mem_map, hms]
    · rw [mem_edges_ofMentions, mem_edges_ofMentions, hms]

/-- A server that is mentioned with its subnet, and then with its zone; the subnet is mentioned in between. -/
def serverAndSubnet : List Mention :=
  [.dependency ⟨"a.server", "a.subnet", .resource⟩, .alone "a.subnet", .dependency ⟨"a.server", "var.zone", .variable⟩,
   .dependency ⟨"a.server", "a.subnet", .implicit⟩]

theorem ofMentions_holds_serverAndSubnet :
    (ofMentions (serverAndSubnet.reverse ++ serverAndSubnet.take 2)).table = (ofMentions serverAndSubnet).table ∧
      (ofMentions serverAndSubnet).ids = ["a.server", "a.subnet"] ∧ (ofMentions serverAndSubnet).totalCount = 3 := by
  have hms : ∀ x, x ∈ serverAndSubnet.reverse ++ serverAndSubnet.take 2 ↔ x ∈ serverAndSubnet := by
    intro x
    rw [List.mem_append, List.mem_reverse]
    exact or_iff_left_of_imp List.mem_of_mem_take
  exact ⟨(ofMentions_holds serverAndSubnet).2.2.2 _ hms, by decide +kernel, by decide +kernel⟩

end DependencyMap

end ResourceGraph
