import Mathlib.Data.List.Induction
import ResourceGraph.Proofs.Context

/-! # Which addresses a registry lists as resources

A registry settles whether it lists an address when something is first declared there, and it shows what was
declared there last. So it lists the resources it holds, and nothing else, just if the first declaration at each
address and the last one agree on being a resource. -/

namespace ResourceGraph
open Sorted

namespace Registry
variable {r other : Registry} {d : Declaration} {ds es : List Declaration} {id : String}

/-! ## The declarations behind a registry -/

/-- The declarations that lead to a registry, in the order in which they are made. A registry that is taken in
    declares what it holds. -/
inductive Declares : List Declaration → Registry → Prop where
  | empty : Declares [] .empty
  | insert {ds : List Declaration} {r : Registry} : Declares ds r → ∀ d, Declares (ds ++ [d]) (r.insert d)
  | extend {ds es : List Declaration} {r other : Registry} : Declares ds r → Declares es other →
      Declares (ds ++ other.replay) (r.extend other)

theorem insertAll_append : r.insertAll (ds ++ es) = (r.insertAll ds).insertAll es := List.foldl_append

theorem Declares.eq (h : Declares ds r) : r = Registry.empty.insertAll ds := by
  induction h with
  | empty => rfl
  | insert _ d ih =>
    rw [insertAll_append, ← ih]
    rfl
  | extend _ _ ih _ =>
    rw [insertAll_append, ← ih]
    rfl

theorem Declares.built (h : Declares ds r) : r.Built := by
  induction h with
  | empty => exact .empty
  | insert _ d ih => exact .insert ih d
  | extend _ _ ih ih' => exact .extend ih ih'

/-- The registry of a scan holds what the files declare that are not left out. -/
theorem declares_ofFiles (files : List SourceFile) :
    Declares ((Context.readable files).flatMap SourceFile.declarations) (Scan.ofFiles files).registry := by
  have each : ∀ ds : List Declaration, Declares ds (Registry.empty.insertAll ds) := by
    intro ds
    induction ds using List.reverseRecOn with
    | nil => exact .empty
    | append_singleton ds d ih =>
      rw [insertAll_append]
      exact .insert ih d
  rw [Scan.ofFiles, Scan.registry_foldl]
  exact each _

/-! ## First and last declarations -/

/-- The declaration that is made first at an address. -/
def firstAt? (ds : List Declaration) (id : String) : Option Declaration := ds.find? (·.id = id)

/-- The declaration that is made last at an address. -/
def lastAt? (ds : List Declaration) (id : String) : Option Declaration := ds.reverse.find? (·.id = id)

theorem mem_of_firstAt? (h : firstAt? ds id = some d) : d ∈ ds ∧ d.id = id :=
  ⟨List.mem_of_find?_eq_some h, by simpa using List.find?_some h⟩

theorem mem_of_lastAt? (h : lastAt? ds id = some d) : d ∈ ds ∧ d.id = id :=
  ⟨List.mem_reverse.mp (List.mem_of_find?_eq_some h), by simpa using List.find?_some h⟩

theorem firstAt?_eq_none : firstAt? ds id = none ↔ lastAt? ds id = none := by
  simp [firstAt?, lastAt?]

/-- A registry shows the last declaration at each address. -/
theorem get?_insertAll : (r.insertAll ds).get? id = (lastAt? ds id).or (r.get? id) := by
  induction ds using List.reverseRecOn with
  | nil => rfl
  | append_singleton ds d ih =>
    have hlast : lastAt? (ds ++ [d]) id = if d.id = id then some d else lastAt? ds id := by
      unfold lastAt?
      rw [List.reverse_append, List.reverse_singleton, List.singleton_append, List.find?_cons]
      by_cases hid : d.id = id <;> simp [hid]
    have hstep : (r.insertAll (ds ++ [d])).get? id = ((r.insertAll ds).insert d).get? id := by
      rw [insertAll_append]
      rfl
    rw [hstep, get?_insert, hlast, ih]
    by_cases hid : d.id = id
    · rw [if_pos hid.symm, if_pos hid, Option.some_or]
    · rw [if_neg (Ne.symm hid), if_neg hid]

/-- Whether a registry lists a new address is settled by the first declaration there. -/
theorem mem_order_insertAll_of_new (hnew : r.contains id = false) (hout : id ∉ r.order) :
    id ∈ (r.insertAll ds).order ↔ ∃ d, firstAt? ds id = some d ∧ d.kind = .resource := by
  induction ds generalizing r with
  | nil => simp [insertAll, firstAt?, hout]
  | cons d ds ih =>
    have hstep : r.insertAll (d :: ds) = (r.insert d).insertAll ds := rfl
    rw [hstep]
    by_cases hid : d.id = id
    · -- Here the address is settled, whatever the other declarations say.
      have hknown : (r.insert d).contains id = true := contains_insert.mpr (Or.inl hid.symm)
      have hfirst : firstAt? (d :: ds) id = some d := by simp [firstAt?, hid]
      have horder : id ∈ (r.insert d).order ↔ d.kind = .resource := by
        by_cases hkind : d.kind = .resource
        · simp [Registry.insert, hkind, hid, hnew]
        · simp [Registry.insert, hkind, hout]
      rw [mem_order_insertAll hknown, horder, hfirst]
      simp
    · have hunknown : (r.insert d).contains id = false := by
        rw [Bool.eq_false_iff]
        intro hcontains
        rcases contains_insert.mp hcontains with heq | hcontains
        · exact hid heq.symm
        · rw [hnew] at hcontains
          cases hcontains
      have houtside : id ∉ (r.insert d).order := by
        intro hmem
        unfold Registry.insert at hmem
        dsimp only at hmem
        split at hmem
        · rcases List.mem_append.mp hmem with hmem | hmem
          · exact hout hmem
          · exact hid (List.mem_singleton.mp hmem).symm
        · exact hout hmem
      have hfirst : firstAt? (d :: ds) id = firstAt? ds id := by simp [firstAt?, hid]
      rw [ih hunknown houtside, hfirst]

theorem get?_insertAll_empty : (Registry.empty.insertAll ds).get? id = lastAt? ds id :=
  get?_insertAll.trans Option.or_none

theorem mem_order_insertAll_empty :
    id ∈ (Registry.empty.insertAll ds).order ↔ ∃ d, firstAt? ds id = some d ∧ d.kind = .resource :=
  mem_order_insertAll_of_new rfl List.not_mem_nil

theorem Declares.get?_eq (h : Declares ds r) : r.get? id = lastAt? ds id := by
  rw [h.eq]
  exact get?_insertAll_empty

theorem Declares.mem_resourceIds (h : Declares ds r) :
    id ∈ r.resourceIds ↔ ∃ d, firstAt? ds id = some d ∧ d.kind = .resource := by
  rw [h.eq]
  exact mem_order_insertAll_empty

/-! ## Faithful lists -/

/-- A registry lists the resources that it holds, each once, and nothing else. -/
structure Faithful (r : Registry) : Prop where
  nodup : r.resourceIds.Nodup
  listed : ∀ id, id ∈ r.resourceIds ↔ ∃ d, r.get? id = some d ∧ d.kind = .resource
  count : r.resources.length = r.count .resource
  resources : ∀ d ∈ r.resources, d.kind = .resource

theorem insertAll_ascending (h : Ascending Prod.fst r.table) (ds : List Declaration) :
    Ascending Prod.fst (r.insertAll ds).table := by
  induction ds generalizing r with
  | nil => exact h
  | cons d ds ih => exact ih (h.upsert (d.id, d))

theorem Built.ascending (h : r.Built) : Ascending Prod.fst r.table := by
  induction h with
  | empty => exact .nil
  | insert _ d ih => exact ih.upsert (d.id, d)
  | extend _ _ ih _ => exact insertAll_ascending ih _

theorem Built.get?_eq_some (h : r.Built) : r.get? id = some d ↔ (id, d) ∈ r.table :=
  Table.find?_eq_some h.ascending

/-- A registry is determined by what it shows at each address and by the addresses it lists. -/
theorem Built.ext (h : r.Built) (h' : other.Built) (hget : ∀ id, r.get? id = other.get? id)
    (horder : r.order = other.order) : r = other := by
  have htable : r.table = other.table := Table.ext h.ascending h'.ascending hget
  obtain ⟨table, order⟩ := r
  obtain ⟨table', order'⟩ := other
  obtain rfl : table = table' := htable
  obtain rfl : order = order' := horder
  rfl

/-- The declarations of one kind are those that the registry shows at their addresses. -/
theorem mem_ids_ofKind (h : r.Built) {kind : Kind} :
    id ∈ (r.ofKind kind).map Declaration.id ↔ ∃ d, r.get? id = some d ∧ d.kind = kind := by
  constructor
  · intro hid
    obtain ⟨d, hd, rfl⟩ := List.mem_map.mp hid
    obtain ⟨hd, hkind⟩ := List.mem_filter.mp hd
    obtain ⟨entry, hentry, rfl⟩ := List.mem_map.mp hd
    rw [h.keyed entry hentry]
    exact ⟨entry.2, h.get?_eq_some.mpr hentry, of_decide_eq_true hkind⟩
  · rintro ⟨d, hget, hkind⟩
    have hd : d ∈ r.declarations := List.mem_map.mpr ⟨(id, d), h.get?_eq_some.mp hget, rfl⟩
    exact List.mem_map.mpr ⟨d, List.mem_filter.mpr ⟨hd, decide_eq_true hkind⟩, h.keyed.id_of_get? hget⟩

theorem nodup_ids_ofKind (h : r.Built) (kind : Kind) : ((r.ofKind kind).map Declaration.id).Nodup := by
  have hkeys : r.declarations.map Declaration.id = r.table.map Prod.fst := by
    rw [declarations, List.map_map]
    exact List.map_congr_left fun entry hentry => h.keyed entry hentry
  have hall : (r.declarations.map Declaration.id).Nodup := hkeys ▸ h.ascending.nodup_keys
  exact hall.sublist (List.filter_sublist.map _)

/-- A list of just the addresses of resources has all the properties of a faithful one. -/
theorem Built.faithful (h : r.Built)
    (hlisted : ∀ id, id ∈ r.resourceIds ↔ ∃ d, r.get? id = some d ∧ d.kind = .resource) : r.Faithful where
  nodup := h.listed.nodup
  listed := hlisted
  count := by
    have hids : r.resourceIds.Perm ((r.ofKind .resource).map Declaration.id) :=
      (List.perm_ext_iff_of_nodup h.listed.nodup (nodup_ids_ofKind h _)).mpr fun id =>
        (hlisted id).trans (mem_ids_ofKind h).symm
    rw [← h.keyed.map_id_resources h.listed] at hids
    simpa [count] using hids.length_eq
  resources := by
    intro d hd
    obtain ⟨hid, hget⟩ := h.keyed.of_mem_resources hd
    obtain ⟨e, hget', hkind⟩ := (hlisted d.id).mp hid
    cases hget.symm.trans hget'
    exact hkind

/-- A registry lists every address once, and it lists those at which a resource is declared first. It lists just
    the resources it holds if and only if, at every address, the first declaration and the last one are both
    resources or both not. -/
theorem faithful_iff_first_last (h : Declares ds r) :
    r.resourceIds.Nodup ∧ (∀ id, id ∈ r.resourceIds ↔ ∃ d, firstAt? ds id = some d ∧ d.kind = .resource) ∧
      (r.Faithful ↔ ∀ id first last, firstAt? ds id = some first → lastAt? ds id = some last →
        (first.kind = .resource ↔ last.kind = .resource)) := by
  have hget : ∀ id, r.get? id = lastAt? ds id := by
    intro id
    rw [h.eq, get?_insertAll]
    exact Option.or_none
  have hmem : ∀ id, id ∈ r.resourceIds ↔ ∃ d, firstAt? ds id = some d ∧ d.kind = .resource := by
    intro id
    rw [h.eq]
    exact mem_order_insertAll_of_new rfl List.not_mem_nil
  refine ⟨h.built.listed.nodup, hmem, fun hr id first last hfirst hlast => ?_, fun hagree => ?_⟩
  · have hlisted := hr.listed id
    rw [hmem, hget, hfirst, hlast] at hlisted
    simpa using hlisted
  · refine h.built.faithful fun id => ?_
    rw [hmem, hget]
    cases hfirst : firstAt? ds id with
    | none => simp [firstAt?_eq_none.mp hfirst]
    | some first =>
      cases hlast : lastAt? ds id with
      | none =>
        rw [firstAt?_eq_none.mpr hlast] at hfirst
        cases hfirst
      | some last => simpa using hagree id first last hfirst hlast

/-- A network that two files declare, and a variable. -/
def networkTwice : List SourceFile :=
  [⟨"main.tf", "resource \"aws_vpc\" \"main\" \x7b\x7d\nvariable \"region\" \x7b\x7d\n"⟩,
   ⟨"more.tf", "resource \"aws_vpc\" \"main\" \x7b\x7d\n"⟩]

theorem faithful_iff_first_last_networkTwice : (Scan.ofFiles networkTwice).registry.Faithful ∧
    (Scan.ofFiles networkTwice).registry.resourceIds = ["aws_vpc.main"] := by
  have kinds : ∀ d ∈ (Context.readable networkTwice).flatMap SourceFile.declarations,
      ∀ e ∈ (Context.readable networkTwice).flatMap SourceFile.declarations, d.id = e.id →
        (d.kind = .resource ↔ e.kind = .resource) := by decide +kernel
  refine ⟨(faithful_iff_first_last (declares_ofFiles networkTwice)).2.2.mpr ?_, by decide +kernel⟩
  intro id first last hfirst hlast
  obtain ⟨hfirst, hid⟩ := mem_of_firstAt? hfirst
  obtain ⟨hlast, hid'⟩ := mem_of_lastAt? hlast
  exact kinds first hfirst last hlast (hid.trans hid'.symm)

/-- A resource at whose address a variable is declared later in the same file. -/
def variableBehind : List SourceFile :=
  [⟨"main.tf", "resource \"var\" \"region\" \x7b\x7d\nvariable \"region\" \x7b\x7d\n"⟩]

/-- The other way around, in two files. -/
def variableInFront : List SourceFile :=
  [⟨"inputs.tf", "variable \"region\" \x7b\x7d\n"⟩, ⟨"main.tf", "resource \"var\" \"region\" \x7b\x7d\n"⟩]

/-- The variable is listed as a resource, and the resource behind the variable is not listed. -/
theorem not_faithful_ofFiles :
    ¬(Scan.ofFiles variableBehind).registry.Faithful ∧ ¬(Scan.ofFiles variableInFront).registry.Faithful := by
  constructor
  · intro h
    have hids : (Scan.ofFiles variableBehind).registry.resources.map (·.kind) = [.variable] := by decide +kernel
    obtain ⟨d, hd, hkind⟩ := List.mem_map.mp (hids ▸ List.mem_singleton_self Kind.variable)
    rw [h.resources d hd] at hkind
    cases hkind
  · intro h
    have hcount : (Scan.ofFiles variableInFront).registry.resources.length = 0 ∧
        (Scan.ofFiles variableInFront).registry.count .resource = 1 := by decide +kernel
    have heq := h.count
    rw [hcount.1, hcount.2] at heq
    cases heq

end Registry

end ResourceGraph
