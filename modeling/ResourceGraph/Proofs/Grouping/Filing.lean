import Mathlib.Data.List.Nodup
import Mathlib.Data.Prod.Lex
import Mathlib.Data.String.Basic
import ResourceGraph.Grouping
import ResourceGraph.Proofs.Ascending

/-! # Filing resources

The groups of a registry are made in one pass over its resources, which files each of them under its provider and
its field, or as one without a provider. What the pass has filed of a provider and a field is what a search for them
picks out (`members`), in the same order. So the groups are those of the searches (`partition`): the providers are
sorted, and so are the fields of each, and sorting the groups by the ranks of their names lists those of one rank
after the other. -/

namespace ResourceGraph
open Sorted

/-! ## Sorting by rank -/

section Rank
variable {α : Type} {rank : α → Nat} {ranks : List Nat} {xs : List α}

theorem rank_trans (a b c : α) (hab : decide (rank a ≤ rank b) = true) (hbc : decide (rank b ≤ rank c) = true) :
    decide (rank a ≤ rank c) = true :=
  decide_eq_true ((of_decide_eq_true hab).trans (of_decide_eq_true hbc))

theorem rank_total (a b : α) : (decide (rank a ≤ rank b) || decide (rank b ≤ rank a)) = true := by
  simpa using Nat.le_total (rank a) (rank b)

theorem rank_of_eq (a b : α) (h : rank a = rank b) : decide (rank a ≤ rank b) = true := decide_eq_true h.le

theorem flatMap_filter_eq_nil (h : ∀ k ∈ ranks, ∀ x ∈ xs, rank x ≠ k) :
    (ranks.flatMap fun k => xs.filter (rank · = k)) = [] :=
  List.flatMap_eq_nil_iff.mpr fun k hk => List.filter_eq_nil_iff.mpr fun x hx => by simpa using h k hk x hx

/-- A list in the order of ranks lists the elements of one rank after the other. -/
theorem eq_flatMap_filter (hranks : ranks.Pairwise (· < ·)) (hcover : ∀ x ∈ xs, rank x ∈ ranks)
    (hxs : xs.Pairwise (rank · ≤ rank ·)) : xs = ranks.flatMap fun k => xs.filter (rank · = k) := by
  induction xs with
  | nil => simp
  | cons x xs ih =>
    obtain ⟨hx, hxs⟩ := List.pairwise_cons.mp hxs
    obtain ⟨hmem, hcover⟩ := List.forall_mem_cons.mp hcover
    -- The lower ranks are those of no element; the higher ones are not that of the head.
    obtain ⟨lower, higher, rfl⟩ := List.append_of_mem hmem
    have hlower : ∀ k ∈ lower, ∀ y ∈ x :: xs, rank y ≠ k := by
      intro k hk y hy
      have hlt : k < rank x := (List.pairwise_append.mp hranks).2.2 k hk (rank x) List.mem_cons_self
      have hle : rank x ≤ rank y := (List.mem_cons.mp hy).elim (fun heq => heq ▸ le_rfl) (hx y)
      omega
    have hhigher : ∀ k ∈ higher, (x :: xs).filter (rank · = k) = xs.filter (rank · = k) := by
      intro k hk
      have hlt : rank x < k := (List.pairwise_cons.mp (List.pairwise_append.mp hranks).2.1).1 k hk
      exact List.filter_cons_of_neg (by simpa using hlt.ne)
    have hsplit := ih hcover hxs
    rw [List.flatMap_append, flatMap_filter_eq_nil fun k hk y hy => hlower k hk y (List.mem_cons_of_mem x hy),
      List.nil_append, List.flatMap_cons] at hsplit
    rw [List.flatMap_append, flatMap_filter_eq_nil hlower, List.nil_append, List.flatMap_cons,
      List.flatMap_congr hhigher, List.filter_cons_of_pos (by simp), List.cons_append, ← hsplit]

/-- Sorting by rank lists the elements of one rank after the other. -/
theorem mergeSort_eq_flatMap_filter (hranks : ranks.Pairwise (· < ·)) (hcover : ∀ x ∈ xs, rank x ∈ ranks) :
    (xs.mergeSort fun a b => rank a ≤ rank b) = ranks.flatMap fun k => xs.filter (rank · = k) := by
  have hsorted : (xs.mergeSort fun a b => rank a ≤ rank b).Pairwise (rank · ≤ rank ·) :=
    (List.pairwise_mergeSort rank_trans rank_total xs).imp of_decide_eq_true
  refine (eq_flatMap_filter hranks (fun x hx => hcover x (List.mem_mergeSort.mp hx)) hsorted).trans ?_
  exact List.flatMap_congr fun k _ => filter_mergeSort rank_trans rank_total rank_of_eq xs k

end Rank

/-! ## Searching instead of filing -/

instance : Std.TransOrd Field := inferInstanceAs (Std.TransCmp (compareOn Field.ctorIdx))

instance : Std.LawfulEqOrd Field where
  eq_of_compare {a b} h := by
    have hidx : a.ctorIdx = b.ctorIdx := Std.LawfulEqOrd.eq_of_compare h
    cases a <;> cases b <;> first | rfl | cases hidx

namespace Group

theorem mem_fields (field : Field) : field ∈ Field.all := by cases field <;> decide

/-- The resources of one provider and one field. -/
def members (ds : List Declaration) (provider : String) (field : Field) : List String :=
  (ds.filter fun d => providerOf? d.type = some provider ∧ Field.ofType d.type = field).map Declaration.id

/-- The resources whose type names no provider. -/
def loose (ds : List Declaration) : List Declaration := ds.filter fun d => providerOf? d.type = none

/-- The fields in which a provider has resources, with them. -/
def fieldsOf (ds : List Declaration) (provider : String) : List (Field × List String) :=
  Field.all.filterMap fun field =>
    if members ds provider field = [] then none else some (field, members ds provider field)

/-- The groups of one provider, by field. -/
def ofProvider (ds : List Declaration) (provider : String) : List Group :=
  (fieldsOf ds provider).map fun entry => ⟨providerTitle provider ++ " - " ++ entry.1.name, entry.2⟩

/-- The providers of some resources: the leading ones first, the others by name. -/
def providersInOrder (ds : List Declaration) : List String :=
  let names := Names.ofList (ds.filterMap fun d => providerOf? d.type)
  leadingProviders.filter (· ∈ names) ++ names.filter (· ∉ leadingProviders)

/-- The groups of some resources, by provider. -/
def partition (ds : List Declaration) : List Group :=
  (providersInOrder ds).flatMap (ofProvider ds) ++
    if ((loose ds).map Declaration.id).isEmpty then [] else [⟨miscellaneous, (loose ds).map Declaration.id⟩]

section Searches
variable {ds : List Declaration} {d : Declaration} {p provider : String} {field : Field}

theorem members_concat : members (ds ++ [d]) p field = members ds p field ++
    if providerOf? d.type = some p ∧ Field.ofType d.type = field then [d.id] else [] := by
  unfold members
  rw [List.filter_append, List.map_append, List.filter_cons, List.filter_nil]
  simp only [decide_eq_true_eq]
  split <;> rfl

theorem ascending_fieldsOf : Ascending Prod.fst (fieldsOf ds p) := by
  have hfields : Field.all.Pairwise fun f g => compare f g = .lt := by decide
  refine List.pairwise_filterMap.mpr (hfields.imp ?_)
  intro f g hlt entry hentry entry' hentry'
  split at hentry <;> cases hentry
  split at hentry' <;> cases hentry'
  exact hlt

theorem value?_fieldsOf : value? field (fieldsOf ds p) =
    if members ds p field = [] then none else some (members ds p field) := by
  refine Option.ext fun ids => ?_
  rw [ascending_fieldsOf.value?_eq_some, fieldsOf, List.mem_filterMap]
  constructor
  · rintro ⟨field', -, hentry⟩
    split at hentry
    · cases hentry
    · rename_i hne
      cases hentry
      exact if_neg hne
  · intro hids
    refine ⟨field, mem_fields field, ?_⟩
    split at hids
    · cases hids
    · rename_i hne
      cases hids
      exact if_neg hne

theorem mem_providersInOrder :
    provider ∈ providersInOrder ds ↔ ∃ d ∈ ds, providerOf? d.type = some provider := by
  have hnames : provider ∈ Names.ofList (ds.filterMap fun d => providerOf? d.type) ↔
      ∃ d ∈ ds, providerOf? d.type = some provider := Names.mem_ofList.trans List.mem_filterMap
  rw [← hnames]
  unfold providersInOrder
  simp only [List.mem_append, List.mem_filter, decide_eq_true_eq]
  constructor
  · rintro (⟨-, h⟩ | ⟨h, -⟩) <;> exact h
  · intro h
    by_cases hlead : provider ∈ leadingProviders
    · exact Or.inl ⟨hlead, h⟩
    · exact Or.inr ⟨h, hlead⟩

end Searches

/-! ## The order of providers -/

section Providers
variable {ds : List Declaration} {p q : String}

/-- Where a provider stands: the leading ones come first, the others by their names. Strings are compared by code
    points, which is the order of their bytes. -/
def providerPlace (p : String) : ℕ ×ₗ String := toLex (leadingProviders.idxOf p, p)

theorem providerPlace_lt : providerPlace p < providerPlace q ↔
    leadingProviders.idxOf p < leadingProviders.idxOf q ∨
      leadingProviders.idxOf p = leadingProviders.idxOf q ∧ p < q := Prod.Lex.toLex_lt_toLex

theorem providerLE_iff : providerLE p q = true ↔ providerPlace p ≤ providerPlace q := by
  have hplace : providerPlace p ≤ providerPlace q ↔ leadingProviders.idxOf p < leadingProviders.idxOf q ∨
      leadingProviders.idxOf p = leadingProviders.idxOf q ∧ p ≤ q := Prod.Lex.toLex_le_toLex
  have hname : (compare p q).isLE = true ↔ p ≤ q := by
    rw [Ordering.isLE_iff_ne_gt, compare_gt_iff_gt, not_lt]
  rw [hplace]
  unfold providerLE providerRank
  rcases lt_trichotomy (leadingProviders.idxOf p) (leadingProviders.idxOf q) with hlt | heq | hgt
  · simp [compare_lt_iff_lt.mpr hlt, hlt]
  · simpa [heq] using hname
  · simp [compare_gt_iff_gt.mpr hgt, hgt.not_gt, hgt.ne']

theorem pairwise_providersInOrder : (providersInOrder ds).Pairwise fun p q => providerPlace p < providerPlace q := by
  have hleading : leadingProviders.Pairwise fun p q => leadingProviders.idxOf p < leadingProviders.idxOf q := by
    decide
  refine List.pairwise_append.mpr ⟨?_, ?_, fun p hp q hq => ?_⟩
  · exact (hleading.filter _).imp fun hlt => providerPlace_lt.mpr (Or.inl hlt)
  · -- All others have the same rank, and their names ascend.
    have hnames : Ascending id (Names.ofList (ds.filterMap fun d => providerOf? d.type)) := Ascending.upsertAll .nil
    have hlast : ∀ {p}, p ∉ leadingProviders → leadingProviders.idxOf p = leadingProviders.length :=
      List.idxOf_eq_length
    refine (hnames.filter _).imp_of_mem fun {p q} hp hq hlt => ?_
    refine providerPlace_lt.mpr (Or.inr ⟨?_, compare_lt_iff_lt.mp hlt⟩)
    rw [hlast (of_decide_eq_true (List.mem_filter.mp hp).2), hlast (of_decide_eq_true (List.mem_filter.mp hq).2)]
  · have hp : p ∈ leadingProviders := (List.mem_filter.mp hp).1
    have hq : q ∉ leadingProviders := of_decide_eq_true (List.mem_filter.mp hq).2
    refine providerPlace_lt.mpr (Or.inl ?_)
    rw [List.idxOf_eq_length hq]
    exact List.idxOf_lt_length_iff.mpr hp

theorem nodup_providersInOrder : (providersInOrder ds).Nodup :=
  pairwise_providersInOrder.imp fun hlt => ne_of_apply_ne providerPlace hlt.ne

/-- Sorting the providers by rank and name puts them in order. -/
theorem mergeSort_eq_providersInOrder {names : List String} (hnodup : names.Nodup)
    (hmem : ∀ p, p ∈ names ↔ ∃ d ∈ ds, providerOf? d.type = some p) :
    names.mergeSort providerLE = providersInOrder ds := by
  have hsorted : (names.mergeSort providerLE).Pairwise fun p q => providerPlace p ≤ providerPlace q := by
    refine (List.pairwise_mergeSort (fun p q r hpq hqr => ?_) (fun p q => ?_) names).imp providerLE_iff.mp
    · exact providerLE_iff.mpr ((providerLE_iff.mp hpq).trans (providerLE_iff.mp hqr))
    · rw [Bool.or_eq_true, providerLE_iff, providerLE_iff]
      exact le_total _ _
  have hperm : (names.mergeSort providerLE).Perm (providersInOrder ds) := by
    refine (List.mergeSort_perm _ _).trans ((List.perm_ext_iff_of_nodup hnodup nodup_providersInOrder).mpr fun p => ?_)
    rw [hmem, mem_providersInOrder]
  refine hperm.eq_of_pairwise (fun p q _ _ hpq hqp => ?_) hsorted (pairwise_providersInOrder.imp fun hlt => hlt.le)
  exact congrArg Prod.snd (toLex_inj.mp (hpq.antisymm hqp))

end Providers
end Group

/-! ## The pass -/

namespace Filed
variable {ds : List Declaration} {f : Filed} {d : Declaration} {p q : String} {field : Field}

/-- What is filed under a provider and a field. -/
def find? (f : Filed) (p : String) (field : Field) : Option (List String) := (f.provided.find? p).bind (value? field)

theorem provided_add (hd : providerOf? d.type = some q) : (f.add d).provided =
    alter q [] (alter (Field.ofType d.type) [] fun ids => ids ++ [d.id]) f.provided := by
  unfold add
  rw [hd]

theorem find?_add (hd : providerOf? d.type = some q) : (f.add d).find? p field =
    if p = q ∧ Field.ofType d.type = field then some ((f.find? p field).getD [] ++ [d.id]) else f.find? p field := by
  have hfields : ∀ field, value? field ((value? p f.provided).getD []) = f.find? p field := by
    intro field
    unfold find? Table.find?
    cases value? p f.provided <;> rfl
  unfold find?
  rw [provided_add hd, Table.find?, value?_alter]
  by_cases hp : p = q
  · subst hp
    rw [if_pos rfl, Option.bind_some, value?_alter, hfields, hfields]
    by_cases hfield : Field.ofType d.type = field
    · subst hfield
      simp [find?]
    · simp [hfield, Ne.symm hfield, find?]
  · rw [if_neg hp, if_neg fun h => hp h.1]
    rfl

/-- The pass has filed some resources. -/
structure Of (ds : List Declaration) (f : Filed) : Prop where
  ascending : Ascending Prod.fst f.provided
  fields : ∀ entry ∈ f.provided, Ascending Prod.fst entry.2
  providers : ∀ p, p ∈ f.provided.map Prod.fst ↔ ∃ d ∈ ds, providerOf? d.type = some p
  members : ∀ p field, f.find? p field = if Group.members ds p field = [] then none else some (Group.members ds p field)
  loose : f.loose = (Group.loose ds).map Declaration.id

theorem Of.ascending_fields (h : Of ds f) (p : String) : Ascending Prod.fst ((f.provided.find? p).getD []) := by
  cases hvalue : f.provided.find? p with
  | none => exact .nil
  | some fields => exact h.fields (p, fields) (h.ascending.value?_eq_some.mp hvalue)

theorem Of.empty : Of [] empty where
  ascending := .nil
  fields := nofun
  providers _ := by simp [Filed.empty]
  members _ _ := rfl
  loose := rfl

theorem Of.add_loose (h : Of ds f) (hd : providerOf? d.type = none) : Of (ds ++ [d]) (f.add d) := by
  have hadd : f.add d = { f with loose := f.loose ++ [d.id] } := by
    unfold add
    rw [hd]
  rw [hadd]
  refine ⟨h.ascending, h.fields, fun p => ?_, fun p field => ?_, ?_⟩
  · simpa [hd] using h.providers p
  · have hsame : Group.members (ds ++ [d]) p field = Group.members ds p field := by
      rw [Group.members_concat, if_neg (by simp [hd]), List.append_nil]
    rw [hsame]
    exact h.members p field
  · simp [h.loose, Group.loose, hd]

theorem Of.add_provided (h : Of ds f) (hd : providerOf? d.type = some q) : Of (ds ++ [d]) (f.add d) where
  ascending := by
    rw [provided_add hd]
    exact h.ascending.alter
  fields := by
    rw [provided_add hd]
    intro entry hentry
    rcases mem_upsert_of hentry with rfl | hentry
    · dsimp only
      exact (h.ascending_fields q).alter
    · exact h.fields entry hentry
  providers p := by
    rw [provided_add hd, ← isSome_value?_iff, value?_alter]
    have hp := h.providers p
    rw [← isSome_value?_iff] at hp
    by_cases hq : p = q
    · simp [hq, hd]
    · simp [hq, hd, hp, Ne.symm hq]
  members p field := by
    rw [find?_add hd, Group.members_concat, h.members, hd]
    simp only [Option.some.injEq, eq_comm (a := q)]
    split
    · split <;> simp_all
    · rw [List.append_nil]
  loose := by
    have hadd : (f.add d).loose = f.loose := by
      unfold add
      rw [hd]
    simp [hadd, h.loose, Group.loose, hd]

theorem Of.add (h : Of ds f) (d : Declaration) : Of (ds ++ [d]) (f.add d) := by
  cases hd : providerOf? d.type with
  | none => exact h.add_loose hd
  | some q => exact h.add_provided hd

theorem Of.foldl (h : Of ds f) (rest : List Declaration) : Of (ds ++ rest) (rest.foldl Filed.add f) := by
  induction rest generalizing ds f with
  | nil => rwa [List.append_nil]
  | cons d rest ih =>
    have hnext := ih (h.add d)
    rwa [List.append_assoc, List.singleton_append] at hnext

/-! ## The groups of what is filed -/

theorem Of.providers_eq (h : Of ds f) : f.providers = Group.providersInOrder ds :=
  Group.mergeSort_eq_providersInOrder h.ascending.nodup_keys h.providers

theorem Of.getD_find? (h : Of ds f) (p : String) : (f.provided.find? p).getD [] = Group.fieldsOf ds p := by
  refine (h.ascending_fields p).eq_of_value? Group.ascending_fieldsOf fun field => ?_
  rw [Group.value?_fieldsOf, ← h.members, Filed.find?]
  cases f.provided.find? p <;> rfl

theorem Of.groupsOf_eq (h : Of ds f) (p : String) : f.groupsOf p = Group.ofProvider ds p := by
  unfold groupsOf Group.ofProvider
  rw [← h.getD_find?]
  cases f.provided.find? p <;> rfl

theorem Of.groups_eq (h : Of ds f) : f.groups = Group.partition ds := by
  unfold groups Group.partition
  rw [h.providers_eq, h.loose, List.flatMap_congr fun p _ => h.groupsOf_eq p]

end Filed

/-- The groups of a registry are those of the searches. -/
theorem Group.ofRegistry_eq_partition (r : Registry) : ofRegistry r = foundationsFirst (partition r.resources) :=
  congrArg foundationsFirst (Filed.Of.empty.foldl r.resources).groups_eq

end ResourceGraph
