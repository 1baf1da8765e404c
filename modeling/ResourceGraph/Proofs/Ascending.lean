import ResourceGraph.Sorted

/-! # Ascending lists

A list that `upsert` builds ascends strictly by key. It then holds each key at most once, a search by
key finds exactly the element of that key, and any other search finds the match with the least key. `upsert`
changes the search for one key only; with that law a list is read as a map from keys. -/

namespace ResourceGraph.Sorted
open Std

section Upsert
variable {α κ : Type} [Ord κ] {key : α → κ} {x y : α} {k : κ} {xs ys : List α}

/-- The keys of a list ascend strictly. -/
def Ascending (key : α → κ) (xs : List α) : Prop :=
  xs.Pairwise fun a b => compare (key a) (key b) = .lt

theorem Ascending.nil : Ascending key [] := List.Pairwise.nil

theorem mem_upsert_of (h : y ∈ upsert key x xs) : y = x ∨ y ∈ xs := by
  induction xs with
  | nil => exact Or.inl (List.mem_singleton.mp h)
  | cons z zs ih =>
    unfold upsert at h
    split at h
    · exact List.mem_cons.mp h
    · rcases List.mem_cons.mp h with rfl | h
      · exact Or.inl rfl
      · exact Or.inr (List.mem_cons_of_mem _ h)
    · rcases List.mem_cons.mp h with rfl | h
      · exact Or.inr List.mem_cons_self
      · exact (ih h).imp_right (List.mem_cons_of_mem _)

theorem mem_upsert_self : x ∈ upsert key x xs := by
  induction xs with
  | nil => exact List.mem_singleton_self x
  | cons z zs ih =>
    unfold upsert
    split
    · exact List.mem_cons_self
    · exact List.mem_cons_self
    · exact List.mem_cons_of_mem _ ih

section Lawful
variable [LawfulEqOrd κ]

theorem mem_upsert_of_ne (hy : y ∈ xs) (hne : key y ≠ key x) : y ∈ upsert key x xs := by
  induction xs with
  | nil => cases hy
  | cons z zs ih =>
    unfold upsert
    split
    · exact List.mem_cons_of_mem _ hy
    · rename_i heq
      rcases List.mem_cons.mp hy with rfl | hy
      · exact absurd (LawfulEqOrd.eq_of_compare heq).symm hne
      · exact List.mem_cons_of_mem _ hy
    · rcases List.mem_cons.mp hy with rfl | hy
      · exact List.mem_cons_self
      · exact List.mem_cons_of_mem _ (ih hy)

/-- `upsert` keeps the elements of other keys and adds none. -/
theorem mem_upsert_iff_of_ne (hne : key y ≠ key x) : y ∈ upsert key x xs ↔ y ∈ xs := by
  refine ⟨fun h => ?_, fun h => mem_upsert_of_ne h hne⟩
  rcases mem_upsert_of h with rfl | h
  · exact absurd rfl hne
  · exact h

theorem find?_eq_some_mem (h : find? key k xs = some x) : x ∈ xs ∧ key x = k := by
  refine ⟨List.mem_of_find?_eq_some h, ?_⟩
  have heq := List.find?_some (p := fun y => compare k (key y) == .eq) h
  exact (LawfulEqOrd.eq_of_compare (beq_iff_eq.mp heq)).symm

theorem exists_find?_of_mem (hx : x ∈ xs) : ∃ y, find? key (key x) xs = some y := by
  cases h : find? key (key x) xs with
  | some y => exact ⟨y, rfl⟩
  | none =>
    have hne := List.find?_eq_none.mp h x hx
    simp at hne

variable [DecidableEq κ]

theorem find?_cons :
    find? key k (y :: xs) = if k = key y then some y else find? key k xs := by
  unfold find?
  rw [List.find?_cons]
  by_cases hk : k = key y
  · simp [hk]
  · have hne : (compare k (key y) == .eq) = false := by
      simpa using fun heq => hk (LawfulEqOrd.eq_of_compare heq)
    simp [hk, hne]

/-- `upsert` changes the search for the key of its element, and no other. -/
theorem find?_upsert :
    find? key k (upsert key x xs) = if k = key x then some x else find? key k xs := by
  induction xs with
  | nil => exact find?_cons
  | cons z zs ih =>
    unfold upsert
    split
    · exact find?_cons
    · rename_i heq
      have hkey : key x = key z := LawfulEqOrd.eq_of_compare heq
      rw [find?_cons, find?_cons, ← hkey]
      split <;> rfl
    · rename_i hgt
      have hne : key x ≠ key z := fun heq => by simp [heq] at hgt
      rw [find?_cons, find?_cons, ih]
      by_cases hx : k = key x
      · simp [hx, hne]
      · simp [hx]

end Lawful

section Transitive
variable [TransOrd κ]

theorem Ascending.upsert (h : Ascending key xs) (x : α) : Ascending key (upsert key x xs) := by
  induction xs with
  | nil => exact List.pairwise_singleton _ _
  | cons z zs ih =>
    obtain ⟨hz, hzs⟩ := List.pairwise_cons.mp h
    unfold Sorted.upsert
    split
    · rename_i hlt
      refine List.pairwise_cons.mpr ⟨fun y hy => ?_, h⟩
      rcases List.mem_cons.mp hy with rfl | hy
      · exact hlt
      · exact TransCmp.lt_trans hlt (hz y hy)
    · rename_i heq
      exact List.pairwise_cons.mpr ⟨fun y hy => TransCmp.lt_of_eq_of_lt heq (hz y hy), hzs⟩
    · rename_i hgt
      refine List.pairwise_cons.mpr ⟨fun y hy => ?_, ih hzs⟩
      rcases mem_upsert_of hy with rfl | hy
      · exact OrientedCmp.lt_of_gt hgt
      · exact hz y hy

theorem Ascending.nodup_keys (h : Ascending key xs) : (xs.map key).Nodup := by
  rw [List.Nodup, List.pairwise_map]
  exact h.imp fun hlt heq => by simp [heq] at hlt

/-- In an ascending list an element is determined by its key. -/
theorem Ascending.eq_of_key (h : Ascending key xs) (hx : x ∈ xs) (hy : y ∈ xs) (hkey : key x = key y) : x = y := by
  induction xs with
  | nil => cases hx
  | cons z zs ih =>
    obtain ⟨hz, hzs⟩ := List.pairwise_cons.mp h
    rcases List.mem_cons.mp hx with hxz | hx <;> rcases List.mem_cons.mp hy with hyz | hy
    · exact hxz.trans hyz.symm
    · have := hz y hy
      simp [← hxz, hkey] at this
    · have := hz x hx
      simp [← hyz, hkey] at this
    · exact ih hzs hx hy

theorem Ascending.nodup (h : Ascending key xs) : xs.Nodup := h.imp fun hlt heq => by simp [heq] at hlt

/-- Each element is alone in having its key. -/
theorem Ascending.filter_eq_singleton {p : α → Bool} (h : Ascending key xs) (hx : x ∈ xs)
    (hp : ∀ y, p y = true ↔ key y = key x) : xs.filter p = [x] := by
  have hnodup : (xs.filter p).Nodup := h.nodup.filter p
  refine List.perm_singleton.mp ((List.perm_ext_iff_of_nodup hnodup (List.pairwise_singleton _ x)).mpr fun y => ?_)
  rw [List.mem_filter, hp, List.mem_singleton]
  constructor
  · exact fun ⟨hy, hkey⟩ => h.eq_of_key hy hx hkey
  · rintro rfl
    exact ⟨hx, rfl⟩

/-- An ascending list is determined by its members. -/
theorem Ascending.eq_of_mem_iff (h : Ascending key xs) (h' : Ascending key ys) (hmem : ∀ x, x ∈ xs ↔ x ∈ ys) :
    xs = ys := by
  have hperm : xs.Perm ys := (List.perm_ext_iff_of_nodup h.nodup h'.nodup).mpr hmem
  refine hperm.eq_of_pairwise ?_ h h'
  intro x y _ _ hlt hgt
  exact absurd hgt (OrientedCmp.not_lt_of_lt hlt)

/-- A search in an ascending list gives the match with the least key. -/
theorem Ascending.find?_least {p : α → Bool} (h : Ascending key xs) : xs.find? p = some x ↔
    x ∈ xs ∧ p x = true ∧ ∀ y ∈ xs, p y = true → y = x ∨ compare (key x) (key y) = .lt := by
  have least : ∀ {z : α}, xs.find? p = some z → ∀ y ∈ xs, p y = true → y = z ∨ compare (key z) (key y) = .lt := by
    intro z hz y hy hpy
    obtain ⟨-, front, back, rfl, hfront⟩ := List.find?_eq_some_iff_append.mp hz
    rcases List.mem_append.mp hy with hy | hy
    · exact absurd hpy (by simpa using hfront y hy)
    · rcases List.mem_cons.mp hy with rfl | hy
      · exact Or.inl rfl
      · exact Or.inr ((List.pairwise_cons.mp (List.pairwise_append.mp h).2.1).1 y hy)
  refine ⟨fun hx => ⟨List.mem_of_find?_eq_some hx, List.find?_some hx, least hx⟩, ?_⟩
  rintro ⟨hx, hpx, hleast⟩
  obtain ⟨z, hz⟩ := Option.isSome_iff_exists.mp (List.find?_isSome.mpr ⟨x, hx, hpx⟩)
  rw [hz]
  rcases hleast z (List.mem_of_find?_eq_some hz) (List.find?_some hz) with rfl | hlt
  · rfl
  · rcases least hz x hx hpx with rfl | hgt
    · rfl
    · exact absurd hgt (OrientedCmp.not_lt_of_lt hlt)

variable [LawfulEqOrd κ]

theorem Ascending.find?_eq_some (h : Ascending key xs) : find? key k xs = some x ↔ x ∈ xs ∧ key x = k := by
  refine ⟨find?_eq_some_mem, ?_⟩
  rintro ⟨hx, rfl⟩
  obtain ⟨y, hy⟩ : ∃ y, find? key (key x) xs = some y := exists_find?_of_mem hx
  obtain ⟨hmem, hkey⟩ := find?_eq_some_mem hy
  rw [hy, h.eq_of_key hmem hx hkey]

end Transitive

/-! ## Storing many elements -/

/-- A list after further elements are stored one by one. -/
def upsertAll (key : α → κ) (xs ys : List α) : List α := ys.foldl (fun xs y => upsert key y xs) xs

theorem upsertAll_cons {ys : List α} : upsertAll key xs (y :: ys) = upsertAll key (upsert key y xs) ys := rfl

theorem upsertAll_append {ys zs : List α} :
    upsertAll key xs (ys ++ zs) = upsertAll key (upsertAll key xs ys) zs := List.foldl_append

/-- The last of the elements with a key is the one that is found by it. -/
theorem find?_upsertAll [LawfulEqOrd κ] [DecidableEq κ] {ys : List α} :
    find? key k (upsertAll key xs ys) = ((ys.filter (key · = k)).getLast?).or (find? key k xs) := by
  induction ys generalizing xs with
  | nil => rfl
  | cons y ys ih =>
    rw [upsertAll_cons, ih, find?_upsert, List.filter_cons]
    by_cases hk : key y = k
    · -- `y` hides what the list held before, and is hidden by a later element of its key.
      subst hk
      simp only [if_true, decide_true, List.getLast?_cons]
      cases (ys.filter (key · = key y)).getLast? <;> rfl
    · simp [hk, Ne.symm hk]

theorem Ascending.upsertAll [TransOrd κ] {ys : List α} (h : Ascending key xs) :
    Ascending key (upsertAll key xs ys) := by
  induction ys generalizing xs with
  | nil => exact h
  | cons y ys ih => exact ih (h.upsert y)

/-- What is stored when many elements are is the last one of each key. -/
theorem mem_upsertAll_nil [TransOrd κ] [LawfulEqOrd κ] [DecidableEq κ] {ys : List α} :
    y ∈ upsertAll key [] ys ↔ (ys.filter (key · = key y)).getLast? = some y := by
  have hfind : y ∈ upsertAll key [] ys ↔ find? key (key y) (upsertAll key [] ys) = some y := by
    rw [(Ascending.upsertAll .nil).find?_eq_some]
    simp
  rw [hfind, find?_upsertAll]
  simp [find?]

/-- The keys of many stored elements are theirs. -/
theorem mem_keys_upsertAll_nil [LawfulEqOrd κ] [DecidableEq κ] {ys : List α} :
    (∃ y ∈ upsertAll key [] ys, key y = k) ↔ ∃ y ∈ ys, key y = k := by
  constructor
  · rintro ⟨y, hy, rfl⟩
    obtain ⟨z, hz⟩ : ∃ z, find? key (key y) (upsertAll key [] ys) = some z := exists_find?_of_mem hy
    rw [find?_upsertAll] at hz
    have hmem : z ∈ ys.filter (key · = key y) := List.mem_of_getLast? (by simpa [find?] using hz)
    obtain ⟨hz, hkey⟩ := List.mem_filter.mp hmem
    exact ⟨z, hz, by simpa using hkey⟩
  · rintro ⟨y, hy, rfl⟩
    have hne : ys.filter (key · = key y) ≠ [] := List.ne_nil_of_mem (List.mem_filter.mpr ⟨hy, by simp⟩)
    obtain ⟨z, hz⟩ := Option.isSome_iff_exists.mp (List.getLast?_isSome.mpr hne)
    have hfind : find? key (key y) (upsertAll key [] ys) = some z := by rw [find?_upsertAll, hz]; rfl
    exact ⟨z, (find?_eq_some_mem hfind).1, (find?_eq_some_mem hfind).2⟩

/-! ## Storing again

These laws need no ascending list: `upsert` puts its element before the first one whose key is not less. -/

/-- A later element of the same key hides an earlier one. -/
theorem upsert_upsert_of_eq [ReflOrd κ] (h : key x = key y) : upsert key x (upsert key y xs) = upsert key x xs := by
  induction xs with
  | nil => simp [upsert, h]
  | cons z zs ih =>
    cases hz : compare (key y) (key z) <;> simp [upsert, h, hz, ih]

theorem upsert_upsert_of_lt [TransOrd κ] (h : compare (key x) (key y) = .lt) :
    upsert key x (upsert key y xs) = upsert key y (upsert key x xs) := by
  have hgt : compare (key y) (key x) = .gt := OrientedCmp.gt_of_lt h
  induction xs with
  | nil => simp [upsert, h, hgt]
  | cons z zs ih =>
    cases hy : compare (key y) (key z) with
    | lt =>
      have hx : compare (key x) (key z) = .lt := TransCmp.lt_trans h hy
      simp [upsert, h, hgt, hx, hy]
    | eq =>
      have hx : compare (key x) (key z) = .lt := TransCmp.lt_of_lt_of_eq h hy
      simp [upsert, h, hgt, hx, hy]
    | gt => cases hx : compare (key x) (key z) <;> simp [upsert, hgt, hx, hy, ih]

/-- The order of two elements of different keys does not matter. -/
theorem upsert_comm [TransOrd κ] [LawfulEqOrd κ] (h : key x ≠ key y) :
    upsert key x (upsert key y xs) = upsert key y (upsert key x xs) := by
  cases hxy : compare (key x) (key y) with
  | lt => exact upsert_upsert_of_lt hxy
  | eq => exact absurd (LawfulEqOrd.eq_of_compare hxy) h
  | gt => exact (upsert_upsert_of_lt (OrientedCmp.lt_of_gt hxy)).symm

/-- Neither does the order of many elements whose keys are all different. -/
theorem upsertAll_perm [TransOrd κ] [LawfulEqOrd κ] {ys zs : List α} (h : ys.Perm zs) (hkeys : (ys.map key).Nodup) :
    upsertAll key xs ys = upsertAll key xs zs := by
  induction h generalizing xs with
  | nil => rfl
  | cons x h ih =>
    obtain ⟨-, hkeys⟩ := List.nodup_cons.mp hkeys
    exact ih hkeys
  | swap x y ys =>
    obtain ⟨hy, -⟩ := List.nodup_cons.mp hkeys
    have hne : key x ≠ key y := fun heq => hy (by rw [← heq]; exact List.mem_cons_self)
    rw [upsertAll_cons, upsertAll_cons, upsertAll_cons, upsertAll_cons, upsert_comm hne]
  | trans h _ ih ih' => exact (ih hkeys).trans (ih' ((h.map key).nodup hkeys))

theorem upsertAll_upsert_of_ne [TransOrd κ] [LawfulEqOrd κ] {ys : List α} (h : ∀ y ∈ ys, key y ≠ key x) :
    upsertAll key (upsert key x xs) ys = upsert key x (upsertAll key xs ys) := by
  induction ys generalizing xs with
  | nil => rfl
  | cons y ys ih =>
    rw [upsertAll_cons, upsertAll_cons, upsert_comm (h y List.mem_cons_self),
      ih fun z hz => h z (List.mem_cons_of_mem _ hz)]

theorem upsertAll_upsert_of_eq [TransOrd κ] [LawfulEqOrd κ] [DecidableEq κ] {ys : List α}
    (h : ∃ y ∈ ys, key y = key x) : upsertAll key (upsert key x xs) ys = upsertAll key xs ys := by
  induction ys generalizing xs with
  | nil =>
    obtain ⟨y, hy, -⟩ := h
    cases hy
  | cons z zs ih =>
    rw [upsertAll_cons, upsertAll_cons]
    by_cases hz : key z = key x
    · rw [upsert_upsert_of_eq hz]
    · obtain ⟨y, hy, hkey⟩ := h
      rcases List.mem_cons.mp hy with rfl | hy
      · exact absurd hkey hz
      · rw [upsert_comm hz]
        exact ih ⟨y, hy, hkey⟩

/-- Storing the same elements once more changes nothing. -/
theorem upsertAll_upsertAll [TransOrd κ] [LawfulEqOrd κ] [DecidableEq κ] {ys : List α} :
    upsertAll key (upsertAll key xs ys) ys = upsertAll key xs ys := by
  induction ys generalizing xs with
  | nil => rfl
  | cons y ys ih =>
    rw [upsertAll_cons, upsertAll_cons]
    by_cases h : ∃ z ∈ ys, key z = key y
    · rw [upsertAll_upsert_of_eq h, ih]
    · -- `y` is the last element of its key, so it can be stored again right after the first time.
      have hne : ∀ z ∈ ys, key z ≠ key y := fun z hz hkey => h ⟨z, hz, hkey⟩
      rw [← upsertAll_upsert_of_ne hne, upsert_upsert_of_eq rfl, ih]

end Upsert

/-- The last result of a function with a property is that for the last argument whose result has it. -/
theorem getLast?_filter_filterMap {α δ : Type} {f : δ → Option α} {p : α → Bool} {ds : List δ} :
    ((ds.filterMap f).filter p).getLast? = ((ds.filter fun d => (f d).any p).getLast?).bind f := by
  induction ds with
  | nil => rfl
  | cons d ds ih =>
    rw [List.filterMap_cons, List.filter_cons]
    cases hf : f d with
    | none => simpa using ih
    | some x =>
      rw [List.filter_cons]
      by_cases hp : p x = true
      · simp only [hp, if_true, Option.any_some, List.getLast?_cons, ih, Option.bind_some]
        cases hlast : (ds.filter fun d => (f d).any p).getLast? with
        | none => simp [hf]
        | some d' =>
          have hany : (f d').any p = true := (List.mem_filter.mp (List.mem_of_getLast? hlast)).2
          cases hd' : f d' with
          | none => simp [hd'] at hany
          | some y => simp [hd']
      · simpa [hp] using ih

/-! ## Sorting -/

/-- Sorting keeps the order of the elements of one key, if they are tied. -/
theorem filter_mergeSort {α κ : Type} [DecidableEq κ] {le : α → α → Bool} {key : α → κ}
    (trans : ∀ a b c, le a b = true → le b c = true → le a c = true) (total : ∀ a b, (le a b || le b a) = true)
    (ties : ∀ a b, key a = key b → le a b = true) (xs : List α) (k : κ) :
    (xs.mergeSort le).filter (key · = k) = xs.filter (key · = k) := by
  have htied : (xs.filter (key · = k)).Pairwise fun a b => le a b = true := by
    refine List.pairwise_iff_forall_sublist.mpr fun {a b} hab => ties a b ?_
    have key_eq : ∀ {c}, c ∈ [a, b] → key c = k := fun hc => of_decide_eq_true (List.mem_filter.mp (hab.mem hc)).2
    rw [key_eq List.mem_cons_self, key_eq (List.mem_cons_of_mem _ List.mem_cons_self)]
  have hsub := (List.sublist_mergeSort trans total htied List.filter_sublist).filter (key · = k)
  rw [List.filter_filter] at hsub
  simp only [Bool.and_self] at hsub
  exact (hsub.eq_of_length ((List.mergeSort_perm xs le).filter _).length_eq.symm).symm

/-! ## Maps -/

section Maps
variable {κ β : Type} [Ord κ] {k other : κ} {value missing : β} {change : β → β} {entries entries' : List (κ × β)}

theorem Ascending.alter [TransOrd κ] (h : Ascending Prod.fst entries) :
    Ascending Prod.fst (alter k missing change entries) := h.upsert _

variable [LawfulEqOrd κ]

theorem value?_upsert [DecidableEq κ] :
    value? other (upsert Prod.fst (k, value) entries) = if other = k then some value else value? other entries := by
  unfold value?
  rw [find?_upsert]
  split <;> rfl

/-- `alter` changes the value under one key, and no other. -/
theorem value?_alter [DecidableEq κ] : value? other (alter k missing change entries) =
    if other = k then some (change ((value? k entries).getD missing)) else value? other entries := value?_upsert

theorem isSome_value?_iff : (value? k entries).isSome = true ↔ k ∈ entries.map Prod.fst := by
  rw [value?, Option.isSome_map, List.mem_map]
  constructor
  · intro hsome
    obtain ⟨entry, hentry⟩ := Option.isSome_iff_exists.mp hsome
    exact ⟨entry, find?_eq_some_mem hentry⟩
  · rintro ⟨entry, hentry, rfl⟩
    exact Option.isSome_iff_exists.mpr (exists_find?_of_mem hentry)

variable [TransOrd κ]

theorem Ascending.value?_eq_some (h : Ascending Prod.fst entries) :
    value? k entries = some value ↔ (k, value) ∈ entries := by
  unfold value?
  rw [Option.map_eq_some_iff]
  constructor
  · rintro ⟨entry, hfind, rfl⟩
    obtain ⟨hentry, rfl⟩ := h.find?_eq_some.mp hfind
    exact hentry
  · exact fun hentry => ⟨(k, value), h.find?_eq_some.mpr ⟨hentry, rfl⟩, rfl⟩

/-- A map is determined by the value under each key. -/
theorem Ascending.eq_of_value? (h : Ascending Prod.fst entries) (h' : Ascending Prod.fst entries')
    (hvalue : ∀ k, value? k entries = value? k entries') : entries = entries' :=
  h.eq_of_mem_iff h' fun entry => by
    rw [← h.value?_eq_some, hvalue, h'.value?_eq_some]

end Maps

/-! ## Tables -/

section Tables
variable {α : Type} {table table' : Table α} {name other : String} {value : α}

theorem Table.find?_insert :
    (table.insert name value).find? other = if other = name then some value else table.find? other := value?_upsert

theorem Table.find?_eq_some (h : Ascending Prod.fst table) :
    table.find? name = some value ↔ (name, value) ∈ table := h.value?_eq_some

/-- A table is determined by the value under each name. -/
theorem Table.ext (h : Ascending Prod.fst table) (h' : Ascending Prod.fst table')
    (hfind : ∀ name, table.find? name = table'.find? name) : table = table' := h.eq_of_value? h' hfind

/-- The entries of a table make this table. -/
theorem Table.ofList_eq_self (h : Ascending Prod.fst table) : Table.ofList table = table := by
  have hmem : ∀ entry, entry ∈ upsertAll Prod.fst [] table ↔ entry ∈ table := fun entry => by
    rw [mem_upsertAll_nil]
    constructor
    · exact fun hlast => (List.mem_filter.mp (List.mem_of_getLast? hlast)).1
    · intro hentry
      rw [h.filter_eq_singleton hentry fun y => decide_eq_true_iff]
      rfl
  exact (Ascending.upsertAll .nil).eq_of_mem_iff h hmem

end Tables

/-! ## Sets of strings -/

theorem Names.mem_insert {names : Names} {x y : String} : y ∈ names.insert x ↔ y = x ∨ y ∈ names := by
  constructor
  · exact mem_upsert_of
  · rintro (rfl | hy)
    · exact mem_upsert_self
    · by_cases hne : y = x
      · subst hne
        exact mem_upsert_self
      · exact mem_upsert_of_ne hy hne

theorem Names.mem_foldl_insert {α : Type} {f : α → String} {xs : List α} {names : Names} {y : String} :
    y ∈ xs.foldl (fun names x => names.insert (f x)) names ↔ y ∈ names ∨ ∃ x ∈ xs, f x = y := by
  induction xs generalizing names with
  | nil => simp
  | cons x xs ih =>
    have hcons : (∃ z ∈ x :: xs, f z = y) ↔ y = f x ∨ ∃ z ∈ xs, f z = y := by simp [eq_comm]
    rw [List.foldl_cons, ih, Names.mem_insert, hcons, or_assoc, or_left_comm]

/-- Inserting a member tells whether it was in the set. -/
theorem Names.insertNew_eq {names : Names} (h : Ascending id names) (x : String) :
    Names.insertNew x names = (decide (x ∉ names), names.insert x) := by
  induction names with
  | nil => rfl
  | cons y ys ih =>
    obtain ⟨hy, hys⟩ := List.pairwise_cons.mp h
    have hinsert : ∀ {zs : Names}, zs.insert x = upsert id x zs := rfl
    rw [hinsert] at ih
    rw [Names.insertNew, hinsert, upsert, id_eq, id_eq]
    cases hxy : compare x y with
    | lt =>
      have hnew : x ∉ y :: ys := by
        intro hx
        rcases List.mem_cons.mp hx with rfl | hx
        · simp at hxy
        · exact absurd (TransCmp.lt_trans hxy (hy x hx)) (by simp)
      simp [hnew]
    | eq =>
      obtain rfl := LawfulEqOrd.eq_of_compare hxy
      simp
    | gt =>
      have hne : x ≠ y := fun heq => by simp [heq] at hxy
      simp [ih hys, hne]

theorem Names.ofList_eq (names : List String) : Names.ofList names = upsertAll id [] names := rfl

theorem Names.mem_ofList {names : List String} {x : String} : x ∈ Names.ofList names ↔ x ∈ names := by
  have h : (∃ y ∈ upsertAll id [] names, id y = x) ↔ ∃ y ∈ names, id y = x := mem_keys_upsertAll_nil
  simpa [Names.ofList_eq] using h

theorem Names.nodup_ofList (names : List String) : (Names.ofList names).Nodup := by
  have h : Ascending id (upsertAll id [] names) := Ascending.upsertAll .nil
  simpa [Names.ofList_eq] using h.nodup_keys

end ResourceGraph.Sorted
