import ResourceGraph.Notes
import ResourceGraph.Proofs.Dependency.Mentions
import ResourceGraph.Proofs.Text.Cut
import ResourceGraph.Proofs.Text.Order

/-! # What a document says about dependencies

The overview lists the first dependencies and counts the others, the summary has a line for each resource that
depends on anything, and each file has the lines for the resources whose names agree with its own. All of them are
read off the same map: the lines under a heading are found again in the text, and each line beside a file belongs to
one resource and one category. -/

namespace ResourceGraph
open Sorted Text DependencyMap

/-! ## Lines under a heading -/

namespace Text
variable {text rest heading : String} {front ls back : List String}

/-- The parts of a text between its line feeds. -/
def rows (s : String) : List String := (split '\n' s.toList).map String.ofList

/-- The lines under the last heading of this name, up to the next blank line. A blank line stands below a heading. -/
def under (heading text : String) : List String :=
  (((rows text).reverse.takeWhile (· ≠ heading)).reverse.drop 1).takeWhile (· ≠ "")

theorem rows_append (s t : String) : rows (s ++ "\n" ++ t) = rows s ++ rows t := by
  simp [rows, split_append_cons]

theorem rows_of_not_mem (h : '\n' ∉ text.toList) : rows text = [text] := by
  simp [rows, split_of_not_mem h]

theorem rows_empty : rows "" = [""] := rows_of_not_mem List.not_mem_nil

theorem rows_linesOf (h : ∀ l ∈ ls, '\n' ∉ l.toList) : rows (Notes.linesOf ls ++ rest) = ls ++ rows rest := by
  induction ls with
  | nil => simp [Notes.linesOf]
  | cons l ls ih =>
    obtain ⟨hl, hls⟩ := List.forall_mem_cons.mp h
    have hfirst : Notes.linesOf (l :: ls) ++ rest = l ++ "\n" ++ (Notes.linesOf ls ++ rest) := by
      simp [Notes.linesOf, String.join_cons, String.append_assoc]
    rw [hfirst, rows_append, rows_of_not_mem hl, ih hls, List.singleton_append, List.cons_append]

theorem mem_of_mem_rows {c : Char} {l : String} (hc : c ∈ l.toList) (hl : l ∈ rows text) : c ∈ text.toList := by
  obtain ⟨part, hpart, rfl⟩ := List.mem_map.mp hl
  rw [String.toList_ofList] at hc
  exact mem_of_mem_split hpart hc

/-- Some lines under a heading, with a blank line between them, and what follows. -/
def passage (heading : String) (ls : List String) (rest : String) : String :=
  heading ++ "\n" ++ ("" ++ "\n" ++ (Notes.linesOf ls ++ rest))

theorem rows_passage (hheading : '\n' ∉ heading.toList) (h : ∀ l ∈ ls, '\n' ∉ l.toList) :
    rows (passage heading ls rest) = heading :: "" :: (ls ++ rows rest) := by
  rw [passage, rows_append, rows_append, rows_of_not_mem hheading, rows_empty, rows_linesOf h]
  rfl

theorem under_eq (hrows : rows text = front ++ heading :: "" :: (ls ++ "" :: back)) (hheading : heading ≠ "")
    (hls : ∀ l ∈ ls, l ≠ heading ∧ l ≠ "") (hback : ∀ l ∈ back, l ≠ heading) : under heading text = ls := by
  have hbehind : (rows text).reverse.takeWhile (· ≠ heading) = ("" :: (ls ++ "" :: back)).reverse := by
    have hreverse : (rows text).reverse = ("" :: (ls ++ "" :: back)).reverse ++ (heading :: front.reverse) := by
      simp [hrows]
    rw [hreverse]
    refine takeWhile_append_of_stop (fun l hl => ?_) (by simp)
    simp only [List.mem_reverse, List.mem_cons, List.mem_append] at hl
    rcases hl with rfl | hl | rfl | hl
    · simpa using hheading.symm
    · simpa using (hls l hl).1
    · simpa using hheading.symm
    · simpa using hback l hl
  unfold under
  rw [hbehind, List.reverse_reverse, List.drop_one, List.tail_cons]
  exact takeWhile_append_of_stop (fun l hl => by simpa using (hls l hl).2) (by simp)

end Text

namespace Notes
variable {m : DependencyMap} {entry : String × Targets} {id target : String} {c : Category} {limit : Nat}

/-- The resources and targets of all dependencies are written without line feeds. -/
def OneLine (m : DependencyMap) : Prop := ∀ e ∈ m.edges, '\n' ∉ e.source.toList ∧ '\n' ∉ e.target.toList

/-! ## Overviews -/

/-- The line for the dependencies that are not listed. -/
def moreLine (n : Nat) : String := "- ... and " ++ n.repr ++ " more"

/-- What is written where there are no dependencies. -/
def noLine : String := "_No dependencies detected._"

theorem noDependencies_eq : noDependencies = linesOf [noLine] := by decide +kernel

/-- The lines of an overview for its dependencies. -/
def keyLines (limit : Nat) (edges : List Dependency) : List String :=
  (if edges.isEmpty then [noLine] else []) ++ dependencyLines limit edges

theorem feed_not_mem_digits (n : Nat) : '\n' ∉ Nat.toDigits 10 n := by
  intro h
  exact absurd (Nat.isDigit_of_mem_toDigits (by decide) (by decide) h) (by decide)

theorem feed_not_mem_name (c : Category) : '\n' ∉ c.name.toList := by cases c <;> decide

theorem toList_dependencyLine (d : Dependency) : (dependencyLine d).toList =
    "- ".toList ++ d.source.toList ++ " -> ".toList ++ d.target.toList ++ " (".toList ++ d.category.name.toList ++ [')'] := by
  simp [dependencyLine, toString]

theorem dependencyLines_eq (limit : Nat) (edges : List Dependency) : dependencyLines limit edges =
    (edges.take limit).map dependencyLine ++ if limit < edges.length then [moreLine (edges.length - limit)] else [] := rfl

theorem feed_not_mem_keyLines (h : OneLine m) : ∀ l ∈ keyLines limit m.edges, '\n' ∉ l.toList := by
  intro l hl
  rw [keyLines, dependencyLines_eq] at hl
  rcases List.mem_append.mp hl with hl | hl
  · split at hl
    · obtain rfl := List.mem_singleton.mp hl
      decide +kernel
    · cases hl
  · rcases List.mem_append.mp hl with hl | hl
    · obtain ⟨e, he, rfl⟩ := List.mem_map.mp hl
      obtain ⟨hsource, htarget⟩ := h e (List.mem_of_mem_take he)
      simp [toList_dependencyLine, hsource, htarget, feed_not_mem_name]
    · split at hl
      · obtain rfl := List.mem_singleton.mp hl
        simp [moreLine, feed_not_mem_digits]
      · cases hl

theorem linesOf_keyLines : linesOf (keyLines limit m.edges) =
    (if m.edges.isEmpty then noDependencies else "") ++ linesOf (dependencyLines limit m.edges) := by
  unfold keyLines linesOf
  rw [List.map_append, String.join_append]
  split
  · rw [noDependencies_eq]
    rfl
  · rfl

/-- The advice has no letter that only the heading of the dependencies has. -/
theorem not_mem_guidelines : 'K' ∉ guidelines.toList := by
  have hliteral : ∀ {l : List Char}, 'K' ∉ l → 'K' ∉ (String.ofList l).toList := by
    intro l hl
    rwa [String.toList_ofList]
  unfold guidelines
  simp only [String.toList_append, List.mem_append, not_or]
  refine ⟨⟨⟨⟨⟨?_, ?_⟩, ?_⟩, ?_⟩, ?_⟩, ?_⟩ <;> exact hliteral (by decide +kernel)

/-- The dependencies stand in a passage of an overview, in front of the advice. -/
theorem overview_eq (limit fileCount : Nat) (r : Registry) (m : DependencyMap) (groups : List Group) :
    ∃ front, overview limit fileCount r m groups = front ++ "\n" ++
      passage "## Key Dependencies" (keyLines limit m.edges) ("" ++ "\n" ++ guidelines) := by
  have hparts : ∀ {text heading : String}, text = "\n" ++ heading ++ "\n" ++ "\n" →
      ∀ front none listed advice : String, front ++ text ++ none ++ listed ++ "\n" ++ advice = front ++ "\n" ++
        (heading ++ "\n" ++ ("" ++ "\n" ++ (none ++ listed ++ ("" ++ "\n" ++ advice)))) := by
    rintro text heading rfl front none listed advice
    simp only [String.append_assoc, String.empty_append]
  have htext : "\n## Key Dependencies\n\n" = "\n" ++ "## Key Dependencies" ++ "\n" ++ "\n" := by decide +kernel
  rw [passage, linesOf_keyLines]
  unfold overview
  exact ⟨_, hparts htext _ _ _ _⟩

/-- A line of a list is no heading. -/
theorem ne_of_first {heading l : String} (hheading : heading.toList.head? = some '#')
    (hl : l.toList.head? = some '-' ∨ l.toList.head? = some '_') : l ≠ heading ∧ l ≠ "" := by
  constructor
  · rintro rfl
    rcases hl with h | h <;> simp [hheading] at h
  · rintro rfl
    rcases hl with h | h <;> simp at h

theorem keyLines_ne {heading : String} (hheading : heading.toList.head? = some '#') :
    ∀ l ∈ keyLines limit m.edges, l ≠ heading ∧ l ≠ "" := by
  intro l hl
  refine ne_of_first hheading ?_
  rw [keyLines, dependencyLines_eq] at hl
  rcases List.mem_append.mp hl with hl | hl
  · split at hl
    · obtain rfl := List.mem_singleton.mp hl
      exact Or.inr (by decide +kernel)
    · cases hl
  · refine Or.inl ?_
    rcases List.mem_append.mp hl with hl | hl
    · obtain ⟨e, -, rfl⟩ := List.mem_map.mp hl
      simp [toList_dependencyLine]
    · split at hl
      · obtain rfl := List.mem_singleton.mp hl
        simp [moreLine]
      · cases hl

/-- An overview lists its dependencies under their heading. -/
theorem under_overview (h : OneLine m) (limit fileCount : Nat) (r : Registry) (groups : List Group) :
    under "## Key Dependencies" (overview limit fileCount r m groups) = keyLines limit m.edges := by
  obtain ⟨front, hoverview⟩ := overview_eq limit fileCount r m groups
  have hrest : rows ("" ++ "\n" ++ guidelines) = "" :: rows guidelines := by
    rw [rows_append, rows_empty, List.singleton_append]
  have hguidelines : ∀ l ∈ rows guidelines, l ≠ "## Key Dependencies" := by
    rintro l hl rfl
    exact not_mem_guidelines (mem_of_mem_rows (by decide) hl)
  have hrows : rows (overview limit fileCount r m groups) =
      rows front ++ "## Key Dependencies" :: "" :: (keyLines limit m.edges ++ "" :: rows guidelines) := by
    rw [hoverview, rows_append, rows_passage (by decide) (feed_not_mem_keyLines h), hrest]
  exact under_eq hrows (by decide) (keyLines_ne rfl) hguidelines

theorem moreLine_injective {n k : Nat} (h : moreLine n = moreLine k) : n = k := by
  have hdigits : Nat.toDigits 10 n = Nat.toDigits 10 k := by
    rw [← String.toList_inj] at h
    simpa [moreLine] using h
  rw [← Nat.ofDigitChars_ten_toDigits (n := n), hdigits, Nat.ofDigitChars_ten_toDigits]

theorem moreLine_mem_keyLines {n : Nat} :
    moreLine n ∈ keyLines limit m.edges ↔ limit < m.totalCount ∧ n = m.totalCount - limit := by
  have hlast : (moreLine n).toList.getLast? = some 'e' := by
    rw [moreLine, String.toList_append, List.getLast?_append]
    rfl
  have hnone : moreLine n ∉ if m.edges.isEmpty then [noLine] else [] := by
    have hword : noLine.toList.getLast? = some '_' := by decide +kernel
    split
    · intro hmem
      rw [← List.mem_singleton.mp hmem, hlast] at hword
      cases hword
    · exact List.not_mem_nil
  have hlisted : moreLine n ∉ (m.edges.take limit).map dependencyLine := by
    intro hmem
    obtain ⟨d, -, hd⟩ := List.mem_map.mp hmem
    have hparen : (dependencyLine d).toList.getLast? = some ')' := by
      rw [toList_dependencyLine, List.getLast?_append]
      rfl
    rw [hd, hlast] at hparen
    cases hparen
  rw [keyLines, dependencyLines_eq, List.mem_append, List.mem_append, or_iff_right hnone, or_iff_right hlisted,
    length_edges]
  by_cases hlimit : limit < m.totalCount
  · rw [if_pos hlimit, List.mem_singleton]
    refine ⟨fun heq => ⟨hlimit, moreLine_injective heq⟩, ?_⟩
    rintro ⟨-, rfl⟩
    rfl
  · simp [hlimit]

/-! ## Summaries -/

/-- The line for all that a resource depends on. -/
def summaryLine (m : DependencyMap) (id : String) : String :=
  "- " ++ id ++ " depends on: " ++ ", ".intercalate (m.combined id)

theorem mem_combined_iff (h : m.Ordered) : target ∈ m.combined id ↔ ∃ c, ⟨id, target, c⟩ ∈ m.edges := by
  have hcombined : m.combined id = (m.targetsOf id).combined := by
    unfold DependencyMap.combined targetsOf
    cases m.get? id <;> rfl
  rw [hcombined, Targets.mem_combined]
  exact exists_congr fun c => h.mem_targetsOf

theorem summaryLines_eq (h : m.Ordered) :
    m.entries.filterMap summaryLine? = (m.ids.filter (m.combined · ≠ [])).map (summaryLine m) := by
  rw [ids, List.filter_map, List.map_map, ← List.filterMap_eq_map, ← List.filterMap_eq_filter, List.filterMap_filterMap]
  refine List.filterMap_congr fun entry hentry => ?_
  have hcombined : m.combined entry.1 = entry.2.combined := by
    unfold DependencyMap.combined
    rw [h.get?_eq_some.mpr hentry]
  by_cases hempty : entry.2.combined = []
  · simp [summaryLine?, hcombined, hempty, Option.guard]
  · simp [summaryLine?, summaryLine, hcombined, hempty, Option.guard]

theorem not_mem_intercalate {c : Char} {names : List String} (h : ∀ x ∈ names, c ∉ x.toList) (hc : c ∉ ", ".toList) :
    c ∉ (", ".intercalate names).toList := by
  induction names with
  | nil => simp
  | cons x names ih =>
    obtain ⟨hx, hnames⟩ := List.forall_mem_cons.mp h
    cases names with
    | nil => simpa using hx
    | cons y names =>
      rw [String.intercalate_cons_cons, String.toList_append, String.toList_append]
      simp only [List.mem_append, not_or]
      exact ⟨⟨hx, hc⟩, ih hnames⟩

/-- The lines of a summary. -/
def summaryLines (m : DependencyMap) : List String :=
  if m.totalCount = 0 then [noLine] else (m.ids.filter (m.combined · ≠ [])).map (summaryLine m)

theorem totalCount_eq_zero : m.totalCount = 0 ↔ m.edges = [] := by
  rw [← length_edges, List.length_eq_zero_iff]

theorem summaryLines_ne (h : m.Ordered) : m.ids.filter (m.combined · ≠ []) = [] ↔ m.totalCount = 0 := by
  rw [totalCount_eq_zero, List.filter_eq_nil_iff, List.eq_nil_iff_forall_not_mem]
  constructor
  · intro hnone e he
    have hid : e.source ∈ m.ids := mem_ids.mpr ((mem_edges.mp he).imp fun _ h => h.1)
    have hempty : m.combined e.source = [] := by simpa using hnone e.source hid
    have hmem : e.target ∈ m.combined e.source := (mem_combined_iff h).mpr ⟨e.category, he⟩
    rw [hempty] at hmem
    cases hmem
  · intro hnone id _
    have hempty : m.combined id = [] := List.eq_nil_iff_forall_not_mem.mpr fun x hx => by
      obtain ⟨c, hc⟩ := (mem_combined_iff h).mp hx
      exact hnone _ hc
    simp [hempty]

theorem dependencySummary_eq (h : m.Ordered) :
    dependencySummary m = passage "## Dependency Summary" (summaryLines m) "" := by
  have hparts : ∀ {text heading : String}, text = heading ++ "\n" ++ "\n" →
      text ++ linesOf (summaryLines m) = passage heading (summaryLines m) "" := by
    rintro text heading rfl
    simp only [passage, String.append_assoc, String.empty_append, String.append_empty]
  have htext : "## Dependency Summary\n\n" = "## Dependency Summary" ++ "\n" ++ "\n" := by decide +kernel
  have hlines : linesOr noDependencies (m.entries.filterMap summaryLine?) = linesOf (summaryLines m) := by
    rw [summaryLines_eq h]
    unfold linesOr summaryLines
    simp only [List.isEmpty_map, List.isEmpty_iff, summaryLines_ne h]
    split
    · exact noDependencies_eq
    · rfl
  unfold dependencySummary
  exact (congrArg _ hlines).trans (hparts htext)

/-- A summary lists the resources that depend on anything under its heading. -/
theorem under_dependencySummary (h : m.Ordered) (hm : OneLine m) :
    under "## Dependency Summary" (dependencySummary m) = summaryLines m := by
  have hfeed : ∀ l ∈ summaryLines m, '\n' ∉ l.toList := by
    intro l hl
    unfold summaryLines at hl
    split at hl
    · obtain rfl := List.mem_singleton.mp hl
      decide +kernel
    · obtain ⟨id, hid, rfl⟩ := List.mem_map.mp hl
      obtain ⟨-, hcombined⟩ := List.mem_filter.mp hid
      have hlisted : ∀ x ∈ m.combined id, '\n' ∉ id.toList ∧ '\n' ∉ x.toList := fun x hx => by
        obtain ⟨c, hc⟩ := (mem_combined_iff h).mp hx
        exact hm _ hc
      obtain ⟨x, hx⟩ := List.exists_mem_of_ne_nil _ (of_decide_eq_true hcombined)
      have hnames := not_mem_intercalate (fun x hx => (hlisted x hx).2) (by decide)
      rw [summaryLine, String.toList_append, String.toList_append, String.toList_append]
      simp only [List.mem_append, not_or]
      exact ⟨⟨⟨by decide, (hlisted x hx).1⟩, by decide⟩, hnames⟩
  have hne : ∀ l ∈ summaryLines m, l ≠ "## Dependency Summary" ∧ l ≠ "" := by
    intro l hl
    refine ne_of_first rfl ?_
    unfold summaryLines at hl
    split at hl
    · obtain rfl := List.mem_singleton.mp hl
      exact Or.inr (by decide +kernel)
    · obtain ⟨id, -, rfl⟩ := List.mem_map.mp hl
      exact Or.inl (by simp [summaryLine])
  have hrows : rows (dependencySummary m) = [] ++ "## Dependency Summary" :: "" :: (summaryLines m ++ "" :: []) := by
    rw [dependencySummary_eq h, rows_passage (by decide) hfeed, rows_empty, List.nil_append]
  exact under_eq hrows (by decide) hne (List.forall_mem_nil _)

/-! ## Lines beside files -/

/-- The line for the targets of a resource in one category. -/
def noteLine (m : DependencyMap) (note : String × Category) : String :=
  let targets := ", ".intercalate ((m.targetsOf note.1).get note.2)
  if note.2 = .implicit then "# Relationship hint: " ++ note.1 ++ " may relate to " ++ targets
  else "# Cross-reference: " ++ note.1 ++ " uses " ++ note.2.name ++ " " ++ targets

theorem targetLine?_eq (h : m.targetsOf entry.1 = entry.2) :
    targetLine? entry.1 entry.2 c = if entry.2.get c = [] then none else some (noteLine m (entry.1, c)) := by
  unfold targetLine? noteLine
  rw [h]
  by_cases hempty : entry.2.get c = []
  · simp [hempty]
  · cases c <;> simp [hempty, toString]

/-- The resources that agree with a file by name, each with those of some categories in which it has targets. -/
def notesFor (file : String) (m : DependencyMap) (cs : List Category) : List (String × Category) :=
  (m.table.filter fun entry => namesAgree entry.1 file).flatMap fun entry =>
    (cs.filter fun c => entry.2.get c ≠ []).map (entry.1, ·)

theorem linesFor_eq (h : m.Ordered) {file : String} {cs : List Category} {lines : String × Targets → List String}
    (hlines : ∀ entry, lines entry = cs.filterMap (targetLine? entry.1 entry.2)) :
    linesFor file m lines = (notesFor file m cs).map (noteLine m) := by
  have htable : linesFor file m lines = (m.table.filter fun entry => namesAgree entry.1 file).flatMap lines := rfl
  rw [htable, notesFor, List.map_flatMap]
  refine List.flatMap_congr fun entry hentry => ?_
  have htargets : m.targetsOf entry.1 = entry.2 := by
    have hfind := (Table.find?_eq_some m.ascending_table).mpr (List.mem_of_mem_filter hentry)
    rw [h.find?_table] at hfind
    unfold targetsOf
    rw [hfind, Option.getD_some]
  rw [hlines, List.map_map, ← List.filterMap_eq_map, ← List.filterMap_eq_filter, List.filterMap_filterMap]
  refine List.filterMap_congr fun c _ => ?_
  rw [targetLine?_eq htargets]
  by_cases hempty : entry.2.get c = [] <;> simp [hempty, Option.guard]

theorem mem_table (h : m.Ordered) {t : Targets} : (id, t) ∈ m.table ↔ m.get? id = some t := by
  rw [← h.find?_table, Table.find?_eq_some m.ascending_table]

theorem mem_notesFor (h : m.Ordered) {file : String} {cs : List Category} : (id, c) ∈ notesFor file m cs ↔
    c ∈ cs ∧ namesAgree id file = true ∧ ∃ x, ⟨id, x, c⟩ ∈ m.edges := by
  have hmem : (id, c) ∈ notesFor file m cs ↔
      ∃ t, ((id, t) ∈ m.table ∧ namesAgree id file = true) ∧ c ∈ cs ∧ t.get c ≠ [] := by
    simp [notesFor]
  rw [hmem]
  constructor
  · rintro ⟨t, ⟨htable, hagree⟩, hc, hne⟩
    obtain ⟨x, hx⟩ := List.exists_mem_of_ne_nil _ hne
    exact ⟨hc, hagree, x, mem_edges.mpr ⟨t, h.get?_eq_some.mp ((mem_table h).mp htable), hx⟩⟩
  · rintro ⟨hc, hagree, x, hedge⟩
    obtain ⟨t, hentry, hx⟩ := mem_edges.mp hedge
    exact ⟨t, ⟨(mem_table h).mpr (h.get?_eq_some.mpr hentry), hagree⟩, hc, List.ne_nil_of_mem hx⟩

theorem nodup_notesFor (m : DependencyMap) (file : String) {cs : List Category} (hcs : cs.Nodup) :
    (notesFor file m cs).Nodup := by
  have hkeys : (m.table.filter fun entry => namesAgree entry.1 file).Pairwise fun a b => a.1 ≠ b.1 :=
    (List.pairwise_map.mp m.ascending_table.nodup_keys).sublist List.filter_sublist
  refine List.nodup_flatMap.mpr ⟨fun entry _ => ?_, hkeys.imp fun hne note hnote hnote' => ?_⟩
  · exact (hcs.filter _).map fun c c' heq => congrArg Prod.snd heq
  · obtain ⟨_, -, rfl⟩ := List.mem_map.mp hnote
    obtain ⟨_, -, heq⟩ := List.mem_map.mp hnote'
    exact hne (congrArg Prod.fst heq).symm

/-- Some lines cover the dependencies of the resources whose names agree with that of a file: there is one line for
    each resource and each category of this kind in which the resource has targets. -/
def Covers (m : DependencyMap) (file : String) (kind : Category → Prop) (lines : List String) : Prop :=
  ∃ notes : List (String × Category), notes.Nodup ∧ lines = notes.map (noteLine m) ∧
    ∀ id c, (id, c) ∈ notes ↔ kind c ∧ namesAgree id file = true ∧ ∃ x, ⟨id, x, c⟩ ∈ m.edges

theorem covers_linesFor (h : m.Ordered) (file : String) {cs : List Category} (hcs : cs.Nodup)
    {lines : String × Targets → List String} (hlines : ∀ entry, lines entry = cs.filterMap (targetLine? entry.1 entry.2)) :
    Covers m file (· ∈ cs) (linesFor file m lines) :=
  ⟨notesFor file m cs, nodup_notesFor m file hcs, linesFor_eq h hlines, fun _ _ => mem_notesFor h⟩

theorem mem_spelled {c : Category} : c ∈ Category.all.filter (· ≠ .implicit) ↔ c ≠ .implicit := by cases c <;> decide

/-! ## Documents -/

/-- A file has the lines about the resources that agree with it above its text. -/
structure Annotated (m : DependencyMap) (f : SourceFile) (a : AnnotatedFile) : Prop where
  name : a.name = f.name
  crossReferences : Covers m f.name (· ≠ .implicit) a.crossReferences
  hints : Covers m f.name (· = .implicit) a.hints
  content : ∃ rest, a.content =
    rule ++ "\n# File: " ++ f.name ++ "\n" ++ rule ++ "\n" ++ linesOf (a.crossReferences ++ a.hints) ++ rest

theorem annotated_make (h : m.Ordered) (f : SourceFile) : Annotated m f (AnnotatedFile.make m f) where
  name := rfl
  crossReferences := by
    have hlines : ∀ entry, Notes.crossReferences entry =
        (Category.all.filter (· ≠ .implicit)).filterMap (targetLine? entry.1 entry.2) := fun _ => rfl
    have hcovers := covers_linesFor h f.name (by decide) hlines
    simp only [mem_spelled] at hcovers
    exact hcovers
  hints := by
    have hlines : ∀ entry, Notes.hints entry = [Category.implicit].filterMap (targetLine? entry.1 entry.2) := fun entry => by
      unfold Notes.hints
      cases hline : targetLine? entry.1 entry.2 .implicit <;> simp [hline]
    have hcovers := covers_linesFor h f.name (List.nodup_singleton _) hlines
    simp only [List.mem_singleton] at hcovers
    exact hcovers
  content := by
    have hparts : ∀ front a b c d e f g h : String, ∃ rest,
        front ++ a ++ b ++ c ++ d ++ e ++ f ++ g ++ h = front ++ rest :=
      fun front a b c d e f g h => ⟨a ++ b ++ c ++ d ++ e ++ f ++ g ++ h, by simp only [String.append_assoc]⟩
    exact hparts _ _ _ _ _ _ _ _ _

end Notes

namespace Draft
open Notes
variable {limit : Nat} {files : List SourceFile} {m : DependencyMap}

/-- A document accounts for the dependencies in a map. -/
structure Accounts (limit : Nat) (files : List SourceFile) (m : DependencyMap) (d : Draft) : Prop where
  /-- The overview lists the first dependencies in order. A last line counts the others. -/
  listed : under "## Key Dependencies" d.overview = (if m.edges.isEmpty then [noLine] else []) ++
    ((m.edges.take limit).map dependencyLine ++ if limit < m.totalCount then [moreLine (m.totalCount - limit)] else [])
  length : (m.edges.take limit).length = min limit m.totalCount
  /-- There is such a last line just if some dependencies are not listed, and it gives their number. -/
  more : ∀ n, moreLine n ∈ under "## Key Dependencies" d.overview ↔ limit < m.totalCount ∧ n = m.totalCount - limit
  /-- The summary has a line for each resource that depends on anything, in the order of first mention. -/
  summary : under "## Dependency Summary" d.dependencySummary =
    if m.totalCount = 0 then [noLine] else (m.ids.filter (m.combined · ≠ [])).map (summaryLine m)
  ids : m.ids.Nodup
  combined : ∀ id, ((m.combined id).Pairwise fun x y => encodeUtf8 x < encodeUtf8 y) ∧
    ∀ x, x ∈ m.combined id ↔ ∃ c, ⟨id, x, c⟩ ∈ m.edges
  targets : ∀ id c, (((m.targetsOf id).get c).Pairwise fun x y => encodeUtf8 x < encodeUtf8 y) ∧
    ∀ x, x ∈ (m.targetsOf id).get c ↔ ⟨id, x, c⟩ ∈ m.edges
  files : List.Forall₂ (Annotated m) files d.files

theorem pairwise_bytes {names : List String} (h : Ascending id names) :
    names.Pairwise fun x y => encodeUtf8 x < encodeUtf8 y :=
  h.imp compare_eq_lt.mp

theorem ascending_combined (m : DependencyMap) (id : String) : Ascending (fun x => x) (m.combined id) := by
  unfold DependencyMap.combined
  split
  · exact .nil
  · exact Ascending.upsertAll .nil

/-- The document about the dependencies that were mentioned accounts for all of them. -/
theorem make_accounts (ms : List Mention) (h : OneLine (ofMentions ms)) (limit : Nat) (files : List SourceFile)
    (r : Registry) (groups : List Group) :
    Accounts limit files (ofMentions ms) (Draft.make limit files r (ofMentions ms) groups) := by
  have hm : (ofMentions ms).Ordered := ordered_ofMentions ms
  have hoverview := under_overview h limit files.length r groups
  exact {
    listed := by
      rw [← length_edges]
      exact hoverview
    length := by rw [List.length_take, length_edges]
    more := fun n => by
      refine Iff.trans (Iff.of_eq ?_) moreLine_mem_keyLines
      exact congrArg (moreLine n ∈ ·) hoverview
    summary := under_dependencySummary hm h
    ids := hm.nodup
    combined := fun id => ⟨pairwise_bytes (ascending_combined _ id), fun x => mem_combined_iff hm⟩
    targets := fun id c => ⟨pairwise_bytes (hm.targetsOf id c), fun x => hm.mem_targetsOf⟩
    files := List.forall₂_map_right_iff.mpr (List.forall₂_same.mpr fun f _ => annotated_make hm f) }

/-- A server that is mentioned with its subnet, beside its own file and that of the subnet. -/
def serverFiles : List SourceFile := [⟨"server.tf", "# A server"⟩, ⟨"network.tf", ""⟩, ⟨"subnets.tf", ""⟩]

theorem make_accounts_serverFiles :
    let d := Draft.make 1 serverFiles .empty (ofMentions serverAndSubnet) []
    Accounts 1 serverFiles (ofMentions serverAndSubnet) d ∧
      under "## Key Dependencies" d.overview = ["- a.server -> a.subnet (resource)", "- ... and 2 more"] ∧
      under "## Dependency Summary" d.dependencySummary = ["- a.server depends on: a.subnet, var.zone"] ∧
      d.files.map (·.hints) = [["# Relationship hint: a.server may relate to a.subnet"], [], []] := by
  have honeLine : OneLine (ofMentions serverAndSubnet) := by
    unfold OneLine
    decide +kernel
  have haccounts := make_accounts serverAndSubnet honeLine 1 serverFiles .empty []
  refine ⟨haccounts, haccounts.listed.trans ?_, haccounts.summary.trans ?_, ?_⟩ <;> decide +kernel

end Draft

end ResourceGraph
