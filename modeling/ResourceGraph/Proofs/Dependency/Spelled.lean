import ResourceGraph.Dependency.Resolve
import ResourceGraph.Proofs.Dependency.Blocks
import ResourceGraph.Proofs.Dependency.Forms
import ResourceGraph.Proofs.Encounter
import ResourceGraph.Proofs.Text.Cut

/-! # References that a block spells out

A reference is spelled in one of a few forms (`Spells`). Where such a form stands at the start of a text or
behind a character that no reference has inside, the search for its form finds it: what an earlier match takes
are word characters, points and hyphens, and at most one bracket at its end. So a reference in an index, in an
interpolation or next to another one is not lost, and it is recorded if something is declared at its target. -/

namespace ResourceGraph
open Text

namespace Reference

/-! ## How references are spelled -/

/-- A segment with what stands behind it: as long as it can be, and not empty. -/
structure IsSegment (name rest : List Char) : Prop where
  ne_nil : name ≠ []
  chars : ∀ c ∈ name, isSegmentChar c = true
  stops : ∀ c, rest.head? = some c → isSegmentChar c = false

/-- The type of a resource: a letter, letters and digits, an underscore, and at least one more letter, digit or
underscore. -/
inductive IsType : List Char → Prop where
  | make {first : Char} {stem tail : List Char} : first.isAlpha = true → (∀ c ∈ stem, c.isAlphanum = true) →
      tail ≠ [] → (∀ c ∈ tail, (c.isAlphanum || c = '_') = true) → IsType (first :: (stem ++ '_' :: tail))

/-- The name of a resource: a letter or an underscore, and further characters of a segment. -/
inductive IsName : List Char → Prop where
  | make {first : Char} {tail : List Char} : (first.isAlpha || first = '_') = true →
      (∀ c ∈ tail, isSegmentChar c = true) → IsName (first :: tail)

/-- A text starts with a reference. -/
inductive Spells : List Char → Reference → Prop where
  | resource {type name rest : List Char} {stop : Char} : IsType type → IsName name → stop = '.' ∨ stop = '[' →
      Spells (type ++ '.' :: (name ++ stop :: rest))
        ⟨String.ofList type ++ "." ++ String.ofList name, .resource⟩
  | data {type name rest : List Char} : IsSegment type ('.' :: (name ++ rest)) → IsSegment name rest →
      Spells ("data".toList ++ '.' :: (type ++ '.' :: (name ++ rest)))
        ⟨"data." ++ String.ofList type ++ "." ++ String.ofList name, .resource⟩
  | module {name output rest : List Char} : IsSegment name ('.' :: (output ++ rest)) → IsSegment output rest →
      Spells ("module".toList ++ '.' :: (name ++ '.' :: (output ++ rest)))
        ⟨"module." ++ String.ofList name, .module⟩
  | named {word : String} {category : Category} {name rest : List Char} : (word, category) ∈ namedWords →
      IsSegment name rest →
      Spells (word.toList ++ '.' :: (name ++ rest)) ⟨word ++ "." ++ String.ofList name, category⟩

/-- A reference stands in a text, at its start or behind a character that no reference has inside. -/
def SpelledIn (text : List Char) (ref : Reference) : Prop :=
  ∃ front rest, text = front ++ rest ∧ (∀ c, front.getLast? = some c → isInner c = false) ∧ Spells rest ref

/-! ## Every spelling is read -/

section Reading
variable {cs name rest type word : List Char} {ref : Reference}

theorem IsSegment.read (h : IsSegment name rest) :
    pointSegment? ('.' :: (name ++ rest)) = some (name, rest) := by
  have htake : (name ++ rest).takeWhile isSegmentChar = name := takeWhile_append_of_stop h.chars h.stops
  have hdrop : (name ++ rest).dropWhile isSegmentChar = rest := dropWhile_append_of_stop h.chars h.stops
  simp only [pointSegment?, segment?, htake, hdrop]
  split
  · exact absurd rfl h.ne_nil
  · rfl

theorem IsType.chars (h : IsType type) : ∀ c ∈ type, (c.isAlphanum || c = '_') = true := by
  obtain ⟨hfirst, hstem, -, htail⟩ := h
  intro c hc
  rcases List.mem_cons.mp hc with rfl | hc
  · simp [Char.isAlphanum, hfirst]
  · rcases List.mem_append.mp hc with hc | hc
    · simp [hstem c hc]
    · rcases List.mem_cons.mp hc with rfl | hc
      · simp
      · exact htail c hc

theorem IsType.read (h : IsType type) :
    resourceType? (type ++ '.' :: rest) = some (type, '.' :: rest) := by
  have htake : (type ++ '.' :: rest).takeWhile (fun c => c.isAlphanum || c = '_') = type :=
    takeWhile_append_of_stop h.chars (by simp)
  obtain @⟨first, stem, tail, hfirst, hstem, htail, -⟩ := h
  have hdrop : (first :: (stem ++ '_' :: tail)).dropWhile Char.isAlphanum = '_' :: tail := by
    have hstart : first.isAlphanum = true := by simp [Char.isAlphanum, hfirst]
    rw [List.dropWhile_cons_of_pos hstart, List.dropWhile_append_of_pos hstem, List.dropWhile_cons_of_neg (by decide)]
  obtain ⟨next, more, rfl⟩ := List.exists_cons_of_ne_nil htail
  simp only [List.cons_append] at htake
  simp only [resourceType?, List.cons_append, hfirst, if_true, htake, hdrop]
  simp

theorem Spells.ne_nil (h : Spells cs ref) : cs ≠ [] := by
  cases h <;> simp

theorem IsName.isSegment {stop : Char} (h : IsName name) (hstop : stop = '.' ∨ stop = '[') :
    IsSegment name (stop :: rest) := by
  obtain ⟨hfirst, htail⟩ := h
  refine ⟨List.cons_ne_nil _ _, fun c hc => ?_, fun c hc => ?_⟩
  · rcases List.mem_cons.mp hc with rfl | hc
    · rcases Bool.or_eq_true_iff.mp hfirst with hfirst | hfirst
      · simp [isSegmentChar, Char.isAlphanum, hfirst]
      · simp [isSegmentChar, hfirst]
    · exact htail c hc
  · cases hc
    rcases hstop with rfl | rfl <;> decide

/-- A spelling is read by one of the forms. -/
theorem Spells.read (h : Spells cs ref) : ∃ path? ∈ forms, ∃ rest, path? cs = some (ref, rest) := by
  cases h with
  | @resource type name rest stop htype hname hstop =>
    refine ⟨resourcePath?, by simp [forms], rest, ?_⟩
    have hsegment : pointSegment? ('.' :: (name ++ stop :: rest)) = some (name, stop :: rest) :=
      (hname.isSegment hstop).read
    obtain ⟨hfirst, -⟩ := hname
    simp only [resourcePath?, htype.read, hsegment, Option.bind_eq_bind, Option.bind_some, List.head?_cons, hfirst]
    rcases hstop with rfl | rfl <;> rfl
  | @data type name rest htype hname =>
    refine ⟨dataPath?, by simp [forms], rest, ?_⟩
    simp only [dataPath?, dropWord?_append, htype.read, hname.read, Option.bind_eq_bind, Option.bind_some]
    rfl
  | @module name output rest hname houtput =>
    refine ⟨modulePath?, by simp [forms], rest, ?_⟩
    simp only [modulePath?, dropWord?_append, hname.read, houtput.read, Option.bind_eq_bind, Option.bind_some]
    rfl
  | @named word category name rest hword hname =>
    have hread : namedPath? word category (word.toList ++ '.' :: (name ++ rest)) =
        some (⟨word ++ "." ++ String.ofList name, category⟩, rest) := by
      simp only [namedPath?, dropWord?_append, hname.read, Option.bind_eq_bind, Option.bind_some]
      rfl
    simp only [namedWords, List.mem_cons, List.not_mem_nil, or_false, Prod.mk.injEq] at hword
    rcases hword with ⟨rfl, rfl⟩ | ⟨rfl, rfl⟩ | ⟨rfl, rfl⟩
    · refine ⟨variablePath?, by simp [forms], rest, ?_⟩
      rw [variablePath?, hread]
      rfl
    · refine ⟨variablePath?, by simp [forms], rest, ?_⟩
      have hother : namedPath? "var" .variable ("local".toList ++ '.' :: (name ++ rest)) = none := rfl
      rw [variablePath?, hother, hread]
      rfl
    · exact ⟨outputPath?, by simp [forms], rest, hread⟩

/-- No other match takes a part of a reference that is spelled where one can start, so it is found. -/
theorem SpelledIn.mem_findIn (h : SpelledIn cs ref) : ref ∈ findIn cs := by
  obtain ⟨front, rest, rfl, hopens, hspells⟩ := h
  obtain ⟨path?, hpath, behind, hread⟩ := hspells.read
  have hstarts : startsWord front.getLast? = true := by
    unfold startsWord
    split
    · rfl
    · rename_i c hlast
      have hinner := hopens c hlast
      simp only [isInner, Bool.or_eq_false_iff] at hinner
      simp [hinner]
  have hmatch : pattern path? front.getLast? rest = some (ref, rest.length - behind.length) := by
    rw [pattern, if_pos hstarts, hread]
    rfl
  obtain ⟨m, hm, hvalue⟩ := exists_mem_findAll (within_pattern hpath) hspells.ne_nil hopens hmatch
  exact List.mem_flatMap.mpr ⟨path?, hpath, List.mem_map.mpr ⟨m, hm, hvalue⟩⟩

end Reading

end Reference

/-! ## Every spelling is recorded -/

namespace Resolver
open Reference DependencyMap
variable {r : Resolver} {m : DependencyMap} {e : Dependency} {id source : String} {ref : Reference}
  {block : ResourceBlock} {files : List SourceFile}

theorem mem_edges_addBlock (h : e ∈ m.edges) : e ∈ (r.addBlock m block).edges := mem_edges_addBlock_iff.mpr (Or.inl h)

/-- A reference to a target is recorded. -/
theorem addBlock_mem_edges (hid : r.isResource block.id = true) (href : ref ∈ findIn block.text)
    (hne : ref.target ≠ block.id) (htarget : r.isTarget ref.target = true) :
    ⟨block.id, ref.target, ref.category⟩ ∈ (r.addBlock m block).edges :=
  mem_edges_addBlock_iff.mpr (Or.inr (.spelled hid href ⟨hne, htarget, rfl⟩))

/-- What a registry gives for a reference to count: a resource, or a declaration of another kind that can be
referred to. -/
def Counts (registry : Registry) (id : String) : Prop :=
  id ∈ registry.resourceIds ∨
    ∃ d, registry.get? id = some d ∧ d.kind ∈ [Kind.data, .module, .variable, .local, .output]

theorem isResource_of_mem (h : r.registry.Built) (hid : id ∈ r.registry.resourceIds) : r.isResource id = true :=
  (isResource_iff h).mpr hid

theorem isTarget_of_counts (h : r.registry.Built) (hcounts : Counts r.registry id) : r.isTarget id = true := by
  rw [isTarget_iff_exists]
  rcases hcounts with hid | ⟨d, hget, hkind⟩
  · exact Or.inl (isResource_of_mem h hid)
  · obtain ⟨entry, hfind, rfl⟩ := Option.map_eq_some_iff.mp hget
    obtain ⟨hmem, -⟩ := Sorted.find?_eq_some_mem hfind
    have hdeclared : entry.2 ∈ r.registry.declarations := List.mem_map.mpr ⟨entry, hmem, rfl⟩
    exact Or.inr ⟨entry.2, hdeclared, hkind, h.keyed.id_of_get? hget⟩

/-- Whatever a block of a resource spells out is resolved if it is declared and not the resource itself. -/
theorem resolve_spelled {registry : Registry} (h : registry.Built) (strict : Bool) {f : SourceFile} (hf : f ∈ files)
    (hblock : block ∈ resourceBlocks f.chars) (hid : block.id ∈ registry.resourceIds)
    (href : SpelledIn block.text ref) (hne : ref.target ≠ block.id) (hcounts : Counts registry ref.target) :
    ⟨block.id, ref.target, ref.category⟩ ∈ (resolve ⟨registry, strict⟩ files).edges := by
  have hlisted : block ∈ files.flatMap fun f => resourceBlocks f.chars := List.mem_flatMap.mpr ⟨f, hf, hblock⟩
  refine mem_edges_foldl_of_mem (fun _ _ => mem_edges_addBlock) (fun m => ?_) hlisted
  exact addBlock_mem_edges (isResource_of_mem h hid) href.mem_findIn hne (isTarget_of_counts h hcounts)

/-- An address and a network. -/
def addressAndNetwork : Registry :=
  (Registry.empty.insert (.make .resource "aws_eip" "a" "main.tf")).insert (.make .resource "aws_vpc" "n" "main.tf")

/-- A network in the index of a subnet that nothing declares. -/
def indexFile : SourceFile :=
  ⟨"main.tf", "resource \"aws_eip\" \"a\" \x7b\n  b = aws_subnet.s[aws_vpc.n.id]\n\x7d\n"⟩

/-- The block of the address. -/
def indexBlock : ResourceBlock := ⟨"aws_eip.a", indexFile.chars.dropLast, true⟩

theorem resolve_spelled_index : indexBlock ∈ resourceBlocks indexFile.chars ∧
    ⟨"aws_eip.a", "aws_vpc.n", .resource⟩ ∈ (resolve ⟨addressAndNetwork, true⟩ [indexFile]).edges := by
  have built : addressAndNetwork.Built := .insert (.insert .empty _) _
  have hblock : indexBlock ∈ resourceBlocks indexFile.chars := by
    have hblocks : resourceBlocks indexFile.chars = [indexBlock] := by rfl
    rw [hblocks]
    exact List.mem_singleton_self _
  have hspelled : SpelledIn indexBlock.text ⟨"aws_vpc.n", .resource⟩ := by
    have htype : IsType "aws_vpc".toList := @IsType.make 'a' ['w', 's'] ['v', 'p', 'c'] rfl
      (List.all_eq_true.mp rfl) (List.cons_ne_nil _ _) (List.all_eq_true.mp rfl)
    have hname : IsName "n".toList := @IsName.make 'n' [] rfl (List.forall_mem_nil _)
    refine ⟨"resource \"aws_eip\" \"a\" \x7b\n  b = aws_subnet.s[".toList, "aws_vpc.n.id]\n\x7d".toList, ?_, ?_, ?_⟩
    · decide +kernel
    · intro c hc
      obtain rfl : '[' = c := Option.some.inj hc
      decide
    · exact Spells.resource htype hname (Or.inl rfl)
  exact ⟨hblock, resolve_spelled built true List.mem_cons_self hblock (by decide) hspelled (by decide)
    (Or.inl (by decide))⟩

end Resolver

end ResourceGraph
