import ResourceGraph.Proofs.Braces
import ResourceGraph.Proofs.Context
import ResourceGraph.Proofs.Headers

/-! # Blocks within blocks

Two blocks of a text never overlap in part. A block that is closed opens no more braces than it closes behind any place
inside, so a block that starts inside is closed there too; a block that is not closed runs to the end of the text. The
blocks of resources are those behind their headers, one for each header, in the order of the text. -/

namespace ResourceGraph
open Text

namespace Block
variable {mid inner behind : List Char}

theorem tail_prefix : (ofBody 0 behind).tail <+: behind :=
  ⟨_, (closes_ofBody 0 behind).text.symm⟩

/-- A brace stands behind a block, or inside of it. -/
theorem outside_or_inside (mid behind : List Char) : (ofBody 0 (mid ++ '{' :: behind)).tail <+: mid ∨
    ∃ inner, (ofBody 0 (mid ++ '{' :: behind)).body = mid ++ '{' :: inner := by
  have hbrace : mid ++ ['{'] <+: mid ++ '{' :: behind := ⟨behind, by simp⟩
  have hcompare : (ofBody 0 (mid ++ '{' :: behind)).tail <+: mid ∨
      mid ++ ['{'] <+: (ofBody 0 (mid ++ '{' :: behind)).tail := by
    rcases List.prefix_or_prefix_of_prefix tail_prefix hbrace with hle | hle
    · rcases List.prefix_concat_iff.mp hle with heq | hle
      · exact Or.inr (heq ▸ List.prefix_rfl)
      · exact Or.inl hle
    · exact Or.inr hle
  rcases hcompare with hle | hle
  · exact Or.inl hle
  · refine Or.inr ?_
    cases h : (ofBody 0 (mid ++ '{' :: behind)).terminated
    · obtain ⟨inner, hinner⟩ := hle
      rw [tail, if_neg (by simp [h])] at hinner
      exact ⟨inner, by rw [← hinner]; simp⟩
    · rw [tail, if_pos h] at hle
      rcases List.prefix_concat_iff.mp hle with heq | ⟨inner, hinner⟩
      · simp at heq
      · exact ⟨inner, by rw [← hinner]; simp⟩

/-- A block that starts inside a closed one is closed there. -/
theorem closed_inside (hbody : (ofBody 0 (mid ++ '{' :: behind)).body = mid ++ '{' :: inner)
    (h : (ofBody 0 (mid ++ '{' :: behind)).terminated = true) :
    (ofBody 0 behind).terminated = true ∧ (ofBody 0 behind).text <+: '{' :: inner := by
  have hinner : '{' :: inner <+: '{' :: behind := by
    have hbefore : (ofBody 0 (mid ++ '{' :: behind)).body <+: mid ++ '{' :: behind := body_prefix
    rw [hbody] at hbefore
    exact (List.prefix_append_right_inj mid).mp hbefore
  -- In front of the inner block the outer one opens at least what it closes, and on the whole it closes all it opens.
  have hcount : ('{' :: inner).count '{' ≤ ('{' :: inner).count '}' := by
    have hcloses := closes_ofBody 0 (mid ++ '{' :: behind)
    have hmid := hcloses.inside mid (hbody ▸ List.prefix_append _ _)
    have hclosed := hcloses.closed h
    rw [hbody, List.count_append, List.count_append] at hclosed
    omega
  have hterminated : (ofBody 0 behind).terminated = true := by
    cases hopen : (ofBody 0 behind).terminated
    · have hstays := staysOpen_of_not_terminated hopen _ (List.cons_ne_nil _ _) hinner
      omega
    · rfl
  refine ⟨hterminated, ?_⟩
  rcases List.prefix_or_prefix_of_prefix ⟨_, text_rest⟩ hinner with hle | hle
  · exact hle
  · -- Otherwise the inside of the outer block would lie in the body of the inner one, and leave a brace open.
    rw [text_of_terminated hterminated] at hle ⊢
    rcases List.prefix_concat_iff.mp hle with heq | hle
    · exact heq ▸ List.prefix_rfl
    · have hstays := staysOpen_body _ (List.cons_ne_nil _ _) hle
      omega

end Block

/-! ## Two blocks of a text -/

/-- The second of two blocks starts behind the start of the first. It stands behind the first block or inside of it, and
    inside a closed block it is closed itself and ends earlier. -/
structure Nested (first second : Span) : Prop where
  later : first.start < second.start
  apart : first.stop ≤ second.start ∨ second.stop ≤ first.stop
  closed : first.block.terminated = true → second.start < first.stop →
    second.block.terminated = true ∧ second.stop < first.stop

/-- The block behind a brace that stands behind `front`. -/
def Span.opened (front behind : List Char) : Span :=
  ⟨byteLength front, byteLength front + byteLength (Block.ofBody 0 behind).text, Block.ofBody 0 behind⟩

section Spans
variable {cs front mid inner behind front' behind' : List Char}

theorem stop_opened_le (h : cs = front ++ '{' :: behind) : (Span.opened front behind).stop ≤ byteLength cs := by
  have htext : (Block.ofBody 0 behind).text <+: '{' :: behind := ⟨_, Block.text_rest⟩
  rw [h, byteLength_append]
  exact Nat.add_le_add_left (byteLength_mono htext) _

theorem stop_opened_of_not_terminated (h : cs = front ++ '{' :: behind)
    (hopen : (Block.ofBody 0 behind).terminated = false) : (Span.opened front behind).stop = byteLength cs := by
  have htext : (Block.ofBody 0 behind).text = '{' :: behind := by
    rw [← Block.text_rest, (Block.closes_ofBody 0 behind).unclosed hopen, List.append_nil]
  rw [h, byteLength_append, ← htext]
  rfl

theorem start_opened_cons :
    (Span.opened (front ++ '{' :: mid) behind).start = byteLength front + (1 + byteLength mid) := byteLength_append

theorem stop_opened_cons : (Span.opened (front ++ '{' :: mid) behind).stop =
    byteLength front + (1 + byteLength mid) + byteLength (Block.ofBody 0 behind).text :=
  congrArg (· + _) byteLength_append

theorem stop_opened : (Span.opened front behind).stop =
    byteLength front + (1 + byteLength (Block.ofBody 0 behind).tail) := rfl

/-- A block that starts inside a closed one ends earlier. -/
theorem stop_opened_lt (hbody : (Block.ofBody 0 (mid ++ '{' :: behind)).body = mid ++ '{' :: inner)
    (h : (Block.ofBody 0 (mid ++ '{' :: behind)).terminated = true) :
    (Span.opened (front ++ '{' :: mid) behind).stop < (Span.opened front (mid ++ '{' :: behind)).stop := by
  obtain ⟨-, htext⟩ := Block.closed_inside hbody h
  have hinner := byteLength_mono htext
  have htail : byteLength (Block.ofBody 0 (mid ++ '{' :: behind)).tail =
      byteLength mid + byteLength ('{' :: inner) + 1 := by
    rw [Block.tail, if_pos h, hbody, byteLength_append, byteLength_append]
    rfl
  rw [stop_opened_cons, stop_opened]
  omega

/-- Of two braces of a text the second stands behind the first, with some text between them. -/
theorem exists_between (h : cs = front ++ '{' :: behind) (h' : cs = front' ++ '{' :: behind')
    (hlt : front.length < front'.length) :
    ∃ mid, front' = front ++ '{' :: mid ∧ behind = mid ++ '{' :: behind' := by
  have hfront : front <+: front' := List.prefix_of_prefix_length_le ⟨_, h.symm⟩ ⟨_, h'.symm⟩ (Nat.le_of_lt hlt)
  obtain ⟨between, rfl⟩ := hfront
  have hbetween : '{' :: behind = between ++ '{' :: behind' := by
    rw [h, List.append_assoc] at h'
    exact List.append_cancel_left h'
  cases between with
  | nil => simp at hlt
  | cons c mid =>
    obtain ⟨rfl, hmid⟩ := List.cons.inj hbetween
    exact ⟨mid, rfl, hmid⟩

/-- Any two blocks of a text are nested or apart. -/
theorem nested_opened (h : cs = front ++ '{' :: behind) (h' : cs = front' ++ '{' :: behind')
    (hlt : front.length < front'.length) : Nested (Span.opened front behind) (Span.opened front' behind') := by
  obtain ⟨mid, rfl, rfl⟩ := exists_between h h' hlt
  have hlater : (Span.opened front (mid ++ '{' :: behind')).start <
      (Span.opened (front ++ '{' :: mid) behind').start := by
    rw [start_opened_cons]
    exact Nat.lt_add_of_pos_right (by omega)
  rcases Block.outside_or_inside mid behind' with hle | ⟨inner, hbody⟩
  · have hapart : (Span.opened front (mid ++ '{' :: behind')).stop ≤
        (Span.opened (front ++ '{' :: mid) behind').start := by
      have htail := byteLength_mono hle
      rw [start_opened_cons, stop_opened]
      omega
    exact ⟨hlater, Or.inl hapart, fun _ hinside => absurd hapart (Nat.not_le.mpr hinside)⟩
  · cases hterminated : (Block.ofBody 0 (mid ++ '{' :: behind')).terminated
    · refine ⟨hlater, Or.inr ?_, fun hclosed => ?_⟩
      · rw [stop_opened_of_not_terminated h hterminated]
        exact stop_opened_le h'
      · exact absurd (hterminated.symm.trans hclosed) Bool.false_ne_true
    · obtain ⟨hclosed, -⟩ := Block.closed_inside hbody hterminated
      have hends : (Span.opened (front ++ '{' :: mid) behind').stop < (Span.opened front _).stop :=
        stop_opened_lt hbody hterminated
      exact ⟨hlater, Or.inr (Nat.le_of_lt hends), fun _ _ => ⟨hclosed, hends⟩⟩

end Spans

/-! ## The blocks of resources -/

namespace Header
variable {n : Nat} {keyword : String} {cs front header behind : List Char} {m : Match (List String)}

/-- The block that the header of a match opens, by its place in the text. -/
def span (cs : List Char) (m : Match (List String)) : Span :=
  let first := byteLength (cs.take (m.start + m.length - 1))
  ⟨first, first + byteLength (block m).text, block m⟩

theorem Stands.text_eq (h : Stands cs m front header behind) : cs = (front ++ header) ++ '{' :: behind := by
  rw [h.text, h.tail, List.append_assoc]

theorem Stands.take_start (h : Stands cs m front header behind) : cs.take m.start = front := by
  rw [h.text, h.start, List.take_left]

theorem Stands.take_brace (h : Stands cs m front header behind) :
    cs.take (m.start + m.length - 1) = front ++ header := by
  rw [h.text_eq, h.start, h.length]
  exact List.take_left' (by simp)

theorem Stands.take_stop (h : Stands cs m front header behind) :
    cs.take (m.start + m.length) = front ++ header ++ ['{'] := by
  rw [h.text_eq, List.append_cons, h.start, h.length]
  exact List.take_left' (by simp)

theorem Stands.span_eq (h : Stands cs m front header behind) : span cs m = Span.opened (front ++ header) behind := by
  rw [span, h.take_brace, h.block_eq]
  rfl

/-- Blocks behind two headers, of which the second stands behind the first, are nested or apart. -/
theorem nested_span {m' : Match (List String)} (hm : m ∈ findAll (pattern keyword n) cs)
    (hm' : m' ∈ findAll (pattern keyword n) cs) (hlt : m.start + m.length ≤ m'.start) :
    Nested (span cs m) (span cs m') := by
  obtain ⟨-, front, header, behind, h⟩ := exists_stands hm
  obtain ⟨-, front', header', behind', h'⟩ := exists_stands hm'
  rw [h.span_eq, h'.span_eq]
  refine nested_opened h.text_eq h'.text_eq ?_
  have hstart := h.start
  have hlength := h.length
  have hstart' := h'.start
  rw [List.length_append, List.length_append]
  omega

end Header

/-- A header opens the block of a resource: the block that the brace at the end of the header starts. The text of the
    resource runs from the start of the header to the end of the block. -/
structure Heads (cs : List Char) (m : Match (List String)) (b : ResourceBlock) : Prop where
  id : ∃ type name, m.value = [type, name] ∧ b.id = type ++ "." ++ name
  found : extractBlock? cs (byteLength (cs.take (m.start + m.length)) - 1) = some (Header.span cs m)
  brace : byteLength (cs.take (m.start + m.length)) = (Header.span cs m).start + 1
  text : IsSlice cs (byteLength (cs.take m.start)) (Header.span cs m).stop b.text
  terminated : b.terminated = (Header.span cs m).block.terminated

theorem exists_heads {cs : List Char} {m : Match (List String)} (hm : m ∈ findAll resourceHeader cs) :
    ∃ b, ResourceBlock.ofMatch? m = some b ∧ Heads cs m b := by
  obtain ⟨hlabels, front, header, behind, h⟩ := Header.exists_stands hm
  obtain ⟨type, name, hvalue⟩ := List.length_eq_two.mp hlabels
  have htake : m.tail.take m.length ++ (Header.block m).tail = header ++ (Block.ofBody 0 behind).text := by
    have hheader : m.tail.take m.length = header ++ ['{'] := by
      rw [h.tail, h.length, List.append_cons]
      exact List.take_left' (by simp)
    rw [hheader, h.block_eq, List.append_assoc]
    rfl
  refine ⟨⟨type ++ "." ++ name, m.tail.take m.length ++ (Header.block m).tail, (Header.block m).terminated⟩, ?_,
    ⟨type, name, hvalue, rfl⟩, ?_, ?_, ?_, rfl⟩
  · simp only [ResourceBlock.ofMatch?, hvalue]
  · have hbrace : From cs (byteLength (front ++ header)) ([] ++ '{' :: behind) := ⟨_, h.text_eq.symm ▸ rfl, rfl⟩
    rw [h.take_stop, h.span_eq, byteLength_append]
    exact extractBlock?_eq_some.mpr ⟨[], behind, hbrace, List.not_mem_nil, rfl⟩
  · rw [h.take_stop, h.span_eq, byteLength_append]
    rfl
  · have hfrom : From cs (byteLength front) (header ++ '{' :: behind) := ⟨front, h.tail ▸ h.text, rfl⟩
    have hpart : header ++ (Block.ofBody 0 behind).text <+: header ++ '{' :: behind :=
      (List.prefix_append_right_inj header).mpr ⟨_, Block.text_rest⟩
    have hstop : (Header.span cs m).stop = byteLength front + byteLength (header ++ (Block.ofBody 0 behind).text) := by
      rw [h.span_eq, byteLength_append, ← Nat.add_assoc, ← byteLength_append]
      rfl
    rw [htake, h.take_start, hstop]
    exact hfrom.isSlice hpart

/-- A function that gives something for each element of a list gives it in the order of the list. -/
theorem forall₂_filterMap {α β : Type} {R : α → β → Prop} {f : α → Option β} {l : List α}
    (h : ∀ a ∈ l, ∃ b, f a = some b ∧ R a b) : List.Forall₂ R l (l.filterMap f) := by
  induction l with
  | nil => exact .nil
  | cons a l ih =>
    obtain ⟨b, hb, hR⟩ := h a List.mem_cons_self
    rw [List.filterMap_cons_some hb]
    exact .cons hR (ih fun a ha => h a (List.mem_cons_of_mem _ ha))

/-- The blocks of the resources of a text are those behind its headers, in their order, and they are the resources that
    its scan declares. Any two of them are nested or apart. -/
theorem resourceBlocks_nested (f : SourceFile) :
    List.Forall₂ (Heads f.chars) (findAll resourceHeader f.chars) (resourceBlocks f.chars) ∧
    (f.isBinary = false → ∃ ds summary, f.scan = .ok (ds, summary) ∧
      resourceAddresses ds = (resourceBlocks f.chars).map (·.id)) ∧
    (findAll resourceHeader f.chars).Pairwise fun m n => Nested (Header.span f.chars m) (Header.span f.chars n) := by
  refine ⟨forall₂_filterMap fun m hm => exists_heads hm, fun hbinary => ?_, ?_⟩
  · refine ⟨f.declarations, f.summary, ?_, SourceFile.resourceAddresses_declarations⟩
    rw [SourceFile.scan, if_neg (by simp [hbinary])]
  · exact findAll_apart.imp_of_mem fun hm hn hlt => Header.nested_span hm hn hlt

/-- A subnet declared inside a network that is closed, and an instance that is not. -/
def subnetInside : SourceFile where
  name := "main.tf"
  content :=
    "resource \"net\" \"a\" \x7b\n  x = \x7b\x7d\n  resource \"sub\" \"b\" \x7b\x7d\n\x7d\n" ++
    "resource \"vm\" \"c\" \x7b\n"

theorem resourceBlocks_nested_subnetInside : subnetInside.isBinary = false ∧
    (∃ ds summary, subnetInside.scan = .ok (ds, summary) ∧ resourceAddresses ds = ["net.a", "sub.b", "vm.c"]) ∧
    ∃ outer inner last : Span, Nested outer inner ∧ Nested inner last ∧
      [outer, inner, last].map (fun s => (s.start, s.stop)) = [(19, 55), (51, 53), (74, 76)] := by
  have hbinary : subnetInside.isBinary = false := by decide +kernel
  have hids : (resourceBlocks subnetInside.chars).map (·.id) = ["net.a", "sub.b", "vm.c"] := by decide +kernel
  have hplaces : (findAll resourceHeader subnetInside.chars).map (fun m =>
      ((Header.span subnetInside.chars m).start, (Header.span subnetInside.chars m).stop)) =
        [(19, 55), (51, 53), (74, 76)] := by decide +kernel
  obtain ⟨-, hscan, hnested⟩ := resourceBlocks_nested subnetInside
  obtain ⟨ds, summary, hok, haddresses⟩ := hscan hbinary
  have hlength : (findAll resourceHeader subnetInside.chars).length = 3 := by decide +kernel
  obtain ⟨a, b, c, hmatches⟩ := List.length_eq_three.mp hlength
  rw [hmatches] at hplaces hnested
  simp only [List.pairwise_cons, List.mem_cons, forall_eq_or_imp] at hnested
  exact ⟨hbinary, ⟨ds, summary, hok, haddresses.trans hids⟩, _, _, _, hnested.1.1, hnested.2.1.1, hplaces⟩

end ResourceGraph
