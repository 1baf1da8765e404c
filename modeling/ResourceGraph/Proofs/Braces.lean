import ResourceGraph.Block
import ResourceGraph.Proofs.Text.Bytes
import ResourceGraph.Proofs.Text.Cut

/-! # Matching braces

A block is told by counting braces. Each start of a block that stops short of the closing brace has more opening
braces than closing ones, and with the closing brace there are as many of either. So a block is the shortest start of
the text from its opening brace on that is balanced, and if no start is balanced it is all of that text. Only the text
of the block itself counts for this, so the block is found in that text again. -/

namespace ResourceGraph
open Text

namespace Block
variable {depth : Nat} {c : Char} {cs p behind : List Char} {b : Block}

/-! ## One character after the other -/

theorem count_cons (a : Char) (p : List Char) : (c :: p).count a = [c].count a + p.count a := by
  rw [← List.count_append, List.singleton_append]

/-- The number of open braces behind a character that does not close the block. -/
def depthBehind (depth : Nat) (c : Char) : Nat :=
  if c = '{' then depth + 1 else if c = '}' then depth - 1 else depth

theorem depthBehind_add (h : ¬(c = '}' ∧ depth = 0)) :
    depthBehind depth c + [c].count '}' = depth + [c].count '{' := by
  unfold depthBehind
  split
  · rename_i hopen
    simp [hopen]
  · rename_i hopen
    split
    · rename_i hclose
      have hdepth : depth ≠ 0 := fun hdepth => h ⟨hclose, hdepth⟩
      simp [hclose]
      omega
    · rename_i hclose
      simp [hopen, hclose]

theorem ofBody_close : ofBody 0 ('}' :: cs) = ⟨[], cs, true⟩ := rfl

theorem ofBody_cons (h : ¬(c = '}' ∧ depth = 0)) : ofBody depth (c :: cs) =
    ⟨c :: (ofBody (depthBehind depth c) cs).body, (ofBody (depthBehind depth c) cs).rest,
      (ofBody (depthBehind depth c) cs).terminated⟩ := by
  rw [ofBody, if_neg h]
  rfl

theorem tail_cons {body rest : List Char} {terminated : Bool} :
    tail ⟨c :: body, rest, terminated⟩ = c :: tail ⟨body, rest, terminated⟩ := by
  cases terminated <;> rfl

/-- `b` is the block that starts `cs`, within `depth` more open braces: nothing in front of its closing brace closes
    more than is open, and the closing brace closes what is still open then. Without one the block is all of the text. -/
structure Closes (depth : Nat) (cs : List Char) (b : Block) : Prop where
  text : cs = b.tail ++ b.rest
  inside : ∀ p, p <+: b.body → p.count '}' ≤ depth + p.count '{'
  closed : b.terminated = true → b.body.count '}' = depth + b.body.count '{'
  unclosed : b.terminated = false → b.rest = []

theorem closes_ofBody (depth : Nat) (cs : List Char) : Closes depth cs (ofBody depth cs) := by
  induction cs generalizing depth with
  | nil =>
    refine ⟨rfl, fun p hp => ?_, nofun, fun _ => rfl⟩
    rw [List.prefix_nil.mp hp]
    exact Nat.zero_le _
  | cons c cs ih =>
    by_cases h : c = '}' ∧ depth = 0
    · -- The brace that closes the block: in front of it stands the empty body.
      obtain ⟨rfl, rfl⟩ := h
      rw [ofBody_close]
      refine ⟨rfl, fun p hp => ?_, fun _ => rfl, nofun⟩
      rw [List.prefix_nil.mp hp]
      exact Nat.zero_le _
    · -- Each start of the body is this character and a start of the body behind it, where the depth counts it.
      have hstep := depthBehind_add h
      rw [ofBody_cons h]
      obtain ⟨htext, hinside, hclosed, hunclosed⟩ := ih (depthBehind depth c)
      refine ⟨?_, fun p hp => ?_, fun hterminated => ?_, hunclosed⟩
      · rw [tail_cons, List.cons_append]
        exact congrArg (c :: ·) htext
      · rcases List.prefix_cons_iff.mp hp with rfl | ⟨q, rfl, hq⟩
        · exact Nat.zero_le _
        · have hle := hinside q hq
          rw [count_cons '}' q, count_cons '{' q]
          omega
      · have heq := hclosed hterminated
        dsimp only
        rw [count_cons '}', count_cons '{' (ofBody _ cs).body]
        omega

/-- A block does not depend on what stands behind it. -/
theorem ofBody_tail (depth : Nat) (cs : List Char) :
    ofBody depth (ofBody depth cs).tail = ⟨(ofBody depth cs).body, [], (ofBody depth cs).terminated⟩ := by
  induction cs generalizing depth with
  | nil => rfl
  | cons c cs ih =>
    by_cases h : c = '}' ∧ depth = 0
    · obtain ⟨rfl, rfl⟩ := h
      rfl
    · have htail := ih (depthBehind depth c)
      rw [ofBody_cons h, tail_cons, ofBody_cons h]
      simp only [tail] at htail ⊢
      rw [htail]

/-! ## What stands behind a start of a block -/

/-- A text that closes no more than is open belongs to the block, and the block goes on behind it at the depth that is
    left. -/
theorem body_append (h : ∀ p, p <+: cs → p.count '}' ≤ depth + p.count '{') : (ofBody depth (cs ++ behind)).body =
    cs ++ (ofBody (depth + cs.count '{' - cs.count '}') behind).body := by
  induction cs generalizing depth with
  | nil => rfl
  | cons c cs ih =>
    have hfirst := h [c] ⟨cs, rfl⟩
    have hinside : ¬(c = '}' ∧ depth = 0) := by
      rintro ⟨rfl, rfl⟩
      exact absurd hfirst (by decide)
    have hstep := depthBehind_add hinside
    have hrest : ∀ p, p <+: cs → p.count '}' ≤ depthBehind depth c + p.count '{' := by
      intro p hp
      have hle := h (c :: p) (List.cons_prefix_cons.mpr ⟨rfl, hp⟩)
      rw [count_cons '}' p, count_cons '{' p] at hle
      omega
    have hdepth : depth + (c :: cs).count '{' - (c :: cs).count '}' =
        depthBehind depth c + cs.count '{' - cs.count '}' := by
      rw [count_cons '}' cs, count_cons '{' cs]
      omega
    rw [List.cons_append, ofBody_cons hinside, hdepth, ih hrest, List.cons_append]

/-- What stands behind a closed block is not part of it. -/
theorem body_append_of_terminated (h : (ofBody depth cs).terminated = true) :
    (ofBody depth (cs ++ behind)).body = (ofBody depth cs).body := by
  induction cs generalizing depth with
  | nil => cases h
  | cons c cs ih =>
    by_cases hclose : c = '}' ∧ depth = 0
    · obtain ⟨rfl, rfl⟩ := hclose
      rfl
    · rw [ofBody_cons hclose] at h
      rw [List.cons_append, ofBody_cons hclose, ofBody_cons hclose, ih h]

/-- A block that is not closed yet goes on at some depth. -/
theorem exists_body_append (h : (ofBody depth cs).terminated = false) :
    ∃ inner, ∀ behind, (ofBody depth (cs ++ behind)).body = cs ++ (ofBody inner behind).body := by
  obtain ⟨htext, hinside, -, hunclosed⟩ := closes_ofBody depth cs
  have hbody : (ofBody depth cs).body = cs := by
    rw [tail, if_neg (by simp [h]), hunclosed h, List.append_nil] at htext
    exact htext.symm
  rw [hbody] at hinside
  exact ⟨_, fun behind => body_append hinside⟩

end Block

/-! ## Balanced starts -/

/-- As many closing braces as opening ones. -/
def Balanced (cs : List Char) : Prop := cs.count '}' = cs.count '{'

/-- The shortest start of a text that is balanced, but for the empty one. -/
structure ShortestBalanced (cs p : List Char) : Prop where
  ne_nil : p ≠ []
  starts : p <+: cs
  balanced : Balanced p
  shortest : ∀ q, q ≠ [] → q <+: cs → Balanced q → p <+: q

/-- Each start of a text, but for the empty one, leaves a brace open. -/
def StaysOpen (cs : List Char) : Prop := ∀ q, q ≠ [] → q <+: cs → q.count '}' < q.count '{'

theorem StaysOpen.not_balanced {cs q : List Char} (h : StaysOpen cs) (hne : q ≠ []) (hq : q <+: cs) : ¬Balanced q :=
  Nat.ne_of_lt (h q hne hq)

namespace Block
variable {behind : List Char}

theorem text_rest : (ofBody 0 behind).text ++ (ofBody 0 behind).rest = '{' :: behind :=
  congrArg ('{' :: ·) (closes_ofBody 0 behind).text.symm

theorem body_prefix : (ofBody 0 behind).body <+: behind := by
  have htail : (ofBody 0 behind).body <+: (ofBody 0 behind).tail := by
    unfold tail
    split
    · exact List.prefix_append _ _
    · exact List.prefix_rfl
  exact htail.trans ⟨_, (closes_ofBody 0 behind).text.symm⟩

theorem staysOpen_body : StaysOpen ('{' :: (ofBody 0 behind).body) := by
  intro q hne hq
  rcases List.prefix_cons_iff.mp hq with rfl | ⟨p, rfl, hp⟩
  · exact absurd rfl hne
  · have hle := (closes_ofBody 0 behind).inside p hp
    have hopen : ('{' :: p).count '{' = p.count '{' + 1 := List.count_cons_self
    have hclose : ('{' :: p).count '}' = p.count '}' := List.count_cons_of_ne (by decide)
    omega

theorem text_of_terminated {b : Block} (h : b.terminated = true) : b.text = '{' :: b.body ++ ['}'] := by
  rw [text, tail, if_pos h]
  rfl

/-- A block that is closed is the shortest start of the text that is balanced. -/
theorem shortestBalanced_text (h : (ofBody 0 behind).terminated = true) :
    ShortestBalanced ('{' :: behind) (ofBody 0 behind).text := by
  have htext := text_of_terminated h
  have hstarts : (ofBody 0 behind).text <+: '{' :: behind := ⟨_, text_rest⟩
  refine ⟨List.cons_ne_nil _ _, hstarts, ?_, fun q hne hq hbalanced => ?_⟩
  · have hclosed := (closes_ofBody 0 behind).closed h
    have hopen : (ofBody 0 behind).text.count '{' = (ofBody 0 behind).body.count '{' + 1 := by simp [htext]
    have hclose : (ofBody 0 behind).text.count '}' = (ofBody 0 behind).body.count '}' + 1 := by simp [htext]
    rw [Balanced]
    omega
  · rcases List.prefix_or_prefix_of_prefix hstarts hq with hle | hle
    · exact hle
    · -- A shorter start would lie within the body.
      rw [htext] at hle ⊢
      rcases List.prefix_concat_iff.mp hle with rfl | hbody
      · exact List.prefix_rfl
      · exact absurd hbalanced (staysOpen_body.not_balanced hne hbody)

theorem staysOpen_of_not_terminated (h : (ofBody 0 behind).terminated = false) : StaysOpen ('{' :: behind) := by
  have htext : '{' :: behind = '{' :: (ofBody 0 behind).body := by
    rw [← text_rest, (closes_ofBody 0 behind).unclosed h, List.append_nil, text, tail, h]
    rfl
  rw [htext]
  exact staysOpen_body

/-- A block is closed exactly if some start of the text is balanced. -/
theorem terminated_iff : (ofBody 0 behind).terminated = true ↔ ∃ q, q ≠ [] ∧ q <+: '{' :: behind ∧ Balanced q := by
  constructor
  · intro h
    have hshortest := shortestBalanced_text h
    exact ⟨_, hshortest.ne_nil, hshortest.starts, hshortest.balanced⟩
  · rintro ⟨q, hne, hq, hbalanced⟩
    cases h : (ofBody 0 behind).terminated
    · exact absurd hbalanced ((staysOpen_of_not_terminated h).not_balanced hne hq)
    · rfl

theorem byteLength_text (b : Block) : byteLength b.text = byteLength b.body + if b.terminated then 2 else 1 := by
  have hopen : byteLength b.text = 1 + byteLength b.tail := rfl
  rw [hopen, tail]
  split
  · rw [byteLength_append]
    exact Nat.add_comm 1 _
  · exact Nat.add_comm 1 _

theorem body_end (b : Block) (first : Nat) :
    max (if b.terminated then first + byteLength b.text - 1 else first + byteLength b.text) (first + 1) =
      first + 1 + byteLength b.body := by
  rw [byteLength_text]
  split <;> omega

end Block

/-! ## In a text -/

section Extract
variable {cs behind skipped : List Char} {n : Nat} {s : Span}

theorem extractBlock?_eq_none :
    extractBlock? cs n = none ↔ byteLength cs < n ∨ ¬IsBoundary cs n ∨ ∃ rest, From cs n rest ∧ '{' ∉ rest := by
  unfold extractBlock?
  split
  · rename_i hdrop
    have hno : ¬IsBoundary cs n := fun ⟨rest, hrest⟩ => by
      rw [dropBytes?_eq_some.mpr hrest] at hdrop
      cases hdrop
    exact ⟨fun _ => Or.inr (Or.inl hno), fun _ => rfl⟩
  · rename_i rest hdrop
    have hfrom := dropBytes?_eq_some.mp hdrop
    have hsame : ∀ rest', From cs n rest' → rest' = rest := fun rest' h =>
      Option.some.inj ((dropBytes?_eq_some.mpr h).symm.trans hdrop)
    split
    · rename_i hsplit
      exact ⟨fun _ => Or.inr (Or.inr ⟨rest, hfrom, splitOnce_eq_none.mp hsplit⟩), fun _ => rfl⟩
    · rename_i front behind hsplit
      refine ⟨nofun, ?_⟩
      rintro (hlong | hno | ⟨rest', hrest', hnone⟩)
      · exact absurd hlong (Nat.not_lt.mpr (IsBoundary.le ⟨rest, hfrom⟩))
      · exact absurd ⟨rest, hfrom⟩ hno
      · rw [hsame rest' hrest', ← splitOnce_eq_none, hsplit] at hnone
        cases hnone

theorem extractBlock?_eq_some : extractBlock? cs n = some s ↔ ∃ skipped behind, From cs n (skipped ++ '{' :: behind) ∧
    '{' ∉ skipped ∧ s = ⟨n + byteLength skipped, n + byteLength skipped + byteLength (Block.ofBody 0 behind).text,
      Block.ofBody 0 behind⟩ := by
  constructor
  · intro h
    unfold extractBlock? at h
    split at h
    · cases h
    · rename_i rest hdrop
      split at h
      · cases h
      · rename_i skipped behind hsplit
        obtain ⟨rfl, hskipped⟩ := splitOnce_eq_some.mp hsplit
        exact ⟨skipped, behind, dropBytes?_eq_some.mp hdrop, hskipped, (Option.some.inj h).symm⟩
  · rintro ⟨skipped, behind, hfrom, hskipped, rfl⟩
    rw [extractBlock?, dropBytes?_eq_some.mpr hfrom]
    dsimp only
    rw [splitOnce_eq_some.mpr ⟨rfl, hskipped⟩]

/-- A block is found again in its own text. -/
theorem extractBlock?_text : extractBlock? (Block.ofBody 0 behind).text 0 =
    some ⟨0, byteLength (Block.ofBody 0 behind).text, { Block.ofBody 0 behind with rest := [] }⟩ := by
  refine extractBlock?_eq_some.mpr ⟨[], (Block.ofBody 0 behind).tail, ⟨[], rfl, rfl⟩, List.not_mem_nil, ?_⟩
  rw [Block.ofBody_tail, byteLength, Nat.add_zero, Nat.zero_add]
  rfl

/-- `s` is the block that the first opening brace from the offset `n` on opens, and `behind` is what stands behind that
    brace. -/
structure Matched (cs : List Char) (n : Nat) (behind : List Char) (s : Span) : Prop where
  first : ∃ skipped, From cs n (skipped ++ '{' :: behind) ∧ '{' ∉ skipped ∧ s.start = n + byteLength skipped
  terminated_iff : s.block.terminated = true ↔ ∃ q, q ≠ [] ∧ q <+: '{' :: behind ∧ Balanced q
  closed : s.block.terminated = true → ∃ p, ShortestBalanced ('{' :: behind) p ∧ s.stop = s.start + byteLength p
  unclosed : s.block.terminated = false → s.stop = byteLength cs ∧ StaysOpen ('{' :: behind)
  body : IsSlice cs (s.start + 1) (max (if s.block.terminated then s.stop - 1 else s.stop) (s.start + 1)) s.block.body
  text : IsSlice cs s.start s.stop s.block.text
  again : ∃ t, extractBlock? s.block.text 0 = some t ∧ s.start + t.start = s.start ∧ s.start + t.stop = s.stop ∧
    t.block.terminated = s.block.terminated ∧ t.block.body = s.block.body

theorem matched_ofBody (hfrom : From cs n (skipped ++ '{' :: behind)) (hskipped : '{' ∉ skipped) :
    Matched cs n behind ⟨n + byteLength skipped, n + byteLength skipped + byteLength (Block.ofBody 0 behind).text,
      Block.ofBody 0 behind⟩ := by
  have hstart : From cs (n + byteLength skipped) ('{' :: behind) := hfrom.skip
  refine ⟨⟨skipped, hfrom, hskipped, rfl⟩, Block.terminated_iff, fun hterminated => ?_, fun hopen => ?_, ?_, ?_, ?_⟩
  · exact ⟨_, Block.shortestBalanced_text hterminated, rfl⟩
  · have htext : (Block.ofBody 0 behind).text = '{' :: behind := by
      rw [← Block.text_rest, (Block.closes_ofBody 0 behind).unclosed hopen, List.append_nil]
    exact ⟨by rw [htext, hstart.length], Block.staysOpen_of_not_terminated hopen⟩
  · have hbehind : From cs (n + byteLength skipped + byteLength ['{']) behind := From.skip hstart
    rw [Block.body_end]
    exact hbehind.isSlice Block.body_prefix
  · exact hstart.isSlice ⟨_, Block.text_rest⟩
  · exact ⟨_, extractBlock?_text, rfl, rfl, rfl, rfl⟩

/-- Blocks are found by matching braces: in the text from the first opening brace at or behind an offset on, the block is
    the shortest start that is balanced, or the whole text if no start is balanced. -/
theorem extracted_matched (cs : List Char) (n : Nat) :
    (extractBlock? cs n = none ↔ byteLength cs < n ∨ ¬IsBoundary cs n ∨ ∃ rest, From cs n rest ∧ '{' ∉ rest) ∧
    ∀ s, extractBlock? cs n = some s → ∃ behind, Matched cs n behind s := by
  refine ⟨extractBlock?_eq_none, fun s h => ?_⟩
  obtain ⟨skipped, behind, hfrom, hskipped, rfl⟩ := extractBlock?_eq_some.mp h
  exact ⟨behind, matched_ofBody hfrom hskipped⟩

/-- A block behind a character of two bytes, with a block inside, and the same block cut off in front of its end. -/
theorem extracted_matched_nested :
    (∃ behind, Matched "é \x7ba\x7b\x7db\x7d c".toList 2 behind ⟨3, 9, ⟨"a\x7b\x7db".toList, " c".toList, true⟩⟩) ∧
    ∃ behind, Matched "é \x7ba\x7b\x7db".toList 2 behind ⟨3, 8, ⟨"a\x7b\x7db".toList, [], false⟩⟩ :=
  ⟨(extracted_matched _ 2).2 _ rfl, (extracted_matched _ 2).2 _ rfl⟩

end Extract
end ResourceGraph
