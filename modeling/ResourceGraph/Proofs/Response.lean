import ResourceGraph.Proofs.Import
import ResourceGraph.Proofs.Json.Reader

/-! # What an answer holds around its object

What counts of an answer runs from its first opening brace to its last closing one. So the text around an object may
be anything that has no opening brace in front of it and no closing one behind it; and an answer that has no such
object in it is an error. A brace of another kind, such as that of a quoted reference, hides the object. -/

namespace ResourceGraph

namespace Analysis
variable {cs front inner back rest body : List Char} {raw pre post J : String} {found : Analysis × Validation}

/-! ## Braces -/

/-- A text runs from the first opening brace of another to the last closing one. -/
inductive Braced : List Char → List Char → Prop where
  | intro {front inner back : List Char} : '{' ∉ front → '}' ∉ back →
      Braced (front ++ ('{' :: (inner ++ ['}'])) ++ back) ('{' :: (inner ++ ['}']))

theorem Braced.objectText?_eq (h : Braced cs body) : objectText? cs = some body := by
  obtain @⟨front, inner, back, hfront, hback⟩ := h
  have hstart : (front ++ ('{' :: (inner ++ ['}'])) ++ back).dropWhile (· ≠ '{') =
      '{' :: (inner ++ ['}']) ++ back := by
    rw [List.append_assoc]
    exact Text.dropWhile_append_of_stop (fun c hc => by simpa using fun heq : c = '{' => hfront (heq ▸ hc)) (by simp)
  have hend : ('{' :: (inner ++ ['}']) ++ back).reverse.dropWhile (· ≠ '}') = ('{' :: (inner ++ ['}'])).reverse := by
    rw [List.reverse_append]
    refine Text.dropWhile_append_of_stop (fun c hc => ?_) (by simp)
    simpa using fun heq : c = '}' => hback (heq ▸ List.mem_reverse.mp hc)
  unfold objectText?
  rw [hstart, hend, List.reverse_reverse]
  exact if_neg (by simp)

/-- Without an opening brace in front of a closing one there is no such text. -/
theorem objectText?_eq_none (hcs : cs.dropWhile (· ≠ '{') = rest) (h : '}' ∉ rest) : objectText? cs = none := by
  have hend : rest.reverse.dropWhile (· ≠ '}') = [] := by
    refine List.dropWhile_eq_nil_iff.mpr fun c hc => ?_
    simpa using fun heq : c = '}' => h (heq ▸ List.mem_reverse.mp hc)
  unfold objectText?
  rw [hcs, hend]
  rfl

/-- Where any opening brace stands in front of any closing one there is such a text. -/
theorem exists_braced (front inner back : List Char) :
    ∃ body, Braced (front ++ ('{' :: (inner ++ ['}'])) ++ back) body := by
  obtain ⟨first, mid, hopen, hfirst⟩ : ∃ first mid, front ++ ['{'] = first ++ '{' :: mid ∧ '{' ∉ first :=
    List.eq_append_cons_of_mem (by simp)
  obtain ⟨last, gap, hclose, hlast⟩ : ∃ last gap, ('}' :: back).reverse = last ++ '}' :: gap ∧ '}' ∉ last :=
    List.eq_append_cons_of_mem (by simp)
  have hclose : '}' :: back = gap.reverse ++ '}' :: last.reverse := by
    rw [← List.reverse_reverse ('}' :: back), hclose]
    simp
  have hcs : front ++ ('{' :: (inner ++ ['}'])) ++ back =
      first ++ ('{' :: ((mid ++ inner ++ gap.reverse) ++ ['}'])) ++ last.reverse := by
    calc front ++ ('{' :: (inner ++ ['}'])) ++ back
      _ = (front ++ ['{']) ++ inner ++ ('}' :: back) := by simp
      _ = (first ++ '{' :: mid) ++ inner ++ (gap.reverse ++ '}' :: last.reverse) := by rw [hopen, hclose]
      _ = first ++ ('{' :: ((mid ++ inner ++ gap.reverse) ++ ['}'])) ++ last.reverse := by simp
  rw [hcs]
  exact ⟨_, .intro hfirst fun hmem => hlast (List.mem_reverse.mp hmem)⟩

theorem objectText?_eq_some_iff : objectText? cs = some body ↔ Braced cs body := by
  refine ⟨fun h => ?_, Braced.objectText?_eq⟩
  have hclose : '}' ∈ cs.dropWhile (· ≠ '{') := by
    by_contra hnone
    rw [objectText?_eq_none rfl hnone] at h
    cases h
  obtain ⟨gap, back, hrest⟩ := List.append_of_mem hclose
  have hcs := List.takeWhile_append_dropWhile (p := (· ≠ '{')) (l := cs)
  have hopen := List.head?_dropWhile_not (· ≠ '{') cs
  rw [hrest] at hcs hopen
  cases gap with
  | nil => simp at hopen
  | cons c inner =>
    obtain rfl : c = '{' := by simpa using hopen
    obtain ⟨text, htext⟩ := exists_braced (cs.takeWhile (· ≠ '{')) inner back
    have hsame : cs.takeWhile (· ≠ '{') ++ ('{' :: (inner ++ ['}'])) ++ back = cs := Eq.trans (by simp) hcs
    rw [hsame] at htext
    rw [htext.objectText?_eq] at h
    cases h
    exact htext

/-! ## Answers -/

/-- The braces of an object are the first and the last ones of an answer around it, and what runs between them reads
    as the object, since only blanks are left out. -/
theorem exists_braced_of_read {fields : List (String × Json)} (hpre : '{' ∉ pre.toList) (hpost : '}' ∉ post.toList)
    (hread : Json.read? J = some (.object fields)) :
    ∃ body, Braced (pre ++ J ++ post).toList body ∧ Json.read? (String.ofList body) = some (.object fields) := by
  rw [← String.ofList_toList (s := J)] at hread
  obtain ⟨front, inner, back, hJ, hfront, hback, hread⟩ := Json.read_object hread rfl
  have hraw : (pre ++ J ++ post).toList =
      (pre.toList ++ front) ++ ('{' :: (inner ++ ['}'])) ++ (back ++ post.toList) := by
    rw [String.toList_append, String.toList_append, hJ]
    simp
  rw [hraw]
  refine ⟨_, .intro (fun hmem => ?_) fun hmem => ?_, hread⟩
  · rcases List.mem_append.mp hmem with hmem | hmem
    · exact hpre hmem
    · exact absurd (hfront _ hmem) (by decide)
  · rcases List.mem_append.mp hmem with hmem | hmem
    · exact absurd (hback _ hmem) (by decide)
    · exact hpost hmem

/-- An accepted answer is an object, with no opening brace in front of it and no closing one behind it. -/
theorem ofResponse_eq_ok_iff : ofResponse raw = .ok found ↔ ∃ pre J post fields, raw = pre ++ J ++ post ∧
    '{' ∉ pre.toList ∧ '}' ∉ post.toList ∧ Json.read? J = some (.object fields) ∧ found = ofJson (.object fields) := by
  constructor
  · intro h
    obtain ⟨v, hv, rfl⟩ := ofResponse_ok h
    obtain ⟨body, hbody, hread⟩ := Option.bind_eq_some_iff.mp hv
    have hbraced := objectText?_eq_some_iff.mp hbody
    generalize hcs : raw.toList = cs at hbraced
    obtain @⟨front, inner, back, hfront, hback⟩ := hbraced
    obtain ⟨fields, rfl⟩ := Json.exists_fields (Json.isObject_of_read hread)
    refine ⟨String.ofList front, String.ofList ('{' :: (inner ++ ['}'])), String.ofList back, fields, ?_, ?_, ?_, hread,
      rfl⟩
    · rw [← String.toList_inj, hcs]
      simp
    · rwa [String.toList_ofList]
    · rwa [String.toList_ofList]
  · rintro ⟨pre, J, post, fields, rfl, hpre, hpost, hread, rfl⟩
    obtain ⟨body, hbraced, hread⟩ := exists_braced_of_read hpre hpost hread
    unfold ofResponse
    rw [hbraced.objectText?_eq]
    dsimp only
    rw [hread]

theorem ofResponse_eq_noObject_iff : ofResponse raw = .error .noObject ↔ objectText? raw.toList = none := by
  unfold ofResponse
  split
  · rename_i hnone
    simp [hnone]
  · rename_i body hbody
    rw [hbody]
    split <;> simp

/-- Any text may stand around the object of an answer if it has no opening brace in front of the object and no
    closing one behind it; only an answer without such an object is an error, and it says that there is no object
    just if no opening brace stands in front of a closing one. -/
theorem ofResponse_wrapped (raw : String) :
    (∀ pre J post fields, raw = pre ++ J ++ post → '{' ∉ pre.toList → '}' ∉ post.toList →
      Json.read? J = some (.object fields) →
      ofResponse J = .ok (ofJson (.object fields)) ∧ ofResponse raw = ofResponse J) ∧
    ((∃ e, ofResponse raw = .error e) ↔ ¬∃ pre J post fields, raw = pre ++ J ++ post ∧
      '{' ∉ pre.toList ∧ '}' ∉ post.toList ∧ Json.read? J = some (.object fields)) ∧
    (ofResponse raw = .error .noObject ↔
      ¬∃ front inner back, raw.toList = front ++ ('{' :: (inner ++ ['}'])) ++ back) := by
  have hwrapped {pre J post : String} {fields : List (String × Json)} (hpre : '{' ∉ pre.toList)
      (hpost : '}' ∉ post.toList) (hread : Json.read? J = some (.object fields)) :
      ofResponse (pre ++ J ++ post) = .ok (ofJson (.object fields)) :=
    ofResponse_eq_ok_iff.mpr ⟨pre, J, post, fields, rfl, hpre, hpost, hread, rfl⟩
  refine ⟨?_, ?_, ?_⟩
  · rintro pre J post fields rfl hpre hpost hread
    have hJ : ofResponse ("" ++ J ++ "") = .ok (ofJson (.object fields)) := hwrapped nofun nofun hread
    rw [String.empty_append, String.append_empty] at hJ
    exact ⟨hJ, (hwrapped hpre hpost hread).trans hJ.symm⟩
  · constructor
    · rintro ⟨e, he⟩ ⟨pre, J, post, fields, rfl, hpre, hpost, hread⟩
      rw [hwrapped hpre hpost hread] at he
      cases he
    · intro hnone
      cases hfound : ofResponse raw with
      | error e => exact ⟨e, rfl⟩
      | ok found =>
        obtain ⟨pre, J, post, fields, hraw, hpre, hpost, hread, -⟩ := ofResponse_eq_ok_iff.mp hfound
        exact absurd ⟨pre, J, post, fields, hraw, hpre, hpost, hread⟩ hnone
  · rw [ofResponse_eq_noObject_iff]
    constructor
    · rintro hnone ⟨front, inner, back, hraw⟩
      obtain ⟨body, hbody⟩ := exists_braced front inner back
      rw [hraw, hbody.objectText?_eq] at hnone
      cases hnone
    · intro hnone
      cases hbody : objectText? raw.toList with
      | none => rfl
      | some body =>
        have hbraced := objectText?_eq_some_iff.mp hbody
        generalize raw.toList = cs at hbraced hnone
        obtain @⟨front, inner, back, -, -⟩ := hbraced
        exact absurd ⟨front, inner, back, rfl⟩ hnone

/-- An object with one resource. -/
def network : String :=
  "\x7b\"resources\": [\x7b\"type\": \"aws_vpc\", \"name\": \"main\"\x7d]\x7d"

theorem read_network : ∃ fields, Json.read? network = some (.object fields) := by
  have hobject : (Json.read? network).any Json.isObject = true := by decide +kernel
  obtain ⟨v, hread, hv⟩ := (Option.any_eq_true _ _).mp hobject
  obtain ⟨fields, rfl⟩ := Json.exists_fields hv
  exact ⟨fields, hread⟩

/-- The object in a fence, between two sentences. -/
theorem ofResponse_wrapped_fence : ∃ fields, Json.read? network = some (.object fields) ∧
    ofResponse ("The graph:\n```json\n" ++ network ++ "\n```\nOne node.") = .ok (ofJson (.object fields)) ∧
    (ofJson (.object fields)).2 = ⟨1, 0, 0, 0⟩ := by
  obtain ⟨fields, hread⟩ := read_network
  have counts : (ofResponse network).toOption.map Prod.snd = some ⟨1, 0, 0, 0⟩ := by decide +kernel
  obtain ⟨hok, hwrapped⟩ :=
    (ofResponse_wrapped _).1 "The graph:\n```json\n" network "\n```\nOne node." fields rfl
      (by decide +kernel) (by decide +kernel) hread
  rw [hok] at counts
  exact ⟨fields, hread, hwrapped.trans hok, Option.some.inj counts⟩

/-- No part of a text is an object. -/
def NoObject (s : String) : Prop :=
  ∀ front J back fields, s = front ++ J ++ back → Json.read? J ≠ some (.object fields)

/-- A text with one pair of braces holds no object if it is an error as an answer. -/
theorem noObject_of_count {s : String} (hopen : s.toList.count '{' ≤ 1) (hclose : s.toList.count '}' ≤ 1)
    (herror : (ofResponse s).toOption.isNone = true) : NoObject s := by
  rintro front J back fields rfl hread
  have hobject : Json.read? (String.ofList J.toList) = some (.object fields) := by rwa [String.ofList_toList]
  obtain ⟨first, inner, last, hJ, -, -, -⟩ := Json.read_object hobject rfl
  simp only [String.toList_append, List.count_append] at hopen hclose
  have hJopen : 0 < J.toList.count '{' := List.count_pos_iff.mpr (by simp [hJ])
  have hJclose : 0 < J.toList.count '}' := List.count_pos_iff.mpr (by simp [hJ])
  have hfront : '{' ∉ front.toList := fun hmem => by
    have hpos := List.count_pos_iff.mpr hmem
    omega
  have hback : '}' ∉ back.toList := fun hmem => by
    have hpos := List.count_pos_iff.mpr hmem
    omega
  rw [ofResponse_eq_ok_iff.mpr ⟨front, J, back, fields, rfl, hfront, hback, hread, rfl⟩] at herror
  cases herror

/-- A reference in front of the object hides it, although no object is in the text around it. -/
theorem not_wrapped_without_objects : ¬∀ pre J post fields, NoObject pre → NoObject post →
    Json.read? J = some (.object fields) → ofResponse (pre ++ J ++ post) = ofResponse J := by
  intro h
  obtain ⟨fields, hread⟩ := read_network
  have hpre : NoObject "Graph of $\x7bvar.env\x7d: " :=
    noObject_of_count (by decide +kernel) (by decide +kernel) (by decide +kernel)
  have hpost : NoObject "" := noObject_of_count (by decide) (by decide) (by decide)
  have hsame := h _ network "" fields hpre hpost hread
  have hidden : (ofResponse ("Graph of $\x7bvar.env\x7d: " ++ network ++ "")).toOption.isSome ≠
      (ofResponse network).toOption.isSome := by decide +kernel
  rw [hsame] at hidden
  exact hidden rfl

end Analysis

end ResourceGraph
