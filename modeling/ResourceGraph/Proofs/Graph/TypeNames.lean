import Mathlib.Data.List.Forall2
import ResourceGraph.Graph.Edge

/-! # The names of relationship types

A stored type is one or more words of capitals and digits with single underscores between them,
`[A-Z0-9]+(_[A-Z0-9]+)*`. Whatever text an analyzer gives as a type, `relationshipType` makes such a name
of it: its runs of letters and digits are not empty, and the capital of a letter or digit is a capital or
a digit. It does so in one pass: what it has written is the closed runs of the part that it has read, and the run
that is still open. The runs of the name are those of the text in capitals, so a name is the name of itself, and two
texts have one name if their runs differ at most in case. -/

namespace ResourceGraph

/-- A capital letter or a digit, both of ASCII. -/
def isTypeChar (c : Char) : Bool := c.isUpper || c.isDigit

/-- One or more capitals and digits. -/
structure TypeWord (cs : List Char) : Prop where
  nonempty : cs ≠ []
  chars : ∀ c ∈ cs, isTypeChar c = true

/-- Words of capitals and digits with an underscore between two of them. -/
inductive TypeName : List Char → Prop where
  | word {cs : List Char} : TypeWord cs → TypeName cs
  | join {cs rest : List Char} : TypeWord cs → TypeName rest → TypeName (cs ++ '_' :: rest)

section Chars
variable {c : Char}

theorem isUpper_iff : c.isUpper = true ↔ 65 ≤ c.toNat ∧ c.toNat ≤ 90 := decide_eq_true_iff

theorem isLower_iff : c.isLower = true ↔ 97 ≤ c.toNat ∧ c.toNat ≤ 122 :=
  Bool.and_eq_true_iff.trans (and_congr decide_eq_true_iff decide_eq_true_iff)

theorem isDigit_iff : c.isDigit = true ↔ 48 ≤ c.toNat ∧ c.toNat ≤ 57 :=
  Bool.and_eq_true_iff.trans (and_congr decide_eq_true_iff decide_eq_true_iff)

theorem isAlphanum_iff : c.isAlphanum = true ↔ (c.isUpper = true ∨ c.isLower = true) ∨ c.isDigit = true :=
  Bool.or_eq_true_iff.trans (or_congr Bool.or_eq_true_iff Iff.rfl)

theorem isTypeChar_iff : isTypeChar c = true ↔ c.isUpper = true ∨ c.isDigit = true := Bool.or_eq_true_iff

theorem toNat_toUpper : c.toUpper.toNat = if 97 ≤ c.toNat ∧ c.toNat ≤ 122 then c.toNat - 32 else c.toNat := by
  unfold Char.toUpper
  split
  · rename_i hsmall
    have hlow : 97 ≤ c.val.toNat := hsmall.1
    have hhigh : c.val.toNat ≤ 122 := hsmall.2
    have hval : (c.val + ('A'.val - 'a'.val)).toNat = c.val.toNat - 32 := by
      have hshift : ('A'.val - 'a'.val).toNat = 4294967264 := rfl
      rw [UInt32.toNat_add]
      omega
    exact hval.trans (if_pos ⟨hlow, hhigh⟩).symm
  · rename_i hsmall
    exact (if_neg hsmall).symm

theorem isAlphanum_of_isTypeChar (h : isTypeChar c = true) : c.isAlphanum = true := by
  rcases isTypeChar_iff.mp h with h | h
  · exact isAlphanum_iff.mpr (Or.inl (Or.inl h))
  · exact isAlphanum_iff.mpr (Or.inr h)

theorem isTypeChar_toUpper (h : c.isAlphanum = true) : isTypeChar c.toUpper = true := by
  rw [isAlphanum_iff, isUpper_iff, isLower_iff, isDigit_iff] at h
  rw [isTypeChar_iff, isUpper_iff, isDigit_iff, toNat_toUpper]
  split <;> omega

theorem toUpper_toUpper : c.toUpper.toUpper = c.toUpper := by
  refine Char.toNat_inj.mp ?_
  rw [toNat_toUpper (c := c.toUpper), if_neg]
  rw [toNat_toUpper]
  split <;> omega

/-- Two characters that differ at most in case: one is the other, or its capital. -/
def SameLetter (c d : Char) : Prop :=
  c = d ∨ (c.isLower = true ∧ c.toNat = d.toNat + 32) ∨ (d.isLower = true ∧ d.toNat = c.toNat + 32)

theorem toUpper_eq_iff {d : Char} : c.toUpper = d.toUpper ↔ SameLetter c d := by
  rw [SameLetter, isLower_iff, isLower_iff, ← Char.toNat_inj, ← Char.toNat_inj, toNat_toUpper, toNat_toUpper]
  split <;> split <;> omega

end Chars

/-! ## Runs -/

/-- The longest runs of letters and digits in a text, in their order: what stands between them is neither, and so is the
character behind each of them. -/
inductive Runs : List Char → List (List Char) → Prop where
  | nil {gap : List Char} : (∀ c ∈ gap, c.isAlphanum = false) → Runs gap []
  | cons {gap w rest : List Char} {ws : List (List Char)} : (∀ c ∈ gap, c.isAlphanum = false) → w ≠ [] →
      (∀ c ∈ w, c.isAlphanum = true) → (∀ c, rest.head? = some c → c.isAlphanum = false) → Runs rest ws →
      Runs (gap ++ w ++ rest) (w :: ws)

/-- The longest runs of letters and digits in a text; `run` is the one that the text goes on from, in reverse. -/
def alphanumericRuns (run : List Char) : List Char → List (List Char)
  | [] => if run.isEmpty then [] else [run.reverse]
  | c :: rest =>
    if c.isAlphanum then alphanumericRuns (c :: run) rest
    else if run.isEmpty then alphanumericRuns [] rest
    else run.reverse :: alphanumericRuns [] rest

section Runs
variable {c : Char} {cs gap rest run w : List Char} {ws vs : List (List Char)}

theorem Runs.word (hw : w ≠ []) (hall : ∀ c ∈ w, c.isAlphanum = true)
    (hrest : ∀ c, rest.head? = some c → c.isAlphanum = false) (h : Runs rest ws) : Runs (w ++ rest) (w :: ws) :=
  @Runs.cons [] w rest ws (fun _ hc => absurd hc List.not_mem_nil) hw hall hrest h

theorem Runs.skip (hc : c.isAlphanum = false) (h : Runs cs ws) : Runs (c :: cs) ws := by
  cases h with
  | nil hgap => exact .nil (List.forall_mem_cons.mpr ⟨hc, hgap⟩)
  | @cons gap w rest ws hgap hw hall hrest h =>
    exact @Runs.cons (c :: gap) w rest ws (List.forall_mem_cons.mpr ⟨hc, hgap⟩) hw hall hrest h

theorem Runs.mem (h : Runs cs ws) : ∀ w ∈ ws, w ≠ [] ∧ ∀ c ∈ w, c.isAlphanum = true := by
  induction h with
  | nil => exact fun w hw => absurd hw List.not_mem_nil
  | cons _ hw hall _ _ ih => exact List.forall_mem_cons.mpr ⟨⟨hw, hall⟩, ih⟩

/-- The runs behind some letters and digits. -/
theorem runs_alphanumericRuns_append (hrun : ∀ c ∈ run, c.isAlphanum = true) :
    Runs (run.reverse ++ cs) (alphanumericRuns run cs) := by
  have closed : ∀ {run : List Char}, (∀ c ∈ run, c.isAlphanum = true) → ¬run.isEmpty = true →
      run.reverse ≠ [] ∧ ∀ c ∈ run.reverse, c.isAlphanum = true := fun hrun hne =>
    ⟨by simpa using hne, fun c hc => hrun c (List.mem_reverse.mp hc)⟩
  induction cs generalizing run with
  | nil =>
    unfold alphanumericRuns
    split
    · rename_i hempty
      obtain rfl := List.isEmpty_iff.mp hempty
      exact .nil fun _ hc => absurd hc List.not_mem_nil
    · rename_i hne
      obtain ⟨hword, hall⟩ := closed hrun hne
      exact .word hword hall (fun _ hc => nomatch hc) (.nil fun _ hc => absurd hc List.not_mem_nil)
  | cons c cs ih =>
    unfold alphanumericRuns
    split
    · rename_i hc
      have hrest : Runs ((c :: run).reverse ++ cs) (alphanumericRuns (c :: run) cs) :=
        ih (List.forall_mem_cons.mpr ⟨hc, hrun⟩)
      rwa [List.reverse_cons, List.append_assoc] at hrest
    · rename_i hc
      have hrest : Runs (c :: cs) (alphanumericRuns [] cs) :=
        .skip (by simpa using hc) (ih fun _ hc => absurd hc List.not_mem_nil)
      split
      · rename_i hempty
        obtain rfl := List.isEmpty_iff.mp hempty
        exact hrest
      · rename_i hne
        obtain ⟨hword, hall⟩ := closed hrun hne
        exact .word hword hall (fun d hd => Option.some.inj hd ▸ by simpa using hc) hrest

theorem runs_alphanumericRuns (cs : List Char) : Runs cs (alphanumericRuns [] cs) :=
  runs_alphanumericRuns_append fun _ hc => absurd hc List.not_mem_nil

theorem alphanumericRuns_gap (hgap : ∀ c ∈ gap, c.isAlphanum = false) :
    alphanumericRuns [] (gap ++ cs) = alphanumericRuns [] cs := by
  induction gap with
  | nil => rfl
  | cons c gap ih =>
    obtain ⟨hc, hgap⟩ := List.forall_mem_cons.mp hgap
    rw [List.cons_append, alphanumericRuns, if_neg (by simp [hc]), if_pos List.isEmpty_nil, ih hgap]

theorem alphanumericRuns_word (hall : ∀ c ∈ w, c.isAlphanum = true) :
    alphanumericRuns run (w ++ rest) = alphanumericRuns (w.reverse ++ run) rest := by
  induction w generalizing run with
  | nil => rfl
  | cons c w ih =>
    obtain ⟨hc, hall⟩ := List.forall_mem_cons.mp hall
    rw [List.cons_append, alphanumericRuns, if_pos hc, ih hall, List.reverse_cons, List.append_assoc,
      List.singleton_append]

theorem alphanumericRuns_stop (hne : run ≠ []) (hrest : ∀ c, rest.head? = some c → c.isAlphanum = false) :
    alphanumericRuns run rest = run.reverse :: alphanumericRuns [] rest := by
  cases rest with
  | nil => simp [alphanumericRuns, hne]
  | cons c rest => simp [alphanumericRuns, hne, hrest c rfl]

/-- A character that is neither a letter nor a digit closes the run in front of it. -/
theorem alphanumericRuns_separator (hc : c.isAlphanum = false) :
    alphanumericRuns run (c :: rest) = alphanumericRuns run [] ++ alphanumericRuns [] rest := by
  cases run <;> simp [alphanumericRuns, hc]

/-- A text has just one list of runs. -/
theorem runs_iff : Runs cs ws ↔ ws = alphanumericRuns [] cs := by
  refine ⟨fun h => ?_, fun h => h ▸ runs_alphanumericRuns cs⟩
  induction h with
  | @nil gap hgap => rw [← List.append_nil gap, alphanumericRuns_gap hgap, alphanumericRuns, if_pos List.isEmpty_nil]
  | cons hgap hw hall hrest _ ih =>
    rw [List.append_assoc, alphanumericRuns_gap hgap, alphanumericRuns_word hall, List.append_nil,
      alphanumericRuns_stop (by simpa using hw) hrest, List.reverse_reverse, ih]

/-- There is no run exactly if there is neither a letter nor a digit. -/
theorem Runs.eq_nil_iff (h : Runs cs ws) : ws = [] ↔ ∀ c ∈ cs, c.isAlphanum = false := by
  cases h with
  | nil hgap => exact ⟨fun _ => hgap, fun _ => rfl⟩
  | @cons gap w rest ws _ hw hall _ _ =>
    refine ⟨nofun, fun hnone => ?_⟩
    obtain ⟨c, w, rfl⟩ := List.exists_cons_of_ne_nil hw
    have hc := hnone c (by simp)
    rw [hall c List.mem_cons_self] at hc
    cases hc

end Runs

/-! ## Names -/

section Names
variable {raw other : String} {w : List Char} {ws vs : List (List Char)}

/-- A word in capitals. -/
def capitals (w : List Char) : List Char := w.map Char.toUpper

/-- Words with an underscore between two of them. -/
def joinWords (ws : List (List Char)) : String := "_".intercalate (ws.map String.ofList)

theorem typeWord_capitals (h : w ≠ [] ∧ ∀ c ∈ w, c.isAlphanum = true) : TypeWord (capitals w) := by
  refine ⟨by simpa [capitals] using h.1, fun c hc => ?_⟩
  obtain ⟨d, hd, rfl⟩ := List.mem_map.mp hc
  exact isTypeChar_toUpper (h.2 d hd)

theorem typeWord_of_mem (raw : String) : ∀ w ∈ (alphanumericRuns [] raw.toList).map capitals, TypeWord w := by
  intro w hw
  obtain ⟨v, hv, rfl⟩ := List.mem_map.mp hw
  exact typeWord_capitals ((runs_alphanumericRuns _).mem v hv)

theorem joinWords_cons_cons {v w : List Char} :
    (joinWords (v :: w :: ws)).toList = v ++ '_' :: (joinWords (w :: ws)).toList := by
  unfold joinWords
  rw [List.map_cons, List.map_cons, String.intercalate_cons_cons, String.append_assoc, String.toList_append,
    String.toList_append, String.toList_ofList]
  rfl

theorem joinWords_singleton : (joinWords [w]).toList = w := by
  rw [joinWords, List.map_singleton, String.intercalate_singleton, String.toList_ofList]

/-- One more word stands behind an underscore. -/
theorem joinWords_concat (hne : ws ≠ []) :
    (joinWords (ws ++ [w])).toList = (joinWords ws).toList ++ '_' :: w := by
  induction ws with
  | nil => exact absurd rfl hne
  | cons v ws ih =>
    cases ws with
    | nil => rw [List.singleton_append, joinWords_cons_cons, joinWords_singleton, joinWords_singleton]
    | cons u ws =>
      have hrest := ih (List.cons_ne_nil u ws)
      rw [List.cons_append] at hrest
      rw [List.cons_append, List.cons_append, joinWords_cons_cons, joinWords_cons_cons, hrest, List.append_assoc,
        List.cons_append]

/-- The last word goes on. -/
theorem joinWords_push {c : Char} : joinWords (ws ++ [w ++ [c]]) = (joinWords (ws ++ [w])).push c := by
  refine String.toList_inj.mp ?_
  rw [String.toList_push]
  by_cases hne : ws = []
  · rw [hne, List.nil_append, List.nil_append, joinWords_singleton, joinWords_singleton]
  · rw [joinWords_concat hne, joinWords_concat hne, List.append_assoc, List.cons_append]

/-- Another word begins. -/
theorem joinWords_push_separator {c : Char} (hne : ws ≠ []) :
    joinWords (ws ++ [[c]]) = ((joinWords ws).push '_').push c := by
  refine String.toList_inj.mp ?_
  rw [joinWords_concat hne, String.toList_push, String.toList_push, List.append_assoc, List.singleton_append]

theorem joinWords_ne_empty (hne : ws ≠ []) (hwords : [] ∉ ws) : joinWords ws ≠ "" := by
  obtain ⟨w, ws, rfl⟩ := List.exists_cons_of_ne_nil hne
  intro hempty
  have hnil : (joinWords (w :: ws)).toList = [] := by rw [hempty, String.toList_empty]
  cases ws with
  | nil =>
    rw [joinWords_singleton] at hnil
    exact hwords (hnil ▸ List.mem_singleton_self w)
  | cons v ws =>
    rw [joinWords_cons_cons] at hnil
    exact absurd hnil (by simp)

/-! ### The pass over a text -/

namespace TypeScan

/-- What the pass holds once it has read the runs `ws` and, in reverse, the first letters and digits of another: all of
them in capitals. A separator is pending if one stands behind the last run. -/
inductive At : List (List Char) → List Char → TypeScan → Prop where
  | closed {ws : List (List Char)} {pending : Bool} : [] ∉ ws → (ws ≠ [] → pending = true) →
      At ws [] ⟨joinWords (ws.map capitals), pending⟩
  | opened {ws : List (List Char)} {run : List Char} : [] ∉ ws → run ≠ [] →
      At ws run ⟨joinWords ((ws ++ [run.reverse]).map capitals), false⟩

variable {s : TypeScan} {c : Char} {run : List Char}

theorem At.start : At [] [] .start := .closed List.not_mem_nil fun hne => absurd rfl hne

theorem At.out (h : At ws run s) : s.out = joinWords ((ws ++ alphanumericRuns run []).map capitals) := by
  cases h with
  | closed _ _ => simp [alphanumericRuns]
  | opened _ hrun => simp [alphanumericRuns, hrun]

theorem step_letter (hc : c.isAlphanum = true) : s.step c =
    ⟨(if s.pending && !s.out.isEmpty then s.out.push '_' else s.out).push c.toUpper, false⟩ := if_pos hc

/-- A letter behind closed runs begins a word, in front of which there is an underscore unless it is the first. -/
theorem step_closed {pending : Bool} (hwords : [] ∉ ws) (hpending : ws ≠ [] → pending = true)
    (hc : c.isAlphanum = true) :
    step ⟨joinWords (ws.map capitals), pending⟩ c = ⟨joinWords ((ws ++ [[c]]).map capitals), false⟩ := by
  rw [step_letter hc, List.map_append]
  by_cases hne : ws = []
  · subst hne
    have hsep : ¬(pending && !(joinWords []).isEmpty) = true := by simp [joinWords]
    refine (congrArg (fun out : String => TypeScan.mk (out.push c.toUpper) false) (if_neg hsep)).trans ?_
    exact congrArg (TypeScan.mk · false) (@joinWords_push [] [] c.toUpper).symm
  · have hfull : joinWords (ws.map capitals) ≠ "" :=
      joinWords_ne_empty (by simpa using hne) (by simpa [capitals] using hwords)
    have hsep : (pending && !(joinWords (ws.map capitals)).isEmpty) = true := by simpa [hpending hne] using hfull
    rw [if_pos hsep]
    exact congrArg (TypeScan.mk · false) (joinWords_push_separator (by simpa using hne)).symm

theorem step_opened (hc : c.isAlphanum = true) :
    step ⟨joinWords ((ws ++ [run.reverse]).map capitals), false⟩ c =
      ⟨joinWords ((ws ++ [(c :: run).reverse]).map capitals), false⟩ := by
  have hword : capitals (c :: run).reverse = capitals run.reverse ++ [c.toUpper] := by simp [capitals]
  rw [step_letter hc, List.map_append, List.map_append, List.map_singleton, List.map_singleton, hword, joinWords_push]
  rfl

theorem At.step_letter (h : At ws run s) (hc : c.isAlphanum = true) : At ws (c :: run) (s.step c) := by
  cases h with
  | closed hwords hpending =>
    rw [step_closed hwords hpending hc]
    exact .opened hwords (List.cons_ne_nil _ _)
  | opened hwords hrun =>
    rw [step_opened hc]
    exact .opened hwords (List.cons_ne_nil _ _)

theorem At.step_separator (h : At ws run s) (hc : c.isAlphanum = false) :
    At (ws ++ alphanumericRuns run []) [] (s.step c) := by
  have hnext : s.step c = ⟨joinWords ((ws ++ alphanumericRuns run []).map capitals), true⟩ := by
    rw [step, if_neg (by simp [hc]), h.out]
  rw [hnext]
  refine .closed ?_ fun _ => rfl
  cases h with
  | closed hwords _ => simpa [alphanumericRuns] using hwords
  | opened hwords hrun =>
    rw [alphanumericRuns, if_neg (by simpa using hrun)]
    simpa [hwords] using hrun

/-- The pass writes the runs of the rest behind those that it has read. -/
theorem At.foldl (h : At ws run s) (cs : List Char) :
    (cs.foldl step s).out = joinWords ((ws ++ alphanumericRuns run cs).map capitals) := by
  induction cs generalizing ws run s with
  | nil => exact h.out
  | cons c cs ih =>
    rw [List.foldl_cons]
    cases hc : c.isAlphanum with
    | true => rw [ih (h.step_letter hc), alphanumericRuns, if_pos hc]
    | false => rw [ih (h.step_separator hc), List.append_assoc, ← alphanumericRuns_separator hc]

end TypeScan

/-- The pass gives the runs of the text in capitals, and the name of all texts without a run if there is none. -/
theorem relationshipType_eq (raw : String) : relationshipType raw =
    if alphanumericRuns [] raw.toList = [] then fallbackType
    else joinWords ((alphanumericRuns [] raw.toList).map capitals) := by
  have hout : (raw.toList.foldl TypeScan.step .start).out = joinWords ((alphanumericRuns [] raw.toList).map capitals) :=
    TypeScan.At.start.foldl raw.toList
  have hempty : (joinWords ((alphanumericRuns [] raw.toList).map capitals)).isEmpty = true ↔
      alphanumericRuns [] raw.toList = [] := by
    rw [String.isEmpty_iff]
    refine ⟨fun hnone => ?_, fun hnil => by rw [hnil]; rfl⟩
    by_contra hne
    refine joinWords_ne_empty (by simpa using hne) (fun hnil => ?_) hnone
    exact (typeWord_of_mem raw [] hnil).nonempty rfl
  unfold relationshipType
  simp only [hout, hempty]

/-- Words joined by underscores make the name of a type. -/
theorem typeName_joinWords (hne : ws ≠ []) (h : ∀ w ∈ ws, TypeWord w) : TypeName (joinWords ws).toList := by
  induction ws with
  | nil => exact absurd rfl hne
  | cons w ws ih =>
    obtain ⟨hw, hws⟩ := List.forall_mem_cons.mp h
    cases ws with
    | nil =>
      rw [joinWords_singleton]
      exact .word hw
    | cons v ws =>
      rw [joinWords_cons_cons]
      exact .join hw (ih (List.cons_ne_nil _ _) hws)

/-- The words are found again as the runs of the name that they make. -/
theorem runs_joinWords (hne : ws ≠ []) (h : ∀ w ∈ ws, TypeWord w) : Runs (joinWords ws).toList ws := by
  induction ws with
  | nil => exact absurd rfl hne
  | cons w ws ih =>
    obtain ⟨hw, hws⟩ := List.forall_mem_cons.mp h
    have hall : ∀ c ∈ w, c.isAlphanum = true := fun c hc => isAlphanum_of_isTypeChar (hw.chars c hc)
    cases ws with
    | nil =>
      have hend : Runs [] [] := .nil fun _ hc => absurd hc List.not_mem_nil
      have hword : Runs (w ++ []) [w] := .word hw.nonempty hall (fun _ hc => nomatch hc) hend
      rw [joinWords_singleton]
      rwa [List.append_nil] at hword
    | cons v ws =>
      rw [joinWords_cons_cons]
      exact .word hw.nonempty hall (fun d hd => Option.some.inj hd ▸ rfl) (.skip rfl (ih (List.cons_ne_nil _ _) hws))

theorem typeName_fallbackType : TypeName fallbackType.toList :=
  have front : TypeWord "RELATED".toList := ⟨by decide, List.all_eq_true.mp (by decide)⟩
  have back : TypeWord "TO".toList := ⟨by decide, List.all_eq_true.mp (by decide)⟩
  .join front (.word back)

/-- Every text gives the name of a type. -/
theorem typeName_relationshipType (raw : String) : TypeName (relationshipType raw).toList := by
  rw [relationshipType_eq]
  split
  · exact typeName_fallbackType
  · rename_i hne
    exact typeName_joinWords (by simpa using hne) (typeWord_of_mem raw)

/-- Two functions of lists agree if they agree element by element. -/
theorem map_eq_map_iff_forall₂ {α β : Type} {f : α → β} {R : α → α → Prop} {l m : List α}
    (h : ∀ a b, f a = f b ↔ R a b) : l.map f = m.map f ↔ List.Forall₂ R l m := by
  rw [← List.forall₂_eq_eq_eq, List.forall₂_map_left_iff, List.forall₂_map_right_iff]
  simp only [h]

theorem capitals_eq_iff {v : List Char} : capitals w = capitals v ↔ List.Forall₂ SameLetter w v :=
  map_eq_map_iff_forall₂ fun _ _ => toUpper_eq_iff

theorem capitals_capitals : capitals (capitals w) = capitals w := by
  rw [capitals, capitals, List.map_map]
  exact List.map_congr_left fun c _ => toUpper_toUpper

/-- Without a run a text gives the name of all such texts, and else that of its runs in capitals, which are the runs of
the name. -/
theorem relationshipType_cases (raw : String) :
    (alphanumericRuns [] raw.toList = [] ∧ relationshipType raw = fallbackType) ∨
    (alphanumericRuns [] raw.toList ≠ [] ∧
      relationshipType raw = joinWords ((alphanumericRuns [] raw.toList).map capitals) ∧
      alphanumericRuns [] (relationshipType raw).toList = (alphanumericRuns [] raw.toList).map capitals) := by
  rw [relationshipType_eq]
  split
  · rename_i hnone
    exact Or.inl ⟨hnone, rfl⟩
  · rename_i hne
    have hruns := runs_joinWords (by simpa using hne) (typeWord_of_mem raw)
    exact Or.inr ⟨hne, rfl, (runs_iff.mp hruns).symm⟩

/-- A name is the name of itself. -/
theorem relationshipType_relationshipType (raw : String) :
    relationshipType (relationshipType raw) = relationshipType raw := by
  rcases relationshipType_cases raw with ⟨-, hname⟩ | ⟨hne, hname, hruns⟩
  · rw [hname]
    decide
  · have hcapitals : ((alphanumericRuns [] raw.toList).map capitals).map capitals =
        (alphanumericRuns [] raw.toList).map capitals := by
      rw [List.map_map]
      exact List.map_congr_left fun w _ => capitals_capitals
    rw [relationshipType_eq (relationshipType raw), hruns, if_neg (by simpa using hne), hcapitals, hname]

/-- Texts with runs have one name exactly if their runs differ at most in case. -/
theorem relationshipType_eq_iff (hraw : alphanumericRuns [] raw.toList ≠ [])
    (hother : alphanumericRuns [] other.toList ≠ []) :
    relationshipType raw = relationshipType other ↔ List.Forall₂ (List.Forall₂ SameLetter)
      (alphanumericRuns [] raw.toList) (alphanumericRuns [] other.toList) := by
  obtain ⟨-, hname, hruns⟩ := (relationshipType_cases raw).resolve_left fun h => hraw h.1
  obtain ⟨-, hname', hruns'⟩ := (relationshipType_cases other).resolve_left fun h => hother h.1
  rw [← map_eq_map_iff_forall₂ fun _ _ => capitals_eq_iff]
  constructor
  · intro heq
    rw [← hruns, ← hruns', heq]
  · intro heq
    rw [hname, hname', heq]

/-- The name of a type is canonical: it is made of the runs of letters and digits in capitals, it is its own name, and
texts with a letter or a digit have one name exactly if their runs differ at most in case. -/
theorem relationshipType_canonical (raw : String) :
    (∃ ws, Runs raw.toList ws ∧ (∀ vs, Runs raw.toList vs → vs = ws) ∧
      relationshipType raw = if ws = [] then "RELATED_TO" else joinWords (ws.map capitals)) ∧
    TypeName (relationshipType raw).toList ∧
    relationshipType (relationshipType raw) = relationshipType raw ∧
    ∀ other ws vs, (∃ c ∈ raw.toList, c.isAlphanum = true) → (∃ c ∈ other.toList, c.isAlphanum = true) →
      Runs raw.toList ws → Runs other.toList vs →
        (relationshipType raw = relationshipType other ↔ List.Forall₂ (List.Forall₂ SameLetter) ws vs) := by
  have nonempty : ∀ {s : String}, (∃ c ∈ s.toList, c.isAlphanum = true) → alphanumericRuns [] s.toList ≠ [] := by
    intro s ⟨c, hc, halphanum⟩ hnil
    rw [(runs_alphanumericRuns s.toList).eq_nil_iff.mp hnil c hc] at halphanum
    cases halphanum
  refine ⟨⟨_, runs_alphanumericRuns _, fun vs h => runs_iff.mp h, relationshipType_eq raw⟩,
    typeName_relationshipType raw, relationshipType_relationshipType raw, ?_⟩
  intro other ws vs hraw hother hws hvs
  obtain rfl := runs_iff.mp hws
  obtain rfl := runs_iff.mp hvs
  exact relationshipType_eq_iff (nonempty hraw) (nonempty hother)

/-- Two texts with the name `USES_THE_DB2`. -/
theorem relationshipType_canonical_usesTheDb :
    (∃ c ∈ " --uses// the::db2".toList, c.isAlphanum = true) ∧ (∃ c ∈ "Uses_THE é Db2".toList, c.isAlphanum = true) ∧
    Runs " --uses// the::db2".toList ["uses".toList, "the".toList, "db2".toList] ∧
    Runs "Uses_THE é Db2".toList ["Uses".toList, "THE".toList, "Db2".toList] ∧
    relationshipType " --uses// the::db2" = relationshipType "Uses_THE é Db2" := by
  have hruns : Runs " --uses// the::db2".toList ["uses".toList, "the".toList, "db2".toList] := runs_iff.mpr (by decide)
  have hruns' : Runs "Uses_THE é Db2".toList ["Uses".toList, "THE".toList, "Db2".toList] := runs_iff.mpr (by decide)
  have hsome : ∃ c ∈ " --uses// the::db2".toList, c.isAlphanum = true := ⟨'u', by decide, rfl⟩
  have hsome' : ∃ c ∈ "Uses_THE é Db2".toList, c.isAlphanum = true := ⟨'U', by decide, rfl⟩
  obtain ⟨-, -, -, hsame⟩ := relationshipType_canonical " --uses// the::db2"
  refine ⟨hsome, hsome', hruns, hruns', (hsame _ _ _ hsome hsome' hruns hruns').mpr ?_⟩
  exact (map_eq_map_iff_forall₂ fun _ _ => capitals_eq_iff).mp (by decide)

end Names

end ResourceGraph
