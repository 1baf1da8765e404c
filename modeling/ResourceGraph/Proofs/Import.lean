import ResourceGraph.Import
import ResourceGraph.Proofs.Answers
import ResourceGraph.Proofs.Graph.Merge
import ResourceGraph.Proofs.Graph.Tallies

/-! # What an import reports, and when it does not

An entry of an answer is left out as malformed, or it is a resource or a relationship that the run counts. So
the numbers of an import's report add up to the numbers of entries in the answer (`run_accounts`).

An import without a report has stopped before its first write (`Stops`), so it leaves the graph
(`run_failure`).

What is accepted from an answer is valid, so where no call fails an import stores the graph of the accepted
descriptors, or writes it over the stored graph (`run_stores`). The same import once more changes nothing. -/

namespace ResourceGraph

/-! ### Reports -/

/-- The numbers of a report account for every entry of an answer's object. Every edge that was written has two
    ends that were found in some way, and no other ends were found than those of accepted relationships. -/
structure ImportReport.Accounts (r : ImportReport) (v : Json) : Prop where
  resources : (Analysis.entries v "resources").length =
    r.validation.resourcesMalformed + r.tally.nodesWritten + r.tally.nodesFailed
  relationships : (Analysis.entries v "relationships").length =
    r.validation.relationshipsMalformed + r.tally.edgesWritten + r.tally.edgesUnresolved + r.tally.edgesFailed
  ends : 2 * r.tally.edgesWritten ≤ total (r.tally.resolutions.map Prod.snd)
  ends_le : total (r.tally.resolutions.map Prod.snd) ≤ 2 * r.validation.relationshipsAccepted

namespace Import
variable {options : ContextOptions} {parsers : List BlockParser} {faults : Faults} {mode : Mode} {s t : Session}
  {files : List SourceFile} {analyzer : String → Except Error String} {report : ImportReport}

theorem ofAnswer_ok {context : Context} {answer : Except Error String}
    (h : ofAnswer faults mode s context answer = (.ok report, t)) :
    ∃ raw v, answer = .ok raw ∧ Analysis.object? raw = some v ∧ report.validation = (Analysis.ofJson v).2 ∧
      Materialize.run faults Strategy.all mode s (Analysis.ofJson v).1 = (.ok report.tally, t) := by
  unfold ofAnswer at h
  split at h
  · cases h
  · rename_i analysis validation hresponse
    cases answer with
    | error e => cases hresponse
    | ok raw =>
      obtain ⟨v, hv, hfound⟩ := Analysis.ofResponse_ok hresponse
      split at h
      · cases h
      · rename_i tally t' hrun
        cases h
        refine ⟨raw, v, rfl, hv, ?_⟩
        rw [← hfound]
        exact ⟨rfl, hrun⟩

/-- An import that ends with a report loses no entry of the answer without counting it, whichever calls to the
    store fail. -/
theorem run_accounts (h : run options parsers faults mode s files analyzer = (.ok report, t)) :
    ∃ raw v, analyzer (Context.build options parsers files).document.text = .ok raw ∧
      Analysis.object? raw = some v ∧ report.Accounts v := by
  unfold run at h
  dsimp only at h
  obtain ⟨raw, v, hraw, hv, hvalidation, hrun⟩ := ofAnswer_ok h
  obtain ⟨hresources, hrelationships, haccepted⟩ := Analysis.ofJson_counts v
  have counts := Materialize.run_counts hrun
  rw [← hvalidation] at hresources hrelationships haccepted
  refine ⟨raw, v, hraw, hv, ?_, ?_, ?_, ?_⟩
  · rw [hresources, ← counts.nodes, Nat.add_assoc]
  · rw [hrelationships, ← counts.edges, Nat.add_assoc, Nat.add_assoc, Nat.add_assoc]
  · rw [Tally.total_resolutions]
    exact counts.ends
  · rw [Tally.total_resolutions, ← haccepted]
    exact counts.ends_le

/-- An answer with two resources, an entry that is none, and two relationships, the second to the resource `b`. -/
def partialAnswer : String :=
  "\x7b\"resources\": [[\"a\"], [\"b\"], 7], \"relationships\": [[\"a\", \"a\"], [\"a\", \"b\"]]\x7d"

/-- The node `b` is never stored. -/
def refusesB : Faults
  | _, .putNode n => if n.id = "b" then some .missingConfidence else none
  | _, _ => none

theorem run_accounts_partialAnswer : ∃ report t v,
    run .standard [] refusesB .merge (.start .empty) [] (fun _ => .ok partialAnswer) = (.ok report, t) ∧
      (report.validation.resourcesMalformed, report.tally.nodesFailed, report.tally.edgesUnresolved) = (1, 1, 1) ∧
      Analysis.object? partialAnswer = some v ∧ report.Accounts v := by
  have numbers : (run .standard [] refusesB .merge (.start .empty) [] fun _ => .ok partialAnswer).1.toOption.map
      (fun r => (r.validation.resourcesMalformed, r.tally.nodesFailed, r.tally.edgesUnresolved)) = some (1, 1, 1) := by
    decide +kernel
  cases hrun : run .standard [] refusesB .merge (.start .empty) [] fun _ => .ok partialAnswer with
  | mk outcome t =>
    rw [hrun] at numbers
    cases outcome with
    | error e => cases numbers
    | ok report =>
      obtain ⟨raw, v, hraw, hv, accounts⟩ := run_accounts hrun
      obtain rfl : partialAnswer = raw := Except.ok.inj hraw
      exact ⟨report, t, v, rfl, Option.some.inj numbers, hv, accounts⟩

/-! ### Imports without a report -/

/-- What stops an import: the analyzer fails, its answer is rejected, or the graph is to be cleared and cannot. -/
inductive Stops (faults : Faults) (mode : Mode) (s : Session) (answer : Except Error String) : Error → Prop where
  | analyzer {e : Error} : answer = .error e → Stops faults mode s answer e
  | response {raw : String} {e : Error} : answer = .ok raw → Analysis.ofResponse raw = .error e →
      Stops faults mode s answer e
  | clear {raw : String} {found : Analysis × Validation} {cause : Error} : answer = .ok raw →
      Analysis.ofResponse raw = .ok found → mode = .replace → (s.clear faults).1 = .error cause →
      Stops faults mode s answer (.notCleared cause)

section Failure
variable {context : Context} {answer : Except Error String} {e : Error}

theorem ofAnswer_error (h : ofAnswer faults mode s context answer = (.error e, t)) :
    Stops faults mode s answer e ∧ t.store = s.store := by
  unfold ofAnswer at h
  cases answer with
  | error e' =>
    cases h
    exact ⟨.analyzer rfl, rfl⟩
  | ok raw =>
    dsimp only [Except.bind] at h
    split at h
    · rename_i hresponse
      cases h
      exact ⟨.response rfl hresponse, rfl⟩
    · rename_i hresponse
      split at h
      · rename_i hrun
        cases h
        obtain ⟨hmode, cause, hclear, rfl⟩ := Materialize.run_error_iff.mp (congrArg Prod.fst hrun)
        exact ⟨.clear rfl hresponse hmode hclear, Materialize.run_error_store hrun⟩
      · cases h

theorem Stops.ofAnswer_eq (h : Stops faults mode s answer e) :
    (ofAnswer faults mode s context answer).1 = .error e := by
  unfold ofAnswer
  cases h with
  | analyzer hanswer =>
    rw [hanswer]
    rfl
  | response hanswer hresponse =>
    rw [hanswer]
    dsimp only [Except.bind]
    rw [hresponse]
  | @clear raw found cause hanswer hresponse hmode hclear =>
    have hrun (a : Analysis) : (Materialize.run faults Strategy.all mode s a).1 = .error (.notCleared cause) :=
      Materialize.run_error_iff.mpr ⟨hmode, cause, hclear, rfl⟩
    rw [hanswer]
    dsimp only [Except.bind]
    rw [hresponse]
    dsimp only
    split
    · rename_i heq
      cases (congrArg Prod.fst heq).symm.trans (hrun found.1)
      rfl
    · rename_i heq
      cases (congrArg Prod.fst heq).symm.trans (hrun found.1)

theorem stops_iff : (∃ e, Stops faults mode s answer e) ↔ (∃ e, answer = .error e) ∨
    (∃ raw e, answer = .ok raw ∧ Analysis.ofResponse raw = .error e) ∨
    (mode = .replace ∧ ∃ e, (s.clear faults).1 = .error e) := by
  constructor
  · rintro ⟨e, hanswer | ⟨hanswer, hresponse⟩ | ⟨-, -, hmode, hclear⟩⟩
    · exact Or.inl ⟨e, hanswer⟩
    · exact Or.inr (Or.inl ⟨_, e, hanswer, hresponse⟩)
    · exact Or.inr (Or.inr ⟨hmode, _, hclear⟩)
  · rintro (⟨e, hanswer⟩ | ⟨raw, e, hanswer, hresponse⟩ | ⟨hmode, cause, hclear⟩)
    · exact ⟨e, .analyzer hanswer⟩
    · exact ⟨e, .response hanswer hresponse⟩
    · -- The graph is cleared last, so an earlier cause goes before this one.
      cases hanswer : answer with
      | error e => exact ⟨e, .analyzer rfl⟩
      | ok raw =>
        cases hresponse : Analysis.ofResponse raw with
        | error e => exact ⟨e, .response rfl hresponse⟩
        | ok found => exact ⟨_, .clear rfl hresponse hmode hclear⟩

end Failure

/-- An import fails just if the analyzer fails, its answer is rejected, or the graph is to be cleared and cannot;
    and then it leaves the graph. One that merges an accepted answer ends with a report, whichever calls to the
    store fail. -/
theorem run_failure (options : ContextOptions) (parsers : List BlockParser) (faults : Faults) (mode : Mode)
    (s : Session) (files : List SourceFile) (analyzer : String → Except Error String) :
    let answer := analyzer (Context.build options parsers files).document.text
    let result := run options parsers faults mode s files analyzer
    ((∃ e, result.1 = .error e) ↔ (∃ e, answer = .error e) ∨
      (∃ raw e, answer = .ok raw ∧ Analysis.ofResponse raw = .error e) ∨
      (mode = .replace ∧ ∃ e, (s.clear faults).1 = .error e)) ∧
    ((∃ e, result.1 = .error e) → result.2.store = s.store) ∧
    (mode = .merge → ∀ raw found, answer = .ok raw → Analysis.ofResponse raw = .ok found →
      ∃ report, result.1 = .ok report) := by
  intro answer result
  have fails_iff : (∃ e, result.1 = .error e) ↔ ∃ e, Stops faults mode s answer e := by
    constructor
    · rintro ⟨e, he⟩
      exact ⟨e, (ofAnswer_error (Prod.ext he rfl)).1⟩
    · rintro ⟨e, he⟩
      exact ⟨e, he.ofAnswer_eq⟩
  refine ⟨fails_iff.trans stops_iff, ?_, ?_⟩
  · rintro ⟨e, he⟩
    exact (ofAnswer_error (Prod.ext he rfl)).2
  · rintro hmode raw found hanswer hresponse
    cases hresult : result.1 with
    | ok report => exact ⟨report, rfl⟩
    | error e =>
      rcases stops_iff.mp (fails_iff.mp ⟨e, hresult⟩) with ⟨e', he⟩ | ⟨raw', e', he, hr⟩ | ⟨hreplace, -⟩
      · rw [hanswer] at he
        cases he
      · rw [hanswer] at he
        cases he
        rw [hresponse] at hr
        cases hr
      · rw [hmode] at hreplace
        cases hreplace

/-- Every call fails. -/
def allFaults : Faults := fun _ _ => some .missingConfidence

/-- A graph with the one node `a`. -/
def oneNode : Store := Store.empty.putNode (.ofDescriptor ⟨some "a", none, none, none, .null⟩)

theorem run_failure_partialAnswer : ∃ found, Analysis.ofResponse partialAnswer = .ok found ∧
    (∃ e, (run .standard [] allFaults .replace (.start oneNode) [] fun _ => .ok partialAnswer).1 = .error e) ∧
    (run .standard [] allFaults .replace (.start oneNode) [] fun _ => .ok partialAnswer).2.store = oneNode ∧
    ∃ report, (run .standard [] allFaults .merge (.start oneNode) [] fun _ => .ok partialAnswer).1 = .ok report := by
  have accepted : (Analysis.ofResponse partialAnswer).toOption.isSome = true := by decide +kernel
  cases hfound : Analysis.ofResponse partialAnswer with
  | error e =>
    rw [hfound] at accepted
    cases accepted
  | ok found =>
    obtain ⟨fails_iff, leaves, -⟩ :=
      run_failure .standard [] allFaults .replace (.start oneNode) [] fun _ => .ok partialAnswer
    obtain ⟨-, -, reports⟩ := run_failure .standard [] allFaults .merge (.start oneNode) [] fun _ => .ok partialAnswer
    have fails := fails_iff.mpr (Or.inr (Or.inr ⟨rfl, .missingConfidence, rfl⟩))
    exact ⟨found, rfl, fails, leaves fails, reports rfl partialAnswer found rfl hfound⟩

/-! ### What an import stores -/

section Stored
variable {raw : String} {found : Analysis × Validation}

/-- The graph after an import where no call fails. -/
def storedBy (mode : Mode) (g : Store) (a : Analysis) : Store :=
  match mode with
  | .replace => Materialize.graphOf Strategy.all a
  | .merge => Materialize.graphOver Strategy.all g a

theorem storedBy_storedBy (g : Store) (a : Analysis) : storedBy mode (storedBy mode g a) a = storedBy mode g a := by
  cases mode with
  | replace => rfl
  | merge => exact Materialize.graphOver_graphOver Strategy.all g a

theorem materialize_stores (mode : Mode) {a : Analysis} (ha : a.Valid) (s : Session) :
    (∃ tally, (Materialize.run noFaults Strategy.all mode s a).1 = .ok tally) ∧
      (Materialize.run noFaults Strategy.all mode s a).2.store = storedBy mode s.store a := by
  cases mode with
  | replace => exact Materialize.run_replace_store Strategy.all ha s
  | merge =>
    obtain ⟨t, hrun, hstore⟩ := Materialize.run_merge Strategy.all ha s
    rw [hrun]
    exact ⟨⟨_, rfl⟩, hstore⟩

/-- An import of an accepted answer, where no call fails, ends with a report and stores the accepted resources and
    relationships; one that replaces the graph leaves the last of each id and of each key. The same import once more
    leaves the same graph. -/
theorem run_stores (hanswer : analyzer (Context.build options parsers files).document.text = .ok raw)
    (hresponse : Analysis.ofResponse raw = .ok found) :
    (∃ report, (run options parsers noFaults mode s files analyzer).1 = .ok report) ∧
      (run options parsers noFaults mode s files analyzer).2.store = storedBy mode s.store found.1 ∧
      (mode = .replace →
        Materialize.Holds Strategy.all found.1 (run options parsers noFaults mode s files analyzer).2.store) ∧
      (run options parsers noFaults mode (run options parsers noFaults mode s files analyzer).2 files analyzer).2.store =
        (run options parsers noFaults mode s files analyzer).2.store := by
  have hvalid : found.1.Valid := Analysis.ofResponse_valid hresponse
  have stores (s : Session) : (∃ report, (run options parsers noFaults mode s files analyzer).1 = .ok report) ∧
      (run options parsers noFaults mode s files analyzer).2.store = storedBy mode s.store found.1 := by
    obtain ⟨⟨tally, htally⟩, hstore⟩ := materialize_stores mode hvalid s
    unfold run ofAnswer
    dsimp only
    rw [hanswer]
    dsimp only [Except.bind]
    rw [hresponse]
    dsimp only
    split
    · rename_i heq
      rw [heq] at htally
      cases htally
    · rename_i heq
      rw [heq] at hstore
      exact ⟨⟨_, rfl⟩, hstore⟩
  refine ⟨(stores s).1, (stores s).2, ?_, ?_⟩
  · rintro rfl
    rw [(stores s).2]
    exact Materialize.graphOf_holds hvalid
  · rw [(stores _).2, (stores s).2, storedBy_storedBy]

end Stored

end Import

end ResourceGraph
