import ResourceGraph.Proofs.Graph.Maps
import ResourceGraph.Proofs.Json.Writer
import ResourceGraph.Proofs.Response

/-! # The properties of a node

A node has the properties of its resource as a text. They were read as part of a larger value, so the text does not
run into the limit of nesting, and it is read as the same properties again, also from a stored node. -/

namespace ResourceGraph
open Json Sorted

namespace Analysis
variable {n : Nat} {v : Json} {keys : List String} {field : String} {fields : Table Json} {d : ResourceDescriptor}
  {raw : String} {found : Analysis × Validation}

/-! ## Levels of an answer -/

theorem fits_entries (h : v.Fits (n + 2)) : ∀ entry ∈ entries v field, entry.Fits n := by
  intro entry hentry
  unfold entries at hentry
  split at hentry
  · rename_i items hfield
    unfold Json.field? at hfield
    split at hfield
    · exact (Fits.find? h.of_object hfield).of_list entry hentry
    · cases hfield
  · cases hentry

/-- The fields of a descriptor are parts of it, however it is written. -/
theorem fits_fieldsOf (h : v.Fits (n + 1)) (hfields : fieldsOf? keys v = some fields) : ∀ f ∈ fields, f.2.Fits n := by
  unfold fieldsOf? at hfields
  split at hfields
  · cases hfields
    exact h.of_object
  · obtain ⟨-, htable⟩ := Option.ite_none_right_eq_some.mp hfields
    cases htable
    exact Fits.ofList fun f hf => h.of_list f.2 (List.of_mem_zip hf).2
  · cases hfields

theorem fits_ofJson (h : v.Fits (n + 2)) (hd : ResourceDescriptor.ofJson? v = some d) : d.properties.Fits (n + 1) := by
  unfold ResourceDescriptor.ofJson? at hd
  obtain ⟨fields, hfields, hd⟩ := Option.bind_eq_some_iff.mp hd
  obtain ⟨id, -, hd⟩ := Option.bind_eq_some_iff.mp hd
  obtain ⟨type, -, hd⟩ := Option.bind_eq_some_iff.mp hd
  obtain ⟨name, -, hd⟩ := Option.bind_eq_some_iff.mp hd
  obtain ⟨provider, -, hd⟩ := Option.bind_eq_some_iff.mp hd
  cases hd
  cases hfind : fields.find? "properties" with
  | none => exact .object .nil nofun
  | some w => exact Fits.find? (fits_fieldsOf h hfields) hfind

theorem fits_properties (h : ofResponse raw = .ok found) (hd : d ∈ found.1.resources) : d.properties.Fits maxDepth := by
  obtain ⟨_, J, _, fields, -, -, -, hread, rfl⟩ := ofResponse_eq_ok_iff.mp h
  obtain ⟨entry, hentry, hresource⟩ := (siftedFrom_sift resource? _).exists_entry hd
  obtain ⟨hjson, -⟩ := Option.filter_eq_some_iff.mp hresource
  have hlevels : entry.Fits 125 := fits_entries (fits_of_read hread) entry hentry
  exact (fits_ofJson hlevels hjson).mono (by decide)

end Analysis

namespace Node
variable {raw : String} {found : Analysis × Validation} {d : ResourceDescriptor}

/-- The properties of an accepted resource are read from its node, and from the node that is found under its id once
    it is stored. -/
theorem propertiesJson_ofDescriptor (h : Analysis.ofResponse raw = .ok found) (hd : d ∈ found.1.resources)
    (hexact : d.properties.isExact = true) :
    (ofDescriptor d).propertiesJson = d.properties ∧ ∀ s : Session,
      (s.putNode noFaults (ofDescriptor d)).1 = .ok () ∧
        ∃ n, ((s.putNode noFaults (ofDescriptor d)).2.findById noFaults (ofDescriptor d).id).1 = .ok (some n) ∧
          n.propertiesJson = d.properties := by
  have hread : (ofDescriptor d).propertiesJson = d.properties := by
    have hcompact : Json.read? (ofDescriptor d).properties = some d.properties :=
      read_compact (Analysis.fits_properties h hd) hexact
    rw [propertiesJson, hcompact]
    rfl
  refine ⟨hread, fun s => ⟨rfl, ofDescriptor d, ?_, hread⟩⟩
  have hfind := congrFun (congrArg Maps.node? (s.store.maps_change (.putNode (ofDescriptor d)))) (ofDescriptor d).id
  exact congrArg Except.ok (hfind.trans (if_pos rfl))

/-- A resource with a list in an object. The keys come out of order, and one character of a text is escaped. -/
def nestedProperties : String :=
  "\x7b\"resources\": [\x7b\"name\": \"main\", \"properties\": " ++
    "\x7b\"ports\": [80, -9223372036854775808, null], \"label\": \"a\\tb\"\x7d\x7d]\x7d"

theorem propertiesJson_ofDescriptor_nestedProperties : ∃ found d, Analysis.ofResponse nestedProperties = .ok found ∧
    d ∈ found.1.resources ∧ d.properties.isExact = true ∧
    d.properties.compact = "\x7b\"label\":\"a\\tb\",\"ports\":[80,-9223372036854775808,null]\x7d" ∧
    (ofDescriptor d).propertiesJson = d.properties := by
  let expected := "\x7b\"label\":\"a\\tb\",\"ports\":[80,-9223372036854775808,null]\x7d"
  have haccepted : (Analysis.ofResponse nestedProperties).toOption.any (fun found =>
      found.1.resources.any fun d => d.properties.isExact && d.properties.compact == expected) = true := by
    decide +kernel
  obtain ⟨found, hfound, hd⟩ := (Option.any_eq_true _ _).mp haccepted
  obtain ⟨d, hmem, hd⟩ := List.any_eq_true.mp hd
  obtain ⟨hexact, hcompact⟩ := (Bool.and_eq_true _ _).mp hd
  have hok : Analysis.ofResponse nestedProperties = .ok found := by
    cases h : Analysis.ofResponse nestedProperties with
    | error e =>
      rw [h] at hfound
      cases hfound
    | ok found' =>
      rw [h] at hfound
      cases hfound
      rfl
  exact ⟨found, d, hok, hmem, hexact, beq_iff_eq.mp hcompact, (propertiesJson_ofDescriptor hok hmem hexact).1⟩

end Node

end ResourceGraph
