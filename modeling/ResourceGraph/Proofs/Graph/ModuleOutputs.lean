import ResourceGraph.Proofs.Graph.ExactIds
import ResourceGraph.Proofs.Text.Cut

/-! # References to the outputs of modules

The address of an output of a module is `module.N.p`. Where no node has this address, neither as its id nor as
its type and its name, the search goes by the name of the module alone: it gives the node with the least id among
all those with `N` in their type or their name. The module itself is one of them, so the reference leads somewhere;
it leads to the module unless a node with a lesser id has `N` in its type or its name (`history_moduleOutput`). -/

namespace ResourceGraph
open Store Text

/-! ## Addresses -/

/-- The address of an output of a module. -/
def outputAddress (name output : String) : String := "module." ++ name ++ "." ++ output

section Addresses
variable {name output : String}

theorem outputAddress_toList :
    (outputAddress name output).toList = "module".toList ++ '.' :: (name.toList ++ '.' :: output.toList) := by
  simp [outputAddress]

theorem outputAddress_nonempty : ¬(outputAddress name output).isEmpty = true := by
  simp [outputAddress]

/-- As a type and a name, the address is read up to its first point. -/
theorem Strategy.typeAndName?_outputAddress :
    Strategy.typeAndName? (outputAddress name output) = some ("module", name ++ "." ++ output) := by
  obtain ⟨c, cs, hcons⟩ : ∃ c cs, name.toList ++ '.' :: output.toList = c :: cs :=
    List.exists_cons_of_ne_nil (by simp)
  have hname : name ++ "." ++ output = String.ofList (c :: cs) := by
    rw [← hcons]
    simp [← String.toList_inj]
  unfold Strategy.typeAndName?
  rw [outputAddress_toList, splitOnce_append (by decide), hcons, hname]
  rfl

theorem Strategy.moduleName?_outputAddress (hdot : '.' ∉ name.toList) :
    Strategy.moduleName? (outputAddress name output) = some name := by
  have haddress : (outputAddress name output).toList =
      "module.".toList ++ (name.toList ++ '.' :: output.toList) := by simp [outputAddress]
  have htake : (name.toList ++ '.' :: output.toList).takeWhile (· ≠ '.') = name.toList :=
    takeWhile_append_of_stop (fun c hc => by simpa using fun heq : c = '.' => hdot (heq ▸ hc)) (by simp)
  unfold Strategy.moduleName?
  rw [haddress, dropWord?_append, Option.map_some, htake, String.ofList_toList]

end Addresses

/-! ## Names in nodes -/

/-- A text stands in the type or in the name of a node. -/
def Node.Mentions (n : Node) (word : String) : Prop :=
  word.toList <:+: n.type.toList ∨ word.toList <:+: n.name.toList

/-- The node of a module. -/
structure Node.IsModule (n : Node) (name : String) : Prop where
  id : n.id = "module." ++ name
  type : n.type = "module"
  name : n.name = name

theorem Node.IsModule.mentions {n : Node} {name : String} (h : n.IsModule name) : n.Mentions name := by
  unfold Node.Mentions
  rw [h.name]
  exact Or.inr List.infix_rfl

namespace Store
variable {g : Store} {m n : Node} {name output ref : String}

theorem findFuzzy?_eq_some (hg : g.Ordered) (hne : name ≠ "") :
    g.findFuzzy? name = some n ↔ g.Least (·.Mentions name) n := by
  unfold findFuzzy?
  rw [if_neg (by simpa using hne)]
  refine hg.find?_least fun k => ?_
  rw [Bool.or_eq_true, contains_iff, contains_iff]
  rfl

/-- Some node has the address of an output, as its id or as its type and its name. -/
def HasOutput (g : Store) (name output : String) : Prop :=
  g.HasNode (outputAddress name output) ∨ ∃ n ∈ g.nodes, n.type = "module" ∧ n.name = name ++ "." ++ output

/-- Where no node has the address, no way but the last one finds anything. -/
theorem find?_outputAddress (hex : g.Exact) (hdot : '.' ∉ name.toList) (href : trim ref = outputAddress name output)
    (hno : ¬g.HasOutput name output) :
    Endpoint.find? Strategy.all g ref = (g.findFuzzy? name).map (·, .moduleFuzzy) := by
  have hgiven : g.findByResourceId? (outputAddress name output) = none := by
    refine List.find?_eq_none.mpr fun k hk hid => hno (Or.inl ⟨k, hk, ?_⟩)
    have hid : k.resourceId = some (outputAddress name output) := by simpa using hid
    rcases (hex k hk).given with hnone | hsome
    · rw [hnone] at hid
      cases hid
    · rw [hsome] at hid
      exact Option.some.inj hid
  have hown : g.findById? (outputAddress name output) = none :=
    List.find?_eq_none.mpr fun k hk hid => hno (Or.inl ⟨k, hk, by simpa using hid⟩)
  have hnamed : g.findByTypeAndName? "module" (name ++ "." ++ output) = none :=
    List.find?_eq_none.mpr fun k hk hkey => hno (Or.inr ⟨k, hk, by simpa using hkey⟩)
  unfold Endpoint.find? Endpoint.firstOf? Strategy.all
  rw [href, if_neg outputAddress_nonempty]
  simp only [List.findSome?_cons, List.findSome?_nil, Strategy.find?, hgiven, hown, Option.map_none,
    Strategy.typeAndName?_outputAddress, Strategy.moduleName?_outputAddress hdot, Option.bind_some, hnamed]
  cases g.findFuzzy? name <;> rfl

end Store

namespace Materialize

/-! ## Histories -/

/-- In every store of a history, the address of an output of a stored module leads to the node with the least id
    among those with the name of the module in their type or their name, if no node has this address. That node
    is the module itself just if no node with a lesser id has its name in its type or its name. -/
theorem history_moduleOutput (faults : Faults) (jobs : List Job) :
    ∀ g ∈ (history faults (.start .empty) jobs).stores, ∀ m ∈ g.nodes, ∀ name output ref, m.IsModule name →
      name ≠ "" → '.' ∉ name.toList → trim ref = outputAddress name output → ¬g.HasOutput name output →
      ∃ n, g.Least (·.Mentions name) n ∧ Endpoint.FoundBy g ref n .moduleFuzzy ∧
        (n = m ↔ ∀ k ∈ g.nodes, k.Mentions name → ¬k.id < m.id) := by
  intro g hg m hm name output ref hmodule hne hdot href hno
  have ordered := (history_sound faults jobs g hg).ordered
  obtain ⟨n, hleast⟩ := ordered.exists_least (P := (·.Mentions name)) hm hmodule.mentions
  refine ⟨n, hleast, Endpoint.foundBy_of_find? ?_, hleast.eq_iff hm hmodule.mentions⟩
  rw [find?_outputAddress (history_exact faults jobs g hg) hdot href hno,
    (findFuzzy?_eq_some ordered hne).mpr hleast]
  rfl

/-- The module `net`. -/
def netModule : ResourceDescriptor := ⟨none, some "module", some "net", none, .object []⟩

/-- The module, and a resource whose name has the one of the module in it and whose id is the greater one. -/
def netAndSubnet : Analysis := ⟨[netModule, ⟨none, some "zone", some "subnet", none, .object []⟩], []⟩

theorem history_moduleOutput_netAndSubnet :
    Endpoint.FoundBy (history noFaults (.start .empty) [⟨Strategy.all, .merge, netAndSubnet⟩]).store "module.net.id"
      (.ofDescriptor netModule) .moduleFuzzy := by
  have least : ∀ k ∈ (history noFaults (.start .empty) [⟨Strategy.all, .merge, netAndSubnet⟩]).store.nodes,
      ¬k.id < (Node.ofDescriptor netModule).id := by decide +kernel
  obtain ⟨n, -, hfound, heq⟩ := history_moduleOutput noFaults [⟨Strategy.all, .merge, netAndSubnet⟩] _
    List.mem_cons_self (.ofDescriptor netModule) (by decide +kernel) "net" "id" "module.net.id"
    ⟨by decide +kernel, by decide +kernel, by decide +kernel⟩ (by decide) (by decide) (by decide +kernel)
    (by unfold HasOutput HasNode; decide +kernel)
  rw [heq.mpr fun k hk _ => least k hk] at hfound
  exact hfound

/-! ## Where another node is reached -/

/-- Each address of an output of a stored module that no node has leads to the module. -/
def OutputsReachModules (g : Store) : Prop :=
  ∀ m ∈ g.nodes, ∀ name output, m.IsModule name → '.' ∉ name.toList → ¬g.HasOutput name output →
    Endpoint.idOf? Strategy.all g (outputAddress name output) = some m.id

/-- The module, and a resource of the same name whose id is the lesser one. -/
def netAndVpc : Analysis := ⟨[⟨none, some "aws_vpc", some "net", none, .object []⟩, netModule], []⟩

/-- A module without a name. -/
def unnamedModule : ResourceDescriptor := ⟨some "module.", some "module", none, none, .object []⟩

/-- The resource is reached in place of the module, and the module without a name is not reached at all. -/
theorem not_outputsReachModules :
    ¬OutputsReachModules (run noFaults Strategy.all .replace (.start .empty) netAndVpc).2.store ∧
      ¬OutputsReachModules (run noFaults Strategy.all .replace (.start .empty) ⟨[unnamedModule], []⟩).2.store := by
  constructor
  · intro h
    have hvpc : Endpoint.idOf? Strategy.all (run noFaults Strategy.all .replace (.start .empty) netAndVpc).2.store
        (outputAddress "net" "id") = some "aws_vpc.net" := by decide +kernel
    have hreach := h (.ofDescriptor netModule) (by decide +kernel) "net" "id"
      ⟨by decide +kernel, by decide +kernel, by decide +kernel⟩ (by decide)
      (by unfold HasOutput HasNode; decide +kernel)
    rw [hvpc] at hreach
    exact absurd hreach (by decide +kernel)
  · intro h
    have hnone : Endpoint.idOf? Strategy.all
        (run noFaults Strategy.all .replace (.start .empty) ⟨[unnamedModule], []⟩).2.store
        (outputAddress "" "id") = none := by decide +kernel
    have hreach := h (.ofDescriptor unnamedModule) (by decide +kernel) "" "id"
      ⟨by decide +kernel, by decide +kernel, by decide +kernel⟩ (by decide)
      (by unfold HasOutput HasNode; decide +kernel)
    rw [hnone] at hreach
    cases hreach

end Materialize

end ResourceGraph
