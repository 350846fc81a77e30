import Mathlib.Data.List.Sort

/-!
The node registry as the cluster's operations read it (proc_cluster.go):
`Endpoints` and the target resolution that `Put`, `Get`, `Delete`, `stress` and
`WatchPut` repeat verbatim. A node is seen through `Endpoint()` and `IsActive()`,
whatever its variant. The iteration over a Go map has no fixed order: a list of
nodes is the registry in the order one iteration meets it, and the separate
iteration over `nameToEndpoint` is a list `order` of its keys. The requests made
once the target is known (the client, the RPC, the stream messages) are left out.
-/

namespace EtcdPlay.Cluster

/-- What `Endpoints` reads of a node: `nd.Endpoint()` and `nd.IsActive()`. -/
structure Entry where
  name : String
  endpoint : String
  active : Bool
  deriving DecidableEq, Repr

/-- `defaultCluster.Endpoints`: the sorted endpoints of the active nodes, and the
endpoint of every node by name. -/
def endpoints (nodes : List Entry) : List String × List (String × String) :=
  (@List.insertionSort String String.le String.decLE
      ((nodes.filter fun nd => nd.endpoint != "" && nd.active).map Entry.endpoint),
    nodes.map fun nd => (nd.name, nd.endpoint))

/-- `if name == "" { for n := range nameToEndpoint { name = n; break } }`. -/
def pickName (name : String) (order : List String) : String :=
  if name = "" then order.headD "" else name

/-- The target of `Put`, `Get` and `Delete`: the name they log under and the one
endpoint they dial, or the error for a name that is not registered. -/
def target (nodes : List Entry) (order : List String) (name : String) :
    Except String (String × List String) :=
  let name := pickName name order
  match (endpoints nodes).2.lookup name with
  | some v => .ok (name, [v])
  | none => .error (name ++ " does not exist")

/-- The target of `stress` and `WatchPut`, which keep the sorted active endpoints for
a name that is not registered. -/
def targetOrActive (nodes : List Entry) (order : List String) (name : String) :
    String × List String :=
  let name := pickName name order
  match (endpoints nodes).2.lookup name with
  | some v => (name, [v])
  | none => (name, (endpoints nodes).1)

theorem lookup_endpoints {nodes : List Entry} (distinct : (nodes.map Entry.name).Nodup)
    {nd : Entry} (mem : nd ∈ nodes) : (endpoints nodes).2.lookup nd.name = some nd.endpoint := by
  induction nodes with
  | nil => cases mem
  | cons hd tl ih =>
    rw [List.map_cons, List.nodup_cons] at distinct
    show ((hd.name, hd.endpoint) :: (endpoints tl).2).lookup nd.name = _
    rcases List.mem_cons.mp mem with rfl | mem
    · exact List.lookup_cons_self
    · have other : (nd.name == hd.name) = false :=
        beq_false_of_ne fun same => distinct.1 (same ▸ List.mem_map_of_mem _ mem)
      rw [List.lookup_cons, other]
      exact ih distinct.2 mem

theorem lookup_endpoints_absent {nodes : List Entry} {name : String}
    (absent : name ∉ nodes.map Entry.name) : (endpoints nodes).2.lookup name = none := by
  induction nodes with
  | nil => rfl
  | cons hd tl ih =>
    rw [List.map_cons, List.mem_cons, not_or] at absent
    show ((hd.name, hd.endpoint) :: (endpoints tl).2).lookup name = _
    rw [List.lookup_cons, beq_false_of_ne absent.1]
    exact ih absent.2

/-- A name given to `Put`, `Get` or `Delete` targets the endpoint of the node of that
name, and so does one given to `stress` or `WatchPut`. -/
theorem target_registered {nodes : List Entry} (distinct : (nodes.map Entry.name).Nodup)
    {nd : Entry} (mem : nd ∈ nodes) (named : nd.name ≠ "") (order : List String) :
    target nodes order nd.name = .ok (nd.name, [nd.endpoint]) ∧
      targetOrActive nodes order nd.name = (nd.name, [nd.endpoint]) := by
  simp [target, targetOrActive, pickName, named, lookup_endpoints distinct mem]

/-- A name no node has is refused by `Put`, `Get` and `Delete` with the error that
names it, while `stress` and `WatchPut` send to every active endpoint instead. -/
theorem target_unregistered {nodes : List Entry} {name : String} (named : name ≠ "")
    (absent : name ∉ nodes.map Entry.name) (order : List String) :
    target nodes order name = .error (name ++ " does not exist") ∧
      targetOrActive nodes order name = (name, (endpoints nodes).1) := by
  simp [target, targetOrActive, pickName, named, lookup_endpoints_absent absent]

def twoNodes : List Entry := [⟨"a", "localhost:2379", true⟩, ⟨"b", "localhost:22379", false⟩]

/-- With an empty name, all five operations go to the node the iteration over
`nameToEndpoint` meets first, active or not; and for every node some iteration
order meets it first. -/
theorem empty_name_targets_first_key (nodes : List Entry) (distinct : (nodes.map Entry.name).Nodup)
    (order : List String) (keys : order.Perm (nodes.map Entry.name)) (nonempty : nodes ≠ []) :
    (∃ nd ∈ nodes, order.head? = some nd.name ∧ target nodes order "" = .ok (nd.name, [nd.endpoint]) ∧
      targetOrActive nodes order "" = (nd.name, [nd.endpoint])) ∧
    ∀ nd ∈ nodes, ∃ order', order'.Perm (nodes.map Entry.name) ∧ order'.head? = some nd.name ∧
      target nodes order' "" = .ok (nd.name, [nd.endpoint]) := by
  constructor
  · obtain ⟨first, rest, rfl⟩ : ∃ first rest, order = first :: rest := by
      cases order with
      | nil => exact absurd (List.map_eq_nil_iff.mp keys.symm.eq_nil) nonempty
      | cons first rest => exact ⟨first, rest, rfl⟩
    obtain ⟨nd, mem, rfl⟩ := List.mem_map.mp (keys.subset (List.mem_cons_self _ _))
    refine ⟨nd, mem, rfl, ?_, ?_⟩ <;>
      simp [target, targetOrActive, pickName, lookup_endpoints distinct mem]
  · intro nd mem
    exact ⟨_, (List.perm_cons_erase (List.mem_map_of_mem Entry.name mem)).symm, rfl,
      by simp [target, pickName, lookup_endpoints distinct mem]⟩

theorem empty_name_targets_two_nodes :
    ∃ nd ∈ twoNodes, ["b", "a"].head? = some nd.name ∧
      target twoNodes ["b", "a"] "" = .ok (nd.name, [nd.endpoint]) :=
  let ⟨nd, mem, first, put, _⟩ :=
    (empty_name_targets_first_key twoNodes (by decide) ["b", "a"] (.swap _ _ _) (by decide)).1
  ⟨nd, mem, first, put⟩

/-- Node `a` is active and `b` is not, and the iteration over `nameToEndpoint` meets
`b` first: `Put` with an empty name dials `b`'s endpoint, which is no active node's. -/
theorem empty_name_targets_inactive :
    (endpoints twoNodes).1 = ["localhost:2379"] ∧ ["b", "a"].Perm (twoNodes.map Entry.name) ∧
      target twoNodes ["b", "a"] "" = .ok ("b", ["localhost:22379"]) :=
  ⟨by decide, List.Perm.swap _ _ _, rfl⟩

end EtcdPlay.Cluster
