import EtcdPlay.LogStream
import Mathlib.Logic.Function.Basic

/-!
`NewCluster` (proc_cluster.go). With no flags it returns a nil `Cluster` and a nil
error. Otherwise it applies the options, checks that a `WebRemote` cluster given agent
endpoints has one per flag, calls `CombineFlags`, and builds a node per flag into
`nameToNode`, under the flag's name. A terminal or local node gets the next colour
index, set back to zero once it reaches `len(colorsTerminal)`, and the address of one
local variable, `maxProcNameLength`, which the loop raises to the longest name (in
bytes, as Go's `len`). A remote node gets an agent for the endpoint at its own index.
`CombineFlags` and `client.NewAgent` are not in the sources: they are parameters,
each failing with its error text or succeeding, and `CombineFlags` is taken to keep
the names.
-/

namespace EtcdPlay.NewCluster
open LogStream

/-- The values of `NodeType`, a Go `int`. -/
def terminal : Int := 0

def webLocal : Int := 1

def webRemote : Int := 2

/-- The field of `Flags` that `NewCluster` reads. -/
structure Flags where
  name : String
  deriving DecidableEq, Repr

/-- `op`, the options of `NewCluster`. -/
structure Op where
  liveLog : Bool
  limitInterval : Int
  agentEndpoints : List String
  deriving DecidableEq, Repr

abbrev OpOption := Op → Op

def Op.apply (o : Op) (opts : List OpOption) : Op :=
  opts.foldl (fun o opt => opt o) o

def withLiveLog : OpOption := fun o => { o with liveLog := true }

def withLimitInterval (d : Int) : OpOption := fun o => { o with limitInterval := d }

def withAgentEndpoints (eps : List String) : OpOption := fun o => { o with agentEndpoints := eps }

/-- The nodes `NewCluster` builds, with the fields it sets: `pmaxProcNameLength` is
the address of the shared width, and a remote node's agent is named by its endpoint. -/
inductive Node where
  | terminal (flags : Flags) (programPath : String) (colorIdx : Int) (pmaxProcNameLength : Nat)
  | webLocal (flags : Flags) (programPath : String) (colorIdx : Int) (pmaxProcNameLength : Nat)
      (liveLog : Bool) (limitInterval : Int)
  | webRemoteClient (flags : Flags) (agent : String) (limitInterval : Int)
  deriving DecidableEq, Repr

/-- The registry `NewCluster` returns, with the value the shared width has then. -/
structure Cluster where
  nameToNode : String → Option Node
  maxProcNameLength : Int

/-- What a call returns: a value, an error, or a run-time panic. -/
inductive Result (α : Type) where
  | ok (value : α)
  | error (msg : String)
  | panic
  deriving DecidableEq, Repr

/-- The `switch opt` in the loop, for the flag `f` at index `i`. -/
def newNode (opt : Int) (programPath : String) (o : Op) (newAgent : String → Option String)
    (cell : Nat) (i : Nat) (colorIdx : Int) (f : Flags) : Result Node :=
  if opt = terminal then .ok (.terminal f programPath colorIdx cell)
  else if opt = webLocal then .ok (.webLocal f programPath colorIdx cell o.liveLog o.limitInterval)
  else if opt = webRemote then
    if o.agentEndpoints.length = 0 then .error "no agent endpoints found"
    else
      match o.agentEndpoints[i]? with
      | none => .panic
      | some endpoint =>
        match newAgent endpoint with
        | some err => .error err
        | none => .ok (.webRemoteClient f endpoint o.limitInterval)
  else .error ("NodeType " ++ toString opt ++ " is not implemented")

/-- The loop `for i, f := range fs` from index `i`, with the colour index, the width and
the registry built so far. -/
def build (opt : Int) (programPath : String) (o : Op) (newAgent : String → Option String)
    (cell : Nat) : Nat → Int → Int → (String → Option Node) → List Flags → Result Cluster
  | _, _, width, nameToNode, [] => .ok ⟨nameToNode, width⟩
  | i, colorIdx, width, nameToNode, f :: fs =>
    let colorIdx := if colorIdx ≥ colorsTerminal.length then 0 else colorIdx
    let width := if (f.name.utf8ByteSize : Int) > width then (f.name.utf8ByteSize : Int) else width
    match newNode opt programPath o newAgent cell i colorIdx f with
    | .ok ni => build opt programPath o newAgent cell (i + 1) (colorIdx + 1) width
        (Function.update nameToNode f.name (some ni)) fs
    | .error e => .error e
    | .panic => .panic

/-- `NewCluster(opt, programPath, fs, opts...)`, the shared width living at `cell`; `none`
is the nil `Cluster`. -/
def newCluster (opt : Int) (programPath : String) (fs : List Flags) (opts : List OpOption)
    (combineFlags : Bool → List Flags → Option String) (newAgent : String → Option String)
    (cell : Nat) : Result (Option Cluster) :=
  if fs.length = 0 then .ok none
  else
    let o := Op.apply ⟨false, 0, []⟩ opts
    if o.agentEndpoints.length > 0 ∧ opt = webRemote ∧ o.agentEndpoints.length ≠ fs.length then
      .error ("agent endpoints must be the same size of flags (" ++ toString o.agentEndpoints.length ++
        " != " ++ toString fs.length ++ ")")
    else
      match combineFlags (opt = webRemote) fs with
      | some err => .error err
      | none =>
        match build opt programPath o newAgent cell 0 0 0 (fun _ => none) fs with
        | .ok c => .ok (some c)
        | .error e => .error e
        | .panic => .panic

/-- The longest name of `fs`, in bytes: the width `NodeWebLocal.Write` and
`NodeTerminal.Write` pad every node's name to. -/
def maxNameLength : List Flags → Nat
  | [] => 0
  | f :: fs => max f.name.utf8ByteSize (maxNameLength fs)

/-- A node as `NodeWebLocal.Write` and `NodeTerminal` need it: its colour index is an
index of `colorsTerminal` and its width is the shared one at `cell`. -/
def Registered (cell : Nat) : Node → Prop
  | .terminal _ _ colorIdx p | .webLocal _ _ colorIdx p _ _ =>
      0 ≤ colorIdx ∧ colorIdx < colorsTerminal.length ∧ p = cell
  | .webRemoteClient _ _ _ => True

section Loop
variable {opt : Int} {programPath : String} {o : Op} {newAgent : String → Option String}
  {cell : Nat}

/-- A node the switch makes for a colour index in range is registered. -/
theorem newNode_registered {i : Nat} {colorIdx : Int} {f : Flags} {nd : Node}
    (low : 0 ≤ colorIdx) (high : colorIdx < colorsTerminal.length)
    (h : newNode opt programPath o newAgent cell i colorIdx f = .ok nd) : Registered cell nd := by
  unfold newNode at h
  split_ifs at h
  · cases h; exact ⟨low, high, rfl⟩
  · cases h; exact ⟨low, high, rfl⟩
  · split at h
    · cases h
    · split at h <;> cases h
      trivial

/-- The switch reads `agentEndpoints[i]` only when there are endpoints, so an index
below their number never panics. -/
theorem newNode_no_panic {i : Nat} {colorIdx : Int} {f : Flags}
    (inside : opt = webRemote → o.agentEndpoints ≠ [] → i < o.agentEndpoints.length) :
    newNode opt programPath o newAgent cell i colorIdx f ≠ .panic := by
  unfold newNode
  split_ifs with t l r empty
  · simp
  · simp
  · simp
  · have bound := inside r (List.length_pos.mp (by omega))
    simp only [List.getElem?_eq_getElem bound]
    split <;> simp
  · simp

/-- Along the loop, with the colour index kept in range, every node added is
registered, the width is the running maximum, and exactly the names seen so far are
keys. -/
theorem build_ok :
    ∀ (fs : List Flags) (i : Nat) (colorIdx width : Int) (nameToNode : String → Option Node)
      {c : Cluster}, 0 ≤ colorIdx → colorIdx ≤ colorsTerminal.length → 0 ≤ width →
      (∀ n nd, nameToNode n = some nd → Registered cell nd) →
      build opt programPath o newAgent cell i colorIdx width nameToNode fs = .ok c →
        (∀ n nd, c.nameToNode n = some nd → Registered cell nd) ∧
        c.maxProcNameLength = max width (maxNameLength fs) ∧
        ∀ n, (c.nameToNode n).isSome ↔ (nameToNode n).isSome ∨ n ∈ fs.map (·.name)
  | [], _, _, width, _, _, _, _, nonneg, registered, h => by
    cases h
    exact ⟨registered, show width = max width ((0 : Nat) : Int) by omega, by simp⟩
  | f :: fs, i, colorIdx, width, nameToNode, c, low, high, nonneg, registered, h => by
    simp only [build] at h
    split at h
    · rename_i nd made
      have wrapped : 0 ≤ (if colorIdx ≥ colorsTerminal.length then 0 else colorIdx) ∧
          (if colorIdx ≥ colorsTerminal.length then 0 else colorIdx) < colorsTerminal.length := by
        split_ifs <;> simp only [colorsTerminal, List.length] at * <;> omega
      obtain ⟨nodes, width', keys⟩ := build_ok fs _ _ _ _ (by omega) (by omega) (by split_ifs <;> omega)
        (fun n nd' found => by
          rw [Function.update_apply] at found
          split_ifs at found
          · cases found; exact newNode_registered wrapped.1 wrapped.2 made
          · exact registered n nd' found) h
      refine ⟨nodes, ?_, fun n => ?_⟩
      · rw [width', maxNameLength]
        split_ifs <;> omega
      · rw [keys, Function.update_apply]
        by_cases same : n = f.name <;> simp [same]
    · cases h
    · cases h

/-- With the endpoints counted against the flags left, the loop never panics. -/
theorem build_no_panic :
    ∀ (fs : List Flags) (i : Nat) (colorIdx width : Int) (nameToNode : String → Option Node),
      (opt = webRemote → o.agentEndpoints ≠ [] → i + fs.length = o.agentEndpoints.length) →
      build opt programPath o newAgent cell i colorIdx width nameToNode fs ≠ .panic
  | [], _, _, _, _, _ => by simp [build]
  | f :: fs, i, colorIdx, width, nameToNode, count => by
    have later : opt = webRemote → o.agentEndpoints ≠ [] → i + 1 + fs.length = o.agentEndpoints.length :=
      fun remote any => by have := count remote any; simp only [List.length_cons] at this; omega
    simp only [build]
    split
    · exact build_no_panic fs _ _ _ _ later
    · simp
    · exact absurd ‹_› (newNode_no_panic fun remote any => by have := later remote any; omega)

end Loop

section Call
variable (opt : Int) (programPath : String) (opts : List OpOption)
  (combineFlags : Bool → List Flags → Option String) (newAgent : String → Option String) (cell : Nat)

/-- With flags, `NewCluster` returns an error or what its loop built, which is never a
panic. -/
theorem newCluster_of_flags {fs : List Flags} (nonempty : fs ≠ []) :
    (∃ msg, newCluster opt programPath fs opts combineFlags newAgent cell = .error msg) ∨
    ∃ c, newCluster opt programPath fs opts combineFlags newAgent cell = .ok (some c) ∧
      build opt programPath (Op.apply ⟨false, 0, []⟩ opts) newAgent cell 0 0 0 (fun _ => none) fs = .ok c := by
  have count : opt = webRemote → (Op.apply ⟨false, 0, []⟩ opts).agentEndpoints ≠ [] →
      ¬((Op.apply ⟨false, 0, []⟩ opts).agentEndpoints.length > 0 ∧ opt = webRemote ∧
        (Op.apply ⟨false, 0, []⟩ opts).agentEndpoints.length ≠ fs.length) →
      0 + fs.length = (Op.apply ⟨false, 0, []⟩ opts).agentEndpoints.length := fun remote any checked => by
    have := List.length_pos.mpr any
    omega
  unfold newCluster
  rw [if_neg (by simpa using nonempty)]
  dsimp only
  split_ifs with mismatch
  · exact .inl ⟨_, rfl⟩
  · split
    · exact .inl ⟨_, rfl⟩
    · split
      · exact .inr ⟨_, rfl, ‹_›⟩
      · exact .inl ⟨_, rfl⟩
      · exact absurd ‹_› (build_no_panic _ _ _ _ _ fun remote any => count remote any mismatch)

/-- A registry `NewCluster` returns holds a node under each flag's name and no other, every
terminal or local node with a colour index of `colorsTerminal` and the shared width,
and the width is the longest name. -/
theorem newCluster_ok {fs : List Flags} {c : Cluster}
    (h : newCluster opt programPath fs opts combineFlags newAgent cell = .ok (some c)) :
    (∀ n nd, c.nameToNode n = some nd → Registered cell nd) ∧
      c.maxProcNameLength = maxNameLength fs ∧ ∀ n, (c.nameToNode n).isSome ↔ n ∈ fs.map (·.name) := by
  by_cases empty : fs = []
  · subst empty
    cases h
  rcases newCluster_of_flags opt programPath opts combineFlags newAgent cell empty with
    ⟨msg, failed⟩ | ⟨c', made, built⟩
  · rw [failed] at h
    cases h
  · rw [made] at h
    cases h
    obtain ⟨nodes, width, keys⟩ := build_ok fs 0 0 0 (fun _ => none) (Int.le_refl 0) (by omega) (Int.le_refl 0)
      (fun _ _ none => by cases none) built
    exact ⟨nodes, by omega, fun n => by simp [keys]⟩

/-- Whatever the node type, the flags and the options, `NewCluster` never panics (the
endpoint it reads for a remote node is always there), returns a nil `Cluster` exactly
when there is no flag, and otherwise returns an error or a registry of the flags' names
whose terminal and local nodes have colour indices of `colorsTerminal` and share one
width, the longest name. -/
theorem newCluster_builds_registry (fs : List Flags) :
    newCluster opt programPath fs opts combineFlags newAgent cell ≠ .panic ∧
    (newCluster opt programPath fs opts combineFlags newAgent cell = .ok none ↔ fs = []) ∧
    ∀ c, newCluster opt programPath fs opts combineFlags newAgent cell = .ok (some c) →
      (∀ n nd, c.nameToNode n = some nd → Registered cell nd) ∧
      c.maxProcNameLength = maxNameLength fs ∧ ∀ n, (c.nameToNode n).isSome ↔ n ∈ fs.map (·.name) := by
  refine ⟨?_, ?_, fun c h => newCluster_ok opt programPath opts combineFlags newAgent cell h⟩
  all_goals by_cases empty : fs = []
  all_goals try (subst empty; simp [newCluster])
  all_goals
    rcases newCluster_of_flags opt programPath opts combineFlags newAgent cell empty with
      ⟨msg, h⟩ | ⟨c, h, -⟩ <;> simp [h, empty]

/-- With no flags `NewCluster` returns a nil `Cluster` and a nil error, neither an error
nor a registry, here for local nodes with live logs. -/
theorem newCluster_without_flags :
    newCluster webLocal "etcd" [] [withLiveLog] (fun _ _ => none) (fun _ => none) 0 = .ok none :=
  rfl

/-- Six local nodes, the sixth named `n66`. -/
def sixFlags : List Flags := [⟨"n1"⟩, ⟨"n2"⟩, ⟨"n3"⟩, ⟨"n4"⟩, ⟨"n5"⟩, ⟨"n66"⟩]

/-- The sixth node is back at the first colour, and all read the width 3. -/
theorem newCluster_of_six_nodes :
    maxNameLength sixFlags = 3 ∧
      ∃ c, newCluster webLocal "etcd" sixFlags [] (fun _ _ => none) (fun _ => none) 7 = .ok (some c) ∧
        c.nameToNode "n66" = some (.webLocal ⟨"n66"⟩ "etcd" 0 7 false 0) ∧
        ((∀ n nd, c.nameToNode n = some nd → Registered 7 nd) ∧
          c.maxProcNameLength = maxNameLength sixFlags ∧ ∀ n, (c.nameToNode n).isSome ↔ n ∈ sixFlags.map (·.name)) :=
  ⟨rfl, _, rfl, rfl,
    (newCluster_builds_registry webLocal "etcd" [] (fun _ _ => none) (fun _ => none) 7 sixFlags).2.2 _ rfl⟩

end Call

end EtcdPlay.NewCluster
