import EtcdPlay.Lifecycle

/-!
A child process that exits on its own. `Start` and `Restart` hand the child to a
goroutine that waits for it and only writes a line to the shared stream, so the
exit changes nothing of the node: `active` stays set until a `Terminate` commits,
and `IsActive` goes on reporting the node as running. `Revive` (proc_cluster.go)
restarts the nodes only when no node reports active; it then restarts every node,
provided each is past its cool-down.
-/

namespace EtcdPlay.ChildExit
open Lifecycle

/-- The second loop of `Revive`: restart each node in turn, up to the first error. -/
def restartAll (inputs : String → List (Nat × Outcome)) : World → List String → Option (Return × World)
  | w, [] => some (.nil, w)
  | w, n :: rest =>
      match callAlone n (w.view n) .restartRead (inputs n) with
      | none => none
      | some (.error e, v) => some (.error e, w.absorb n v)
      | some (_, v) => restartAll inputs (w.absorb n v) rest

/-- `defaultCluster.Revive` with no other call in flight. `first` and `second` are the
orders in which its two loops visit `nameToNode`; the first loop returns `nil` at the
first node that reports active, and waits forever on `IsActive` if the mutex is held. -/
def revive (w : World) (first second : List String) (inputs : String → List (Nat × Outcome)) :
    Option (Return × World) :=
  if first ≠ [] ∧ w.locked = true then none
  else if first.any fun n => (w.node n).active then some (.nil, w)
  else restartAll inputs w second

theorem revive_noop {w : World} {first second : List String} {inputs : String → List (Nat × Outcome)}
    (free : w.locked = false) (someActive : ∃ n ∈ first, (w.node n).active = true) :
    revive w first second inputs = some (.nil, w) := by
  simp [revive, free, List.any_eq_true.mpr someActive]

/-- A `Restart` run alone on an inactive node past its cool-down, the mutex free and
every external step succeeding, returns `nil` with the node active. -/
theorem callAlone_restart (n : String) {v : View} {inputs : List (Nat × Outcome)}
    (free : v.locked = false) (inactive : v.node.active = false)
    (cooled : v.node.lastRestarted + v.node.limitInterval ≤ v.clock ∧
      v.node.lastTerminated + v.node.limitInterval ≤ v.clock)
    (enough : 6 ≤ inputs.length) (succeed : ∀ i ∈ inputs, i.2 = .ok) :
    ∃ v', callAlone n v .restartRead inputs = some (.nil, v') ∧ v'.node.active = true ∧
      v'.locked = false ∧ v.clock ≤ v'.clock := by
  match inputs, enough, succeed with
  | (d1, o1) :: (d2, o2) :: (d3, o3) :: (d4, o4) :: (d5, o5) :: (d6, o6) :: rest, _, succeed =>
    simp only [List.mem_cons, forall_eq_or_imp] at succeed
    obtain ⟨rfl, rfl, rfl, rfl, rfl, rfl, -⟩ := succeed
    obtain ⟨sinceRestarted, sinceTerminated⟩ := cooled
    simp (disch := omega) only [callAlone, stepCall, locking, free, inactive, tooSoon, if_neg, serialise,
      external, Bool.false_eq_true, if_false, View.setNode, View.launch, View.record,
      NodeWebLocal.rejoining, NodeWebLocal.restarted]
    exact ⟨_, rfl, rfl, rfl, by dsimp only; omega⟩

/-- What `Revive`'s second loop needs of a node to restart it. -/
def Ready (w : World) (n : String) : Prop :=
  (w.node n).active = false ∧ (w.node n).lastRestarted + (w.node n).limitInterval ≤ w.clock ∧
    (w.node n).lastTerminated + (w.node n).limitInterval ≤ w.clock

theorem restartAll_restarts {inputs : String → List (Nat × Outcome)} :
    ∀ {w : World} {names : List String}, w.locked = false → names.Nodup → (∀ n ∈ names, Ready w n) →
      (∀ n ∈ names, 6 ≤ (inputs n).length ∧ ∀ i ∈ inputs n, i.2 = .ok) →
      ∃ w', restartAll inputs w names = some (.nil, w') ∧
        ∀ m, (m ∈ names → (w'.node m).active = true) ∧ (m ∉ names → w'.node m = w.node m)
  | w, [], _, _, _, _ => ⟨w, rfl, fun _ => ⟨nofun, fun _ => rfl⟩⟩
  | w, n :: rest, free, distinct, ready, succeed => by
    rw [List.nodup_cons] at distinct
    obtain ⟨inactive, cooled⟩ := ready n (List.mem_cons_self _ _)
    obtain ⟨enough, ok⟩ := succeed n (List.mem_cons_self _ _)
    obtain ⟨v', alone, active, free', later⟩ := callAlone_restart n (v := w.view n) free inactive cooled enough ok
    have other : ∀ m ∈ rest, (w.absorb n v').node m = w.node m := fun m mem =>
      put_node_ne _ _ _ _ fun same => distinct.1 (same ▸ mem)
    obtain ⟨w', done, each⟩ := restartAll_restarts (w := w.absorb n v') free' distinct.2
      (fun m mem => by
        obtain ⟨inactive, cooled⟩ := ready m (List.mem_cons_of_mem _ mem)
        simp only [Ready, absorb_clock, other m mem, view_clock] at cooled later ⊢
        exact ⟨inactive, by omega, by omega⟩)
      fun m mem => succeed m (List.mem_cons_of_mem _ mem)
    refine ⟨w', by rw [restartAll, alone]; exact done, fun m => ⟨fun mem => ?_, fun absent => ?_⟩⟩
    · rcases List.mem_cons.mp mem with rfl | mem
      · rw [(each m).2 distinct.1]
        simpa using active
      · exact (each m).1 mem
    · rw [List.mem_cons, not_or] at absent
      rw [(each m).2 absent.2, absorb_node, put_node_ne _ _ _ _ absent.1]

/-- `Revive` when no node reports active, the mutex is free and every node is
inactive and past its cool-down, every external step of the `Restart`s succeeding:
it restarts every node, in the order its second loop visits them, and returns `nil`. -/
theorem revive_restarts_all {w : World} {first second : List String}
    {inputs : String → List (Nat × Outcome)} (free : w.locked = false)
    (noneActive : ∀ n ∈ first, (w.node n).active = false) (distinct : second.Nodup)
    (ready : ∀ n ∈ second, Ready w n)
    (succeed : ∀ n ∈ second, 6 ≤ (inputs n).length ∧ ∀ i ∈ inputs n, i.2 = .ok) :
    ∃ w', revive w first second inputs = some (.nil, w') ∧ ∀ n ∈ second, (w'.node n).active = true := by
  obtain ⟨w', done, each⟩ := restartAll_restarts free distinct ready succeed
  refine ⟨w', ?_, fun n mem => (each n).1 mem⟩
  rw [revive, if_neg (by simp [free]), if_neg (by simpa using noneActive), done]

theorem revive_restarts_a_and_b :
    (∀ n ∈ ["b", "a"], Ready (initial ["a", "b"] 10 100) n) ∧
      ∃ w', revive (initial ["a", "b"] 10 100) ["a", "b"] ["b", "a"] (fun _ => List.replicate 6 (0, .ok)) =
          some (.nil, w') ∧ ∀ n ∈ ["b", "a"], (w'.node n).active = true :=
  have ready : ∀ n ∈ ["b", "a"], Ready (initial ["a", "b"] 10 100) n := by
    simp [Ready, initial, fresh]
  ⟨ready, revive_restarts_all rfl (by simp [initial, fresh]) (by decide) ready (by decide)⟩

/-- `Start` on node `a`, which launches process 1. -/
def startA : List Event :=
  [.spawn "a" [.start], .run 0 .ok, .run 0 .ok, .run 0 .ok, .run 0 .ok]

/-- After process 1 of node `a` has exited, `IsActive` still returns true and
`Revive` returns `nil` without restarting `a`. -/
theorem exited_child_reported_active :
    ∃ w, run (initial ["a"] 10 100) (startA ++ [.exit 1, .spawn "a" [.isActive], .run 1 .ok]) =
        some w ∧
      (w.node "a").cmd = some 1 ∧ w.running 1 = false ∧
      w.threads.map (·.pc) = [.returned .nil, .returned (.active true)] ∧
      revive w ["a"] ["a"] (fun _ => []) = some (.nil, w) :=
  ⟨_, rfl, rfl, rfl, rfl, revive_noop rfl ⟨"a", by simp, rfl⟩⟩

end EtcdPlay.ChildExit
