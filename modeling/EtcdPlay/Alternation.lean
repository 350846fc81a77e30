import EtcdPlay.Sequential

/-!
The `active` flag in runs where the calls on a node do not overlap. `Start` and
`Restart` check in their first critical section that the node is not active and set
the flag in their last one; `Terminate` checks that it is and clears it. With no
other call on the node between the two sections the check still holds at the
commit, so the commits of a node alternate between bringing it up and taking it
down, and the flag says which came last. With overlapping calls two `Start`s both
pass the check and both commit (`overlapping_starts_launch_twice`).
-/

namespace EtcdPlay.Alternation
open Lifecycle Sequential

/-- The commits of node `n`, each as whether it brings the node up. -/
def ups (n : String) (commits : List Commit) : List Bool :=
  (commits.filter fun c => c.node == n).map fun c => c.call != .terminate

/-- Up, down, up, ...: `k` commits that alternate, the first one bringing the node up. -/
def alternating (k : Nat) : List Bool :=
  (List.range k).map fun i => i % 2 == 0

/-- The commits of node `n` alternate, the first one bringing it up, and `active`
says whether the last one did. -/
def Flips (n : String) (active : Bool) (commits : List Commit) : Prop :=
  ∃ k, ups n commits = alternating k ∧ active = (k % 2 == 1)

def Knows (nd : NodeWebLocal) : Pc → Prop
  | .startFlags | .startLaunch | .startCommit _ | .restartSinceRestarted _ _
  | .restartSinceTerminated _ | .restartFlags | .restartLaunch | .restartCommit _ => nd.active = false
  | .terminateSinceTerminated _ _ | .terminateSinceRestarted _ | .terminateKill
  | .terminateCommit => nd.active = true
  | _ => True

section Flips
variable {n : String} {active : Bool} {cs : List Commit}

theorem ups_append_other {extra : List Commit} (other : ∀ c ∈ extra, c.node ≠ n) :
    ups n (cs ++ extra) = ups n cs := by
  simp only [ups, List.filter_append, List.map_append, List.append_right_eq_self, List.map_eq_nil_iff,
    List.filter_eq_nil_iff, beq_iff_eq]
  exact other

theorem ups_record (call : Call) (time : Int) :
    ups n (cs ++ [⟨n, call, time⟩]) = ups n cs ++ [call != .terminate] := by
  simp [ups]

theorem alternating_succ (k : Nat) : alternating (k + 1) = alternating k ++ [k % 2 == 0] := by
  simp [alternating, List.range_succ]

theorem parity_flip (k : Nat) : (!(k % 2 == 1)) = (k % 2 == 0) ∧ ((k + 1) % 2 == 1) = (k % 2 == 0) := by
  rcases Nat.mod_two_eq_zero_or_one k with h | h <;> simp [h, Nat.add_mod]

theorem Flips.append {extra : List Commit} (flips : Flips n active cs)
    (other : ∀ c ∈ extra, c.node ≠ n) : Flips n active (cs ++ extra) := by
  obtain ⟨k, alternates, flag⟩ := flips
  exact ⟨k, by rw [ups_append_other other, alternates], flag⟩

/-- A commit of `n` that finds the flag as its check left it flips the flag and
continues the alternation. -/
theorem Flips.record (call : Call) {time : Int} (flips : Flips n active cs)
    (flip : active = (call == .terminate)) :
    Flips n (call != .terminate) (cs ++ [⟨n, call, time⟩]) := by
  obtain ⟨k, alternates, rfl⟩ := flips
  have next : (call != .terminate) = (k % 2 == 0) := by rw [bne, ← flip, (parity_flip k).1]
  exact ⟨k + 1, by rw [ups_record, alternates, alternating_succ, next], by rw [next, (parity_flip k).2]⟩

end Flips

theorem knows_entry (call : Call) (nd : NodeWebLocal) : Knows nd call.entry := by
  cases call <;> trivial

theorem knows_of_idle {t : Thread} {nd : NodeWebLocal} (idle : t.busy = false) : Knows nd t.pc := by
  obtain ⟨node, pc, rest⟩ := t
  cases pc <;> simp_all [Thread.busy, Knows]

section Step
variable {n : String} {o : Outcome} {v : View} {pc : Pc}

/-- One step of a call keeps its node's commits alternating and what the call knows true. -/
theorem stepCall_flips (flips : Flips n v.node.active v.commits) (knows : Knows v.node pc) :
    ∀ r ∈ stepCall n o v pc, Flips n r.1.node.active r.1.commits ∧ Knows r.1.node r.2 := by
  intro r step
  cases pc with
  | lookup call =>
    obtain ⟨-, rfl⟩ := mem_locking.mp step
    exact ⟨flips, by dsimp only; split; exacts [knows_entry _ _, trivial]⟩
  | startRead | restartRead | terminateRead | cleanRead =>
    obtain ⟨-, rfl⟩ := mem_locking.mp step
    refine ⟨flips, ?_⟩
    dsimp only
    split <;> simp_all [Knows]
  | isActiveRead => obtain ⟨-, rfl⟩ := mem_locking.mp step; exact ⟨flips, trivial⟩
  | startFlags | restartFlags =>
    obtain ⟨-, rfl⟩ := mem_locking.mp step
    cases o <;> first | exact ⟨flips, knows⟩ | exact ⟨flips, trivial⟩
  | startLaunch | restartLaunch | terminateKill | cleanRemove =>
    rw [stepCall, Option.mem_some_iff] at step
    subst step
    cases o <;> first | exact ⟨flips, knows⟩ | exact ⟨flips, trivial⟩
  | restartSinceRestarted lt lr | restartSinceTerminated lt | terminateSinceTerminated lt lr
    | terminateSinceRestarted lr =>
    rw [stepCall, Option.mem_some_iff] at step
    subst step
    refine ⟨flips, ?_⟩
    rw [tooSoon]
    split
    · trivial
    · exact knows
  | startCommit p =>
    obtain ⟨-, rfl⟩ := mem_locking.mp step
    exact ⟨flips.record .start knows, trivial⟩
  | restartCommit p =>
    obtain ⟨-, rfl⟩ := mem_locking.mp step
    exact ⟨flips.record .restart knows, trivial⟩
  | terminateCommit =>
    obtain ⟨-, rfl⟩ := mem_locking.mp step
    exact ⟨flips.record .terminate knows, trivial⟩
  | returned ret => cases step

theorem stepThread_flips {t : Thread} (flips : Flips t.node v.node.active v.commits)
    (knows : Knows v.node t.pc) :
    ∀ r ∈ stepThread v t o, Flips t.node r.1.node.active r.1.commits ∧ Knows r.1.node r.2.pc := by
  intro r h
  rcases stepThread_cases h with ⟨-, call, -, -, -, rfl⟩ | ⟨next, mem, rfl⟩
  · exact ⟨flips, knows_entry call _⟩
  · exact stepCall_flips flips knows next mem

end Step

/-- The invariant: the commits of every node alternate, and every call knows its
node's flag. -/
structure Alternating (w : World) : Prop where
  flips : ∀ m, Flips m (w.node m).active w.commits
  knows : ∀ (i : Nat) (t : Thread), w.threads[i]? = some t → Knows (w.node t.node) t.pc

section World
variable {L : Int}

theorem alternating_initial (names : List String) (clock : Int) :
    Alternating (initial names L clock) where
  flips _ := ⟨0, rfl, rfl⟩
  knows := by simp [initial]

theorem alternating_thread {w : World} {tid : Nat} {t : Thread} {o : Outcome} {r : View × Thread}
    (cool : CoolDown L w) (inv : Alternating w) (found : w.threads[tid]? = some t)
    (moved : r ∈ stepThread (w.view t.node) t o) :
    Alternating { w.put t.node r.1 with threads := w.threads.set tid r.2 } where
  flips m := by
    by_cases same : m = t.node
    · subst same
      simpa using (stepThread_flips (inv.flips _) (inv.knows tid t found) r moved).1
    · obtain ⟨-, extra, commits, fresh⟩ := stepThread_commits r moved
      show Flips m ((w.put t.node r.1).node m).active r.1.commits
      rw [put_node_ne _ _ _ _ same, commits]
      exact Flips.append (inv.flips m) fun c mem => (fresh c mem).1 ▸ Ne.symm same
  knows i a ha := by
    rcases getElem?_set_cases ha with ⟨-, rfl⟩ | ⟨other, ha⟩
    · simpa [stepThread_node r moved] using
        (stepThread_flips (inv.flips _) (inv.knows tid t found) r moved).2
    · exact others_keep (fun nd a => Knows nd a.pc) (fun _ _ => knows_of_idle) cool.single inv.knows
        found moved other ha

theorem alternating_fork {w : World} {t : Thread} (inv : Alternating w)
    (entry : Knows (w.node t.node) t.pc) : Alternating (w.fork t) where
  flips := inv.flips
  knows i a ha := by
    rcases getElem?_concat_cases ha with ⟨-, rfl⟩ | ha
    exacts [entry, inv.knows i a ha]

theorem alternating_step {w w' : World} {e : Event} (cool : CoolDown L w) (inv : Alternating w)
    (h : step w e = some w') : Alternating w' := by
  cases e with
  | spawn m calls =>
    obtain ⟨call, rest, -, -, rfl⟩ := step_spawn h
    exact alternating_fork inv (knows_entry _ _)
  | clusterCall m call =>
    obtain rfl := step_clusterCall h
    exact alternating_fork inv trivial
  | run tid o =>
    obtain ⟨t, r, found, moved, rfl⟩ := step_run h
    exact alternating_thread cool inv found moved
  | tick d => cases h; exact ⟨inv.flips, inv.knows⟩
  | exit pid => obtain rfl := step_exit h; exact ⟨inv.flips, inv.knows⟩

end World

/-- In every run in which the calls on a node do not overlap, whatever the limit, the
clock and the outcomes of the external steps, the commits of each node alternate
between bringing it up (`Start`, `Restart`) and taking it down (`Terminate`), the
first one bringing it up, and the node is active exactly when the last one brought
it up: no node is started twice without a `Terminate` between. -/
theorem sequential_commits_alternate (names : List String) (L clock : Int) (evs : List Event)
    (w : World) (h : runWhile sequential (initial names L clock) evs = some w) (n : String) :
    ∃ k, ups n w.commits = alternating k ∧ (w.node n).active = (k % 2 == 1) :=
  (runWhile_invariant (fun w => CoolDown L w ∧ Alternating w)
    (fun _ _ _ inv allowed next => ⟨coolDown_step inv.1 allowed next, alternating_step inv.1 inv.2 next⟩)
    ⟨coolDown_initial names clock, alternating_initial names clock⟩ h).2.flips n

theorem restart_then_terminate_alternate :
    ∃ w, runWhile sequential (initial ["a"] 10 100) restartThenTerminate = some w ∧
      ∃ k, ups "a" w.commits = alternating k ∧ (w.node "a").active = (k % 2 == 1) :=
  ⟨_, rfl, sequential_commits_alternate ["a"] 10 100 restartThenTerminate _ rfl "a"⟩

end EtcdPlay.Alternation
