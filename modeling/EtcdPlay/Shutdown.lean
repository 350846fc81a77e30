import EtcdPlay.Lifecycle

/-!
`defaultCluster.Shutdown` (proc_cluster.go): one goroutine per node calls
`Terminate` and then `Clean`, logging their errors, and `Shutdown` returns `nil`
once all of them are done. The workers of different nodes share only the mutex,
which `Terminate` and `Clean` never leave held. A node's `Terminate` is refused when
its `lastRestarted` or `lastTerminated` stamp is less than `limitInterval` old; the
node then stays active, and its `Clean` is refused too.
-/

namespace EtcdPlay.Shutdown
open Lifecycle

/-- The fan-out of `Shutdown`: a worker per node of `nameToNode`. -/
def fanOut (w : World) : World :=
  { w with threads := w.threads ++ w.names.map fun n => ⟨n, .terminateRead, [.clean]⟩ }

/-- A goroutine per node of `nameToNode`, each at `pc` with the calls `rest` still to
make: `fanOut w` is `forkEach w .terminateRead [.clean]`. -/
def forkEach (w : World) (pc : Pc) (rest : List Call) : World :=
  { w with threads := w.threads ++ w.names.map fun n => ⟨n, pc, rest⟩ }

/-- While `Shutdown` waits: the workers step with every kill and removal succeeding,
the clock moves and children exit; nobody starts a new call. -/
def waiting : World → Event → Bool
  | _, .run _ o => o == .ok
  | _, .tick _ | _, .exit _ => true
  | _, _ => false

/-- What the worker of a node knows while it terminates the node. -/
def terminating (L : Int) (nd : NodeWebLocal) (now : Int) : Pc → Prop
  | .terminateRead =>
      nd.active = false ∨ (nd.lastTerminated + L ≤ now ∧ nd.lastRestarted + L ≤ now)
  | .terminateSinceTerminated lt lr =>
      lt = nd.lastTerminated ∧ lr = nd.lastRestarted ∧ lt + L ≤ now ∧ lr + L ≤ now
  | .terminateSinceRestarted lr => lr = nd.lastRestarted ∧ lr + L ≤ now
  | .terminateKill | .terminateCommit => True
  | .returned _ => nd.active = false
  | _ => False

/-- What the worker of a node knows while it cleans the node. -/
def cleaning (nd : NodeWebLocal) (dir : Bool) : Pc → Prop
  | .cleanRead | .cleanRemove => nd.active = false
  | .returned _ => nd.active = false ∧ dir = false
  | _ => False

/-- The worker of a node whose `limitInterval` is `L`, on its way to stopping and
removing it. -/
def Phase (L : Int) (nd : NodeWebLocal) (dir : Bool) (now : Int) (t : Thread) : Prop :=
  nd.limitInterval = L ∧
    ((t.rest = [.clean] ∧ terminating L nd now t.pc) ∨ (t.rest = [] ∧ cleaning nd dir t.pc))

section Worker
variable {L : Int} {v : View} {t : Thread}

theorem terminating_mono {nd : NodeWebLocal} {now now' : Int} {pc : Pc} (later : now ≤ now')
    (h : terminating L nd now pc) : terminating L nd now' pc := by
  cases pc <;> simp only [terminating] at h ⊢
  case terminateRead => exact h.imp_right fun ⟨sinceTerminated, sinceRestarted⟩ => ⟨by omega, by omega⟩
  all_goals first | exact h | omega

theorem Phase.mono {nd : NodeWebLocal} {dir : Bool} {now now' : Int} (later : now ≤ now')
    (h : Phase L nd dir now t) : Phase L nd dir now' t :=
  h.imp_right (Or.imp_left fun ⟨only, h⟩ => ⟨only, terminating_mono later h⟩)

/-- A worker that is done has stopped and removed its node. -/
theorem Phase.done {nd : NodeWebLocal} {dir : Bool} {now : Int} (h : Phase L nd dir now t)
    (idle : t.busy = false) : nd.active = false ∧ dir = false := by
  obtain ⟨node, pc, rest⟩ := t
  rcases h.2 with ⟨only, h⟩ | ⟨only, h⟩ <;> dsimp only at only h idle <;> subst only <;>
    cases pc <;> simp_all [Thread.busy, cleaning]

/-- One step of the worker, with the external step succeeding, keeps its phase. -/
theorem stepThread_phase (phase : Phase L v.node v.dataDir v.clock t) :
    ∀ r ∈ stepThread v t .ok, Phase L r.1.node r.1.dataDir v.clock r.2 := by
  intro r h
  obtain ⟨limit, phase⟩ := phase
  rcases stepThread_cases h with ⟨ret, call, rest, returned, more, rfl⟩ | ⟨next, mem, rfl⟩
  · rcases phase with ⟨only, phase⟩ | ⟨none, -⟩
    · rw [more, List.cons.injEq] at only
      obtain ⟨rfl, rfl⟩ := only
      rw [returned] at phase
      exact ⟨limit, .inr ⟨rfl, phase⟩⟩
    · rw [more] at none; cases none
  · obtain ⟨node, pc, rest⟩ := t
    rcases phase with ⟨only, phase⟩ | ⟨only, phase⟩ <;> dsimp only at only phase ⊢ <;> subst only
    · cases pc <;> simp only [terminating] at phase
      case terminateRead =>
        obtain ⟨-, rfl⟩ := mem_locking.mp mem
        by_cases active : v.node.active <;> simp_all [Phase, terminating]
      case terminateSinceTerminated =>
        rw [stepCall, Option.mem_some_iff] at mem
        subst mem
        obtain ⟨rfl, rfl, sinceTerminated, sinceRestarted⟩ := phase
        rw [limit, tooSoon_of_le (by omega)]
        exact ⟨limit, .inl ⟨rfl, rfl, sinceRestarted⟩⟩
      case terminateSinceRestarted =>
        rw [stepCall, Option.mem_some_iff] at mem
        subst mem
        rw [limit, tooSoon_of_le (by omega)]
        exact ⟨limit, .inl ⟨rfl, trivial⟩⟩
      case terminateKill =>
        rw [stepCall, Option.mem_some_iff] at mem
        subst mem
        simp [Phase, terminating, external, limit]
      case terminateCommit =>
        obtain ⟨-, rfl⟩ := mem_locking.mp mem
        simp [Phase, terminating, View.record, View.setNode, NodeWebLocal.terminated, limit]
      case returned => cases mem
    · cases pc <;> simp only [cleaning] at phase
      case cleanRead =>
        obtain ⟨-, rfl⟩ := mem_locking.mp mem
        simp [Phase, cleaning, View.setNode, NodeWebLocal.cleaned, phase, limit]
      case cleanRemove =>
        rw [stepCall, Option.mem_some_iff] at mem
        subst mem
        simp [Phase, cleaning, external, phase, limit]
      case returned => cases mem

end Worker

/-- What the worker of a node knows while its `Terminate` is refused, `B` being the
clock when the run stops: a check still to come fails at any time up to `B`. -/
def refusing (L B : Int) (nd : NodeWebLocal) : Pc → Prop
  | .terminateRead => B < nd.lastTerminated + L ∨ B < nd.lastRestarted + L
  | .terminateSinceTerminated lt lr => B < lt + L ∨ B < lr + L
  | .terminateSinceRestarted lr => B < lr + L
  | .returned _ => True
  | _ => False

/-- What the worker of a node knows while its `Clean` is refused. -/
def refusingClean : Pc → Prop
  | .cleanRead | .returned _ => True
  | _ => False

/-- The worker of an active node whose `limitInterval` is `L`, last terminated or
restarted less than `L` before `B`: up to `B` the node stays active and its data
directory stays `d`. -/
def Refused (L B : Int) (d : Bool) (nd : NodeWebLocal) (dir : Bool) (now : Int) (t : Thread) : Prop :=
  now ≤ B → nd.limitInterval = L ∧ nd.active = true ∧ dir = d ∧
    ((t.rest = [.clean] ∧ refusing L B nd t.pc) ∨ (t.rest = [] ∧ refusingClean t.pc))

section Refusing
variable {L B : Int} {d : Bool} {v : View} {t : Thread}

/-- One step of the worker keeps it refused, whatever its external steps would do. -/
theorem stepThread_refused {o : Outcome} (refused : Refused L B d v.node v.dataDir v.clock t) :
    ∀ r ∈ stepThread v t o, Refused L B d r.1.node r.1.dataDir v.clock r.2 := by
  intro r h bound
  obtain ⟨limit, active, rfl, phase⟩ := refused bound
  rcases stepThread_cases h with ⟨ret, call, rest, -, more, rfl⟩ | ⟨next, mem, rfl⟩
  · rcases phase with ⟨only, -⟩ | ⟨none, -⟩
    · rw [more, List.cons.injEq] at only
      obtain ⟨rfl, rfl⟩ := only
      exact ⟨limit, active, rfl, .inr ⟨rfl, trivial⟩⟩
    · rw [more] at none; cases none
  · obtain ⟨node, pc, rest⟩ := t
    rcases phase with ⟨only, phase⟩ | ⟨only, phase⟩ <;> dsimp only at only phase ⊢ <;> subst only
    · cases pc <;> simp only [refusing] at phase
      case terminateRead =>
        obtain ⟨-, rfl⟩ := mem_locking.mp mem
        rw [if_pos active]
        exact ⟨limit, active, rfl, .inl ⟨rfl, phase⟩⟩
      case terminateSinceTerminated lt lr =>
        rw [stepCall, Option.mem_some_iff] at mem
        subst mem
        rw [limit]
        by_cases soon : v.clock - lt < L
        · rw [tooSoon_of_lt soon]
          exact ⟨rfl, active, rfl, .inl ⟨rfl, trivial⟩⟩
        · rw [tooSoon_of_le (by omega)]
          exact ⟨rfl, active, rfl, .inl ⟨rfl, show B < lr + L by omega⟩⟩
      case terminateSinceRestarted lr =>
        rw [stepCall, Option.mem_some_iff] at mem
        subst mem
        rw [limit, tooSoon_of_lt (by omega)]
        exact ⟨rfl, active, rfl, .inl ⟨rfl, trivial⟩⟩
      case returned => cases mem
    · cases pc <;> simp only [refusingClean] at phase
      case cleanRead =>
        obtain ⟨-, rfl⟩ := mem_locking.mp mem
        rw [if_pos active]
        exact ⟨limit, active, rfl, .inr ⟨rfl, trivial⟩⟩
      case returned => cases mem

end Refusing

/-- The worker of node `n` runs at index `k` and `fact` holds of it, of the node, of
the node's data directory and of the clock; no other call on `n` is in flight. -/
structure Worker (fact : NodeWebLocal → Bool → Int → Thread → Prop) (n : String) (k : Nat)
    (w : World) : Prop where
  fact : ∃ t, w.threads[k]? = some t ∧ t.node = n ∧ fact (w.node n) (w.dataDir n) w.clock t
  alone : ∀ j u, w.threads[j]? = some u → u.node = n → j ≠ k → u.busy = false

/-- A fact of a worker that its own steps, with the external step succeeding, keep, and
that stays true as the clock moves on. -/
structure Stable (fact : NodeWebLocal → Bool → Int → Thread → Prop) : Prop where
  step : ∀ v t, fact v.node v.dataDir v.clock t →
    ∀ r ∈ stepThread v t .ok, fact r.1.node r.1.dataDir v.clock r.2
  later : ∀ nd dir now now' t, now ≤ now' → fact nd dir now t → fact nd dir now' t

theorem phase_stable {L : Int} : Stable (Phase L) :=
  ⟨fun _ _ => stepThread_phase, fun _ _ _ _ _ => Phase.mono⟩

theorem refused_stable {L B : Int} {d : Bool} : Stable (Refused L B d) :=
  ⟨fun _ _ => stepThread_refused, fun _ _ _ _ _ later refused bound => refused (Int.le_trans later bound)⟩

section Run
variable {fact : NodeWebLocal → Bool → Int → Thread → Prop} {n : String} {k : Nat}

theorem worker_forkEach {w : World} {i : Nat} {pc : Pc} {rest : List Call} (distinct : w.names.Nodup)
    (quiet : ∀ t ∈ w.threads, t.busy = false) (at_i : w.names[i]? = some n)
    (start : fact (w.node n) (w.dataDir n) w.clock ⟨n, pc, rest⟩) :
    Worker fact n (w.threads.length + i) (forkEach w pc rest) where
  fact := by
    refine ⟨⟨n, pc, rest⟩, ?_, rfl, start⟩
    simp only [forkEach]
    rw [List.getElem?_append_right (Nat.le_add_right _ _), Nat.add_sub_cancel_left, List.getElem?_map, at_i]
    rfl
  alone := by
    intro j u found same other
    rw [forkEach, List.getElem?_append] at found
    split at found
    · exact quiet u (List.getElem?_mem found)
    · obtain ⟨m, at_m, rfl⟩ := Option.map_eq_some'.mp (List.getElem?_map _ _ _ ▸ found)
      dsimp only at same
      subst same
      have := List.getElem?_inj (List.getElem?_eq_some_iff.mp at_i).1 distinct (at_i.trans at_m.symm)
      omega

/-- A step of the worker itself, its external step succeeding. -/
theorem worker_self (stable : Stable fact) {w : World} {u : Thread} {r : View × Thread}
    (inv : Worker fact n k w) (found : w.threads[k]? = some u)
    (moved : r ∈ stepThread (w.view u.node) u .ok) :
    Worker fact n k { w.put u.node r.1 with threads := w.threads.set k r.2 } := by
  obtain ⟨⟨t, at_k, rfl, fact⟩, alone⟩ := inv
  obtain rfl := Option.some.inj (found.symm.trans at_k)
  refine ⟨⟨r.2, ?_, stepThread_node r moved, by simpa using stable.step _ _ fact r moved⟩, ?_⟩
  · simp [List.getElem?_set, (List.getElem?_eq_some_iff.mp found).1]
  · intro j u found' same other
    rcases getElem?_set_cases found' with ⟨rfl, -⟩ | ⟨-, old⟩
    · exact absurd rfl other
    · exact alone j u old same other

/-- A step of any other thread: of a worker of another node, or of an idle call. -/
theorem worker_other {w : World} {j : Nat} {u : Thread} {o : Outcome} {r : View × Thread}
    (inv : Worker fact n k w) (found : w.threads[j]? = some u) (other : j ≠ k)
    (moved : r ∈ stepThread (w.view u.node) u o) :
    Worker fact n k { w.put u.node r.1 with threads := w.threads.set j r.2 } := by
  have keep : (w.put u.node r.1).node n = w.node n ∧ (w.put u.node r.1).dataDir n = w.dataDir n := by
    by_cases same : u.node = n
    · obtain ⟨unchanged, -, -⟩ := stepThread_idle (inv.alone j u found same other) r moved
      rw [unchanged, same]
      simp
    · exact ⟨put_node_ne _ _ _ _ (Ne.symm same), put_dataDir_ne _ _ _ _ (Ne.symm same)⟩
  obtain ⟨⟨t, at_k, tn, fact⟩, alone⟩ := inv
  refine ⟨⟨t, ?_, tn, by simpa [keep] using fact⟩, ?_⟩
  · show (w.threads.set j r.2)[k]? = some t
    rwa [List.getElem?_set_ne other]
  intro i u' found' same other'
  rcases getElem?_set_cases found' with ⟨rfl, rfl⟩ | ⟨-, old⟩
  · rw [stepThread_node r moved] at same
    exact (stepThread_idle (alone i u found same other') r moved).2.1
  · exact alone i u' old same other'

theorem worker_step (stable : Stable fact) {w w' : World} {e : Event} (inv : Worker fact n k w)
    (allowed : waiting w e = true) (h : step w e = some w') : Worker fact n k w' := by
  cases e with
  | run j o =>
    simp only [waiting, beq_iff_eq] at allowed
    subst allowed
    obtain ⟨t, r, found, moved, rfl⟩ := step_run h
    by_cases self : j = k
    · subst self
      exact worker_self stable inv found moved
    · exact worker_other inv found self moved
  | tick d =>
    cases h
    obtain ⟨⟨t, at_k, tn, fact⟩, alone⟩ := inv
    exact ⟨⟨t, at_k, tn, stable.later _ _ _ _ _ (by show w.clock ≤ w.clock + d; omega) fact⟩, alone⟩
  | exit pid => obtain rfl := step_exit h; exact ⟨inv.fact, inv.alone⟩
  | spawn | clusterCall => simp [waiting] at allowed

/-- A stable fact that holds of the worker of the `i`-th node when it is forked
holds of it wherever the run stops. -/
theorem forked_worker (stable : Stable fact) {w w' : World} {evs : List Event} {i : Nat} {pc : Pc}
    {rest : List Call} (distinct : w.names.Nodup) (quiet : ∀ t ∈ w.threads, t.busy = false)
    (h : runWhile waiting (forkEach w pc rest) evs = some w') (at_i : w.names[i]? = some n)
    (start : fact (w.node n) (w.dataDir n) w.clock ⟨n, pc, rest⟩) :
    ∃ t, w'.threads[w.threads.length + i]? = some t ∧ t.node = n ∧
      fact (w'.node n) (w'.dataDir n) w'.clock t :=
  (runWhile_invariant _ (fun _ _ _ inv ok h => worker_step stable inv ok h)
    (worker_forkEach distinct quiet at_i start) h).fact

/-- The same for the worker `Shutdown` forks for node `n`. -/
theorem shutdown_worker (stable : Stable fact) {w w' : World} {evs : List Event}
    (distinct : w.names.Nodup) (quiet : ∀ t ∈ w.threads, t.busy = false)
    (h : runWhile waiting (fanOut w) evs = some w') (mem : n ∈ w.names)
    (start : fact (w.node n) (w.dataDir n) w.clock ⟨n, .terminateRead, [.clean]⟩) :
    ∃ t ∈ w'.threads, fact (w'.node n) (w'.dataDir n) w'.clock t := by
  obtain ⟨i, at_i⟩ := List.mem_iff_getElem?.mp mem
  obtain ⟨t, at_k, -, fact⟩ := forked_worker stable distinct quiet h at_i start
  exact ⟨t, List.getElem?_mem at_k, fact⟩

end Run

/-- `Shutdown` from a world with no call in flight, its workers interleaved in any
way, every kill and removal succeeding: once it returns, every node that was inactive,
or was last restarted and last terminated at least `limitInterval` before, is
inactive and its data directory is gone. -/
theorem shutdown_stops_cooled_nodes {w w' : World} {evs : List Event} {n : String}
    (distinct : w.names.Nodup) (quiet : ∀ t ∈ w.threads, t.busy = false)
    (h : runWhile waiting (fanOut w) evs = some w') (waited : ∀ t ∈ w'.threads, t.busy = false)
    (mem : n ∈ w.names)
    (cooled : (w.node n).active = false ∨ ((w.node n).lastTerminated + (w.node n).limitInterval ≤ w.clock ∧
      (w.node n).lastRestarted + (w.node n).limitInterval ≤ w.clock)) :
    (w'.node n).active = false ∧ w'.dataDir n = false := by
  obtain ⟨t, done, phase⟩ := shutdown_worker phase_stable distinct quiet h mem ⟨rfl, .inl ⟨rfl, cooled⟩⟩
  exact phase.done (waited t done)

/-- Node `a` running and node `b` stopped, both with their data directories, nothing
in flight, no stamp set. -/
def aRunningBStopped : World :=
  { allStarted ["a", "b"] 10 100 with
    node := fun n => if n = "b" then fresh "b" 10 "new" else (allStarted ["a", "b"] 10 100).node n
    running := fun p => p == 1 }

/-- The two workers alternate until `b`'s is done; then `a`'s finishes. -/
def stopBoth : List Event :=
  List.flatten (List.replicate 4 [.run 0 .ok, .run 1 .ok]) ++ List.replicate 4 (.run 0 .ok)

theorem shutdown_stops_a_and_b :
    ∃ w', runWhile waiting (fanOut aRunningBStopped) stopBoth = some w' ∧
      ∀ n ∈ ["a", "b"], (w'.node n).active = false ∧ w'.dataDir n = false :=
  ⟨_, rfl, fun n mem => @shutdown_stops_cooled_nodes aRunningBStopped _ stopBoth n (by decide) (by decide) rfl
    (by decide) mem (by
      simp only [List.mem_cons, List.mem_singleton, List.not_mem_nil, or_false] at mem
      rcases mem with rfl | rfl
      · exact .inr ⟨by decide, by decide⟩
      · exact .inl rfl)⟩

/-- `Shutdown` from a world with no call in flight, its workers interleaved in any
way: a node that is active and was last terminated, or last restarted, less than
`limitInterval` before the clock where the run stops is still active there, its data
directory untouched, whether or not the workers are done. -/
theorem shutdown_keeps_fresh_nodes {w w' : World} {evs : List Event} {n : String}
    (distinct : w.names.Nodup) (quiet : ∀ t ∈ w.threads, t.busy = false)
    (h : runWhile waiting (fanOut w) evs = some w') (mem : n ∈ w.names)
    (active : (w.node n).active = true)
    (fresh : w'.clock < (w.node n).lastTerminated + (w.node n).limitInterval ∨
      w'.clock < (w.node n).lastRestarted + (w.node n).limitInterval) :
    (w'.node n).active = true ∧ w'.dataDir n = w.dataDir n := by
  obtain ⟨t, -, refused⟩ := shutdown_worker refused_stable distinct quiet h mem
    fun _ => ⟨rfl, active, rfl, .inl ⟨rfl, fresh⟩⟩
  obtain ⟨-, active', dir, -⟩ := refused (Int.le_refl _)
  exact ⟨active', dir⟩

/-- Node `a` running since a `Restart` at 100, its limit 10, nothing in flight; the
clock at 105. -/
def restartedA : World :=
  { allStarted ["a"] 10 105 with
    node := fun n => { (allStarted ["a"] 10 105).node n with lastRestarted := 100, initialClusterState := "existing" } }

/-- `Shutdown` then: the worker's `Terminate` is refused as too soon after the
restart, its `Clean` is refused as the node runs, and `Shutdown` returns `nil` with
the node still active and its data directory kept. -/
theorem shutdown_keeps_recently_restarted_node :
    ∃ w', runWhile waiting (fanOut restartedA) (List.replicate 5 (.run 0 .ok)) = some w' ∧
      (∀ t ∈ w'.threads, t.busy = false) ∧
      w'.threads.map (·.pc) = [.returned (.error (.alreadyRunning "a"))] ∧
      (w'.node "a").active = true ∧ w'.dataDir "a" = true :=
  ⟨_, rfl, by decide, rfl, @shutdown_keeps_fresh_nodes restartedA _ (List.replicate 5 (.run 0 .ok)) "a"
    (by decide) (by decide) rfl (by decide) rfl (.inr (by decide))⟩

end EtcdPlay.Shutdown
