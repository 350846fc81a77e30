import EtcdPlay.Bootstrap

/-!
The deferred `recover` of `Start`, `Restart` and `Terminate` (node_web_local.go).
It only logs the panic: the functions have an unnamed `error` result, so a call that
panics returns its zero value, `nil`. A `nil` return therefore says that the node
was brought up, or taken down, only when no external step panicked. A panic inside
`cmd.Start` or `syscall.Kill` comes after the checks and before the last critical
section, so the call returns `nil` with `active` as it was, and `Bootstrap` counts
such a `Start` as done.
-/

namespace EtcdPlay.Recover
open Lifecycle

/-- The program points of `Start` and `Restart` (`up`), or of `Terminate`. -/
def onPath (up : Bool) : Pc → Bool
  | .startRead | .startFlags | .startLaunch | .startCommit _ | .restartRead
  | .restartSinceRestarted _ _ | .restartSinceTerminated _ | .restartFlags | .restartLaunch
  | .restartCommit _ => up
  | .terminateRead | .terminateSinceTerminated _ _ | .terminateSinceRestarted _ | .terminateKill
  | .terminateCommit => !up
  | _ => false

/-- What a call of `Start` or `Restart` (`up`), or of `Terminate`, says of its node:
a `nil` return leaves the node active exactly when `up`. -/
def Law (up : Bool) (v : View) : Pc → Prop
  | .returned .nil => v.node.active = up
  | .returned _ => True
  | pc => onPath up pc = true

/-- A property of a call that each step keeps, for the outcomes `allowed` admits,
and that the clock moving on keeps, holds when the call returns. -/
theorem callAlone_invariant {n : String} (P : View → Pc → Prop) (allowed : Outcome → Prop)
    (later : ∀ v pc (d : Nat), P v pc → P { v with clock := v.clock + d } pc)
    (step : ∀ v pc o, allowed o → P v pc → ∀ r ∈ stepCall n o v pc, P r.1 r.2) :
    ∀ {inputs : List (Nat × Outcome)} {v v' : View} {pc : Pc} {ret : Return},
      (∀ i ∈ inputs, allowed i.2) → P v pc → callAlone n v pc inputs = some (ret, v') →
        P v' (.returned ret)
  | inputs, v, v', pc, ret, ok, start, h => by
    by_cases returned : ∃ r, pc = .returned r
    · obtain ⟨r, rfl⟩ := returned
      rw [callAlone.eq_1, Option.some.injEq, Prod.mk.injEq] at h
      obtain ⟨rfl, rfl⟩ := h
      exact start
    · have running : ∀ r, pc ≠ .returned r := fun r same => returned ⟨r, same⟩
      cases inputs with
      | nil => rw [callAlone.eq_2 _ _ _ running] at h; cases h
      | cons input rest =>
        obtain ⟨d, o⟩ := input
        rw [callAlone.eq_3 _ _ _ _ _ _ running] at h
        split at h
        · rename_i next moved
          exact callAlone_invariant P allowed later step (fun i mem => ok i (List.mem_cons_of_mem _ mem))
            (step _ _ o (ok _ (List.mem_cons_self _ _)) (later _ _ d start) next moved) h
        · cases h

/-- Without a panic, each step of a call keeps its law. -/
theorem stepCall_law {up : Bool} {n : String} {o : Outcome} {v : View} {pc : Pc}
    (calm : o ≠ .panic) (law : Law up v pc) : ∀ r ∈ stepCall n o v pc, Law up r.1 r.2 := by
  intro r step
  cases pc <;> simp only [Law, onPath, Bool.false_eq_true, Bool.not_eq_true'] at law
  case startRead | restartRead | terminateRead =>
    obtain ⟨-, rfl⟩ := mem_locking.mp step
    dsimp only
    split <;> simp [Law, onPath, law]
  case startFlags | restartFlags =>
    obtain ⟨-, rfl⟩ := mem_locking.mp step
    cases o <;> simp_all [Law, onPath, serialise]
  case startLaunch | restartLaunch | terminateKill =>
    rw [stepCall, Option.mem_some_iff] at step
    subst step
    cases o <;> simp_all [Law, onPath, external]
  case restartSinceRestarted | restartSinceTerminated | terminateSinceTerminated
    | terminateSinceRestarted =>
    rw [stepCall, Option.mem_some_iff] at step
    subst step
    rw [tooSoon]
    split <;> simp [Law, onPath, law]
  case startCommit | restartCommit | terminateCommit =>
    obtain ⟨-, rfl⟩ := mem_locking.mp step
    subst law
    rfl
  case returned ret => cases step

/-- Run alone with no external step panicking, a `Start` or `Restart` that returns
`nil` leaves its node active, and a `Terminate` that returns `nil` leaves it
inactive. -/
theorem callAlone_nil_law (up : Bool) {n : String} {v v' : View} {pc : Pc}
    {inputs : List (Nat × Outcome)} (calm : ∀ i ∈ inputs, i.2 ≠ .panic) (path : onPath up pc = true)
    (h : callAlone n v pc inputs = some (.nil, v')) : v'.node.active = up :=
  callAlone_invariant (Law up) (· ≠ .panic) (fun _ pc _ law => by cases pc <;> exact law)
    (fun _ _ _ calm law => stepCall_law calm law) calm (by cases pc <;> first | exact path | simp [onPath] at path) h

theorem start_alone_activates :
    ∃ v', callAlone "a" ((initial ["a"] 10 100).view "a") .startRead (List.replicate 4 (0, .ok)) =
      some (.nil, v') ∧ v'.node.active = true :=
  ⟨_, rfl, @callAlone_nil_law true "a" ((initial ["a"] 10 100).view "a") _ .startRead
    (List.replicate 4 (0, .ok)) (by decide) rfl rfl⟩

section Panic
variable (n : String) (v : View) (free : v.locked = false)
include free

/-- `Start` on an inactive node: when `cmd.Start` panics, the call returns `nil` and
the node stays inactive. -/
theorem start_launch_panic (inactive : v.node.active = false) (d₁ d₂ d₃ : Nat) :
    ∃ v', callAlone n v .startRead [(d₁, .ok), (d₂, .ok), (d₃, .panic)] = some (.nil, v') ∧
      v'.node.active = false := by
  simp only [callAlone, stepCall, locking, free, inactive, serialise, external, Bool.false_eq_true, if_false]
  exact ⟨_, rfl, inactive⟩

/-- `Restart` on an inactive node whose stamps are a `limitInterval` old: when
`cmd.Start` panics, the call returns `nil` and the node stays inactive. -/
theorem restart_launch_panic (inactive : v.node.active = false)
    (cooled : v.node.lastTerminated + v.node.limitInterval ≤ v.clock ∧
      v.node.lastRestarted + v.node.limitInterval ≤ v.clock) (d₁ d₂ d₃ d₄ d₅ : Nat) :
    ∃ v', callAlone n v .restartRead [(d₁, .ok), (d₂, .ok), (d₃, .ok), (d₄, .ok), (d₅, .panic)] =
      some (.nil, v') ∧ v'.node.active = false := by
  simp (disch := omega) only [callAlone, stepCall, locking, free, inactive, tooSoon, if_neg, serialise,
    external, Bool.false_eq_true, if_false, View.setNode]
  exact ⟨_, rfl, inactive⟩

/-- `Terminate` on an active node whose stamps are a `limitInterval` old: when
`syscall.Kill` panics, the call returns `nil` and the node stays active. -/
theorem terminate_kill_panic (active : v.node.active = true)
    (cooled : v.node.lastTerminated + v.node.limitInterval ≤ v.clock ∧
      v.node.lastRestarted + v.node.limitInterval ≤ v.clock) (d₁ d₂ d₃ d₄ : Nat) :
    ∃ v', callAlone n v .terminateRead [(d₁, .ok), (d₂, .ok), (d₃, .ok), (d₄, .panic)] =
      some (.nil, v') ∧ v'.node.active = true := by
  simp (disch := omega) only [callAlone, stepCall, locking, free, active, tooSoon, if_neg, external,
    Bool.false_eq_true, if_false, if_true]
  exact ⟨_, rfl, active⟩

end Panic

section Bootstrap

/-- Writing back the view a world gives of a node changes nothing. -/
theorem put_view (w : World) (n : String) : w.put n (w.view n) = w := by
  simp [World.put, World.view]

theorem run_append (w : World) (es fs : List Event) : run w (es ++ fs) = (run w es).bind (run · fs) := by
  induction es generalizing w with
  | nil => rfl
  | cons e es ih =>
    rw [List.cons_append, run_cons, run_cons]
    cases step w e <;> simp [ih]

/-- A step of thread `k` that leaves its view as it found it moves only the thread. -/
theorem step_run_same {w : World} {k : Nat} {t t' : Thread} {o : Outcome} (found : w.threads[k]? = some t)
    (moved : stepThread (w.view t.node) t o = some (w.view t.node, t')) :
    step w (.run k o) = some { w with threads := w.threads.set k t' } := by
  simp only [step, found, moved, Option.map_some', put_view]

/-- The worker `k` of node `n` runs its `Start` to a panic in `cmd.Start`: it returns
`nil`, and nothing but the worker has moved. -/
theorem run_start_panics {w : World} {k : Nat} {n : String} (free : w.locked = false)
    (inactive : (w.node n).active = false) (found : w.threads[k]? = some ⟨n, .startRead, []⟩) :
    run w [.run k .ok, .run k .ok, .run k .panic] =
      some { w with threads := w.threads.set k ⟨n, .returned .nil, []⟩ } := by
  have bound : k < w.threads.length := (List.getElem?_eq_some_iff.mp found).1
  have read : stepThread (w.view n) ⟨n, .startRead, []⟩ .ok = some (w.view n, ⟨n, .startFlags, []⟩) := by
    simp [stepThread, stepCall, locking, free, inactive]
  have flags : stepThread (w.view n) ⟨n, .startFlags, []⟩ .ok = some (w.view n, ⟨n, .startLaunch, []⟩) := by
    simp [stepThread, stepCall, locking, free, serialise]
  have launch : stepThread (w.view n) ⟨n, .startLaunch, []⟩ .panic =
      some (w.view n, ⟨n, .returned .nil, []⟩) := rfl
  rw [run_cons, step_run_same found read, Option.some_bind, run_cons,
    step_run_same (List.getElem?_set_self bound) flags, Option.some_bind, run_cons,
    step_run_same (by simpa using List.getElem?_set_self bound) launch, Option.some_bind, run_nil]
  simp [List.set_set]

/-- The interleaving in which the workers from index `k` on take turns, each running
its `Start` to a panic in `cmd.Start`. -/
def panicking : Nat → List String → List Event
  | _, [] => []
  | k, _ :: names => [.run k .ok, .run k .ok, .run k .panic] ++ panicking (k + 1) names

/-- Worker after worker, each `Start` that panics returns `nil` and leaves the nodes
as they were. -/
theorem run_panicking {w : World} (free : w.locked = false) :
    ∀ (pre : List Thread) (names : List String), (∀ n ∈ names, (w.node n).active = false) →
      run { w with threads := pre ++ names.map (⟨·, .startRead, []⟩) } (panicking pre.length names) =
        some { w with threads := pre ++ names.map (⟨·, .returned .nil, []⟩) }
  | _, [], _ => rfl
  | pre, n :: names, inactive => by
    have found : (pre ++ (n :: names).map (⟨·, .startRead, []⟩))[pre.length]? = some ⟨n, .startRead, []⟩ := by
      rw [List.getElem?_append_right (Nat.le_refl _), Nat.sub_self, List.map_cons, List.getElem?_cons_zero]
    rw [panicking, run_append, @run_start_panics { w with threads := pre ++ (n :: names).map _ } _ _ free
      (inactive n (List.mem_cons_self _ _)) found, Option.some_bind]
    have rest := run_panicking free (pre ++ [⟨n, .returned .nil, []⟩]) names
      fun m mem => inactive m (List.mem_cons_of_mem _ mem)
    simpa using rest

/-- From a world with the mutex free and every node inactive, when each worker's
`Start` panics in `cmd.Start` every worker returns `nil` and reports `done`: in
whatever order the reports arrive, `Bootstrap` passes its fan-in and waits for the
interrupt, with no node active. -/
theorem bootstrap_passes_with_no_node_active {w : World} (free : w.locked = false)
    (nonempty : w.names ≠ []) (inactive : ∀ n ∈ w.names, (w.node n).active = false) :
    ∃ w', run (Bootstrap.fanOut w) (panicking w.threads.length w.names) = some w' ∧
      (∀ n ∈ w.names, (w'.node n).active = false) ∧
      ∀ arrivals, arrivals.Perm ((w'.threads.drop w.threads.length).map Bootstrap.sent) →
        Bootstrap.bootstrap w.names arrivals = some .awaitSignal := by
  refine ⟨_, run_panicking free w.threads w.names inactive, inactive, fun arrivals order => ?_⟩
  refine Bootstrap.bootstrap_all_done nonempty (fun a arrived => ?_) (by simp) order
  obtain ⟨t, mem, rfl⟩ := List.mem_map.mp arrived
  obtain ⟨n, -, rfl⟩ := List.mem_map.mp (by simpa using mem)
  rfl

end Bootstrap

/-- The law fails at a recovered panic. From every node state the call admits, a
panic in `cmd.Start` makes `Start` and `Restart` return `nil` with the node
inactive, and one in `syscall.Kill` makes `Terminate` return `nil` with the node
active. In every cluster with the mutex free and no node active, `Bootstrap`
whose `Start`s each panic so passes its fan-in with no node active. -/
theorem recovered_panic_returns_nil (n : String) (v : View) (free : v.locked = false)
    (cooled : v.node.lastTerminated + v.node.limitInterval ≤ v.clock ∧
      v.node.lastRestarted + v.node.limitInterval ≤ v.clock) (d₁ d₂ d₃ d₄ d₅ : Nat)
    (w : World) (clusterFree : w.locked = false) (nonempty : w.names ≠ [])
    (inactive : ∀ m ∈ w.names, (w.node m).active = false) :
    (v.node.active = false →
      (∃ v', callAlone n v .startRead [(d₁, .ok), (d₂, .ok), (d₃, .panic)] = some (.nil, v') ∧
        v'.node.active = false) ∧
      ∃ v', callAlone n v .restartRead [(d₁, .ok), (d₂, .ok), (d₃, .ok), (d₄, .ok), (d₅, .panic)] =
        some (.nil, v') ∧ v'.node.active = false) ∧
    (v.node.active = true →
      ∃ v', callAlone n v .terminateRead [(d₁, .ok), (d₂, .ok), (d₃, .ok), (d₄, .panic)] =
        some (.nil, v') ∧ v'.node.active = true) ∧
    ∃ w', run (Bootstrap.fanOut w) (panicking w.threads.length w.names) = some w' ∧
      (∀ m ∈ w.names, (w'.node m).active = false) ∧
      ∀ arrivals, arrivals.Perm ((w'.threads.drop w.threads.length).map Bootstrap.sent) →
        Bootstrap.bootstrap w.names arrivals = some .awaitSignal :=
  ⟨fun off => ⟨start_launch_panic n v free off d₁ d₂ d₃, restart_launch_panic n v free off cooled d₁ d₂ d₃ d₄ d₅⟩,
    fun up => terminate_kill_panic n v free up cooled d₁ d₂ d₃ d₄,
    bootstrap_passes_with_no_node_active clusterFree nonempty inactive⟩

theorem recovered_panic_on_a :
    (∃ v', callAlone "a" ((initial ["a"] 10 100).view "a") .startRead [(0, .ok), (0, .ok), (0, .panic)] =
      some (.nil, v') ∧ v'.node.active = false) ∧
    ∃ w', run (Bootstrap.fanOut (initial ["a"] 10 100)) (panicking 0 ["a"]) = some w' ∧
      (w'.node "a").active = false := by
  obtain ⟨start, -, w', ran, off, -⟩ := recovered_panic_returns_nil "a" ((initial ["a"] 10 100).view "a") rfl
    ⟨by decide, by decide⟩ 0 0 0 0 0 (initial ["a"] 10 100) rfl (List.cons_ne_nil _ _) (fun _ _ => rfl)
  exact ⟨(start rfl).1, w', ran, off "a" (List.mem_singleton_self _)⟩

end EtcdPlay.Recover
