import EtcdPlay.Lifecycle

/-!
The mutex `c.mu`, which every local node inherits as `pmu`. Each critical section
of the lifecycle locks and unlocks it within one step, except the returns after
`Flags.String()` in `Start` and `Restart`, which leave it held: no `Unlock` runs on
those paths, and the deferred `recover` does not unlock either. Nothing unlocks a
held mutex, so from then on every critical section of every node, and every
lookup of the cluster, waits forever.
-/

namespace EtcdPlay.Mutex
open Lifecycle

variable {n : String} {o : Outcome} {v : View} {pc : Pc}

theorem entry_critical (call : Call) : call.entry.critical = true := by
  cases call <;> rfl

theorem stepCall_waits (held : v.locked = true) (critical : pc.critical = true) :
    stepCall n o v pc = none := by
  cases pc <;> simp_all [stepCall, locking, Pc.critical]

theorem stepCall_keeps_held (held : v.locked = true) :
    ∀ r ∈ stepCall n o v pc, r.1.locked = true := by
  rintro ⟨v', next⟩ h
  have effect : Effect n o pc v v' := stepCall_effect _ h
  cases effect with
  | setNode _ free | hold _ free | record _ _ free => simp [held] at free
  | _ => exact held

/-- The only steps that leave the mutex held are the failing and panicking
`Flags.String()` of `Start` and `Restart`. -/
theorem stepCall_leaves_held (free : v.locked = false) :
    ∀ r ∈ stepCall n o v pc, r.1.locked = true →
      (pc = .startFlags ∨ pc = .restartFlags) ∧ o ≠ .ok := by
  rintro ⟨v', next⟩ h locked
  have effect : Effect n o pc v v' := stepCall_effect _ h
  cases effect with
  | hold _ _ flags failed => exact ⟨flags, failed⟩
  | _ => simp [View.launch, View.setNode, View.record, free] at locked

theorem stepThread_waits {t : Thread} (held : v.locked = true) (critical : t.pc.critical = true) :
    stepThread v t o = none := by
  have notReturned : ∀ r, t.pc ≠ .returned r := fun r same => by simp [same, Pc.critical] at critical
  unfold stepThread
  split
  · exact absurd ‹_› (notReturned _)
  · simp [stepCall_waits held critical]

theorem stepThread_keeps_held {t : Thread} (held : v.locked = true) :
    ∀ r ∈ stepThread v t o, r.1.locked = true := by
  unfold stepThread
  split
  · simpa using held
  · simp only [Option.mem_def, Option.map_eq_some', forall_exists_index, and_imp]
    rintro _ _ next rfl
    exact stepCall_keeps_held held _ next

theorem stepThread_leaves_held {t : Thread} (free : v.locked = false) :
    ∀ r ∈ stepThread v t o, r.1.locked = true →
      (t.pc = .startFlags ∨ t.pc = .restartFlags) ∧ o ≠ .ok := by
  intro r h
  rcases stepThread_cases h with ⟨-, -, -, -, -, rfl⟩ | ⟨next, mem, rfl⟩
  · intro locked
    simp [free] at locked
  · exact stepCall_leaves_held free next mem

/-- The steps in which `Flags.String()` succeeds; every other external step may fail
or panic. -/
def flagsSucceed (w : World) : Event → Bool
  | .run tid o =>
      o == .ok || !(w.threads[tid]?.any fun t => t.pc == .startFlags || t.pc == .restartFlags)
  | _ => true

theorem step_keeps_free {w w' : World} {e : Event} (free : w.locked = false)
    (allowed : flagsSucceed w e = true) (h : step w e = some w') : w'.locked = false := by
  cases e with
  | spawn m calls => obtain ⟨call, rest, -, -, rfl⟩ := step_spawn h; exact free
  | clusterCall m call => obtain rfl := step_clusterCall h; exact free
  | run tid o =>
    obtain ⟨t, r, found, moved, rfl⟩ := step_run h
    cases locked : r.1.locked
    · exact locked
    · obtain ⟨flags, failed⟩ := stepThread_leaves_held free r moved locked
      rcases flags with flags | flags <;> simp [flagsSucceed, found, flags, failed] at allowed
  | tick d => cases h; exact free
  | exit pid => obtain rfl := step_exit h; exact free

/-- In every run from a free mutex in which `Flags.String()` never fails or panics,
whatever the other external steps do, the mutex is free after every step: leaving
it held takes a failing `Flags.String()`. -/
theorem flags_succeed_keep_free {w w' : World} {evs : List Event} (free : w.locked = false)
    (h : runWhile flagsSucceed w evs = some w') : w'.locked = false :=
  runWhile_invariant (fun w => w.locked = false)
    (fun _ _ _ free allowed next => step_keeps_free free allowed next) free h

theorem start_keeps_free :
    (initial ["a"] 10 100).locked = false ∧
      ∃ w', runWhile flagsSucceed (initial ["a"] 10 100)
        [.spawn "a" [.start], .run 0 .ok, .run 0 .ok, .run 0 .ok, .run 0 .ok] = some w' ∧
        w'.locked = false :=
  ⟨rfl, _, rfl, @flags_succeed_keep_free (initial ["a"] 10 100) _
    [.spawn "a" [.start], .run 0 .ok, .run 0 .ok, .run 0 .ok, .run 0 .ok] rfl rfl⟩

/-- While the mutex is held, a thread at a critical section stays where it is. -/
theorem step_stuck {w w' : World} {e : Event} {tid : Nat} {t : Thread}
    (critical : t.pc.critical = true) (held : w.locked = true)
    (waiting : w.threads[tid]? = some t) (h : step w e = some w') :
    w'.locked = true ∧ w'.threads[tid]? = some t := by
  have inRange : tid < w.threads.length := (List.getElem?_eq_some_iff.mp waiting).1
  have forked : ∀ u, (w.fork u).threads[tid]? = some t := fun u => by
    rw [World.fork, List.getElem?_append_left inRange, waiting]
  cases e with
  | spawn m calls => obtain ⟨call, rest, -, -, rfl⟩ := step_spawn h; exact ⟨held, forked _⟩
  | clusterCall m call => obtain rfl := step_clusterCall h; exact ⟨held, forked _⟩
  | run tid' o =>
    obtain ⟨t', next, found, moved, rfl⟩ := step_run h
    refine ⟨stepThread_keeps_held (by simpa using held) next moved, ?_⟩
    by_cases same : tid' = tid
    · subst same
      rw [waiting, Option.some.injEq] at found
      subst found
      rw [stepThread_waits (by simpa using held) critical] at moved
      cases moved
    · simpa [List.getElem?_set_ne same] using waiting
  | tick d => cases h; exact ⟨held, waiting⟩
  | exit pid => obtain rfl := step_exit h; exact ⟨held, waiting⟩

theorem run_stuck {w w' : World} {evs : List Event} {tid : Nat} {t : Thread}
    (critical : t.pc.critical = true) (held : w.locked = true)
    (waiting : w.threads[tid]? = some t) (h : run w evs = some w') :
    w'.locked = true ∧ w'.threads[tid]? = some t :=
  run_invariant (fun w => w.locked = true ∧ w.threads[tid]? = some t)
    (fun _ _ _ inv next => step_stuck critical inv.1 inv.2 next) ⟨held, waiting⟩ h

/-- A call made on any node after the mutex is held waits at its first critical
section in every continuation, whether the goroutine calls the node or the cluster. -/
theorem later_call_stuck {w w' : World} {evs : List Event} {m : String} {call : Call}
    (held : w.locked = true) (h : run w (.spawn m [call] :: evs) = some w') :
    w'.threads[w.threads.length]? = some ⟨m, call.entry, []⟩ := by
  simp only [run_cons, step] at h
  split at h
  · rw [Option.some_bind] at h
    exact (run_stuck (w := w.fork _) (entry_critical call) held (by simp [World.fork]) h).2
  · cases h

theorem later_lookup_stuck {w w' : World} {evs : List Event} {m : String} {call : Call}
    (held : w.locked = true) (h : run w (.clusterCall m call :: evs) = some w') :
    w'.threads[w.threads.length]? = some ⟨m, .lookup call, []⟩ := by
  simp only [run_cons, step] at h
  split at h
  · cases h
  · rw [Option.some_bind] at h
    exact (run_stuck (w := w.fork _) (t := ⟨m, .lookup call, []⟩) rfl held (by simp [World.fork]) h).2

/-- `Start` on node `a`, whose `Flags.String()` returns an error. -/
def flagsError : List Event := [.spawn "a" [.start], .run 0 .ok, .run 0 .error]

theorem start_flags_error_blocks_later_calls :
    ∃ w, run (initial ["a", "b"] 10 100) flagsError = some w ∧
      w.threads = [⟨"a", .returned (.error .external), []⟩] ∧
      (∀ m call evs w', run w (.spawn m [call] :: evs) = some w' →
        w'.threads[1]? = some ⟨m, call.entry, []⟩) ∧
      (∀ m call evs w', run w (.clusterCall m call :: evs) = some w' →
        w'.threads[1]? = some ⟨m, .lookup call, []⟩) :=
  ⟨_, rfl, rfl, fun _ _ _ _ h => later_call_stuck rfl h, fun _ _ _ _ h => later_lookup_stuck rfl h⟩

end EtcdPlay.Mutex
