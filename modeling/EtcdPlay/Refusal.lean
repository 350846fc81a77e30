import EtcdPlay.Lifecycle

/-!
What a lifecycle call that returns an error leaves behind. `Start`, `Restart` and
`Terminate` write the node only in their last critical section, which returns
`nil`; the flag update of `Restart` touches `InitialClusterState` alone. So when
they return an error, `active`, `PID`, `cmd` and both stamps are as they were.
`Clean` writes `lastTerminated` in its first critical section, before it checks
`active`: a `Clean` refused as "already running" moves the stamp, and with it the
cool-down of the next `Terminate`.
-/

namespace EtcdPlay.Refusal
open Lifecycle

/-- The fields a refused call should leave as they were. -/
def lifecycle (nd : NodeWebLocal) : Bool × Nat × Option Nat × Int × Int :=
  (nd.active, nd.pid, nd.cmd, nd.lastTerminated, nd.lastRestarted)

/-- A call of `Start`, `Restart`, `Terminate` or `IsActive` that has not returned. -/
def pending : Pc → Bool
  | .lookup call => call != .clean
  | .cleanRead | .cleanRemove | .returned _ => false
  | _ => true

theorem pending_entry {call : Call} (notClean : call ≠ .clean) : pending call.entry = true := by
  cases call <;> simp_all [pending, Call.entry]

/-- A step of a pending call either leaves the node's lifecycle fields as they were
and stays pending or returns, or it is the last critical section and returns `nil`. -/
theorem stepCall_pending {n : String} {o : Outcome} {v : View} {pc : Pc}
    (still : pending pc = true) :
    ∀ r ∈ stepCall n o v pc, (lifecycle r.1.node = lifecycle v.node ∧
      (pending r.2 = true ∨ ∃ ret, r.2 = .returned ret)) ∨ r.2 = .returned .nil := by
  intro r step
  cases pc with
  | lookup call =>
    obtain ⟨-, rfl⟩ := mem_locking.mp step
    refine .inl ⟨rfl, ?_⟩
    dsimp only
    split
    · exact .inl (pending_entry (by simpa [pending] using still))
    · exact .inr ⟨_, rfl⟩
  | cleanRead | cleanRemove | returned _ => simp [pending] at still
  | startCommit p | restartCommit p | terminateCommit =>
    obtain ⟨-, rfl⟩ := mem_locking.mp step
    exact .inr rfl
  | isActiveRead =>
    obtain ⟨-, rfl⟩ := mem_locking.mp step
    exact .inl ⟨rfl, .inr ⟨_, rfl⟩⟩
  | startRead | restartRead | terminateRead =>
    obtain ⟨-, rfl⟩ := mem_locking.mp step
    refine .inl ⟨rfl, ?_⟩
    dsimp only
    split <;> simp [pending]
  | startFlags | restartFlags =>
    obtain ⟨-, rfl⟩ := mem_locking.mp step
    cases o <;> simp [serialise, pending, lifecycle, View.hold, View.setNode, NodeWebLocal.rejoining]
  | startLaunch | restartLaunch | terminateKill =>
    rw [stepCall, Option.mem_some_iff] at step
    subst step
    cases o <;> simp [external, pending, lifecycle, View.launch]
  | restartSinceRestarted lt lr | restartSinceTerminated lt | terminateSinceTerminated lt lr
    | terminateSinceRestarted lr =>
    rw [stepCall, Option.mem_some_iff] at step
    subst step
    refine .inl ⟨rfl, ?_⟩
    simp only [tooSoon]
    split <;> simp [pending]

/-- Run alone, a `Start`, `Restart` or `Terminate` (or `IsActive`) that returns an
error leaves the node's `active`, `PID`, `cmd` and stamps as they were, whatever the
node, the clock and the outcomes of its external steps. -/
theorem callAlone_error_keeps {n : String} :
    ∀ {inputs : List (Nat × Outcome)} {v v' : View} {pc : Pc} {e : Error},
      (pending pc = true ∨ ∃ ret, pc = .returned ret) →
      callAlone n v pc inputs = some (.error e, v') → lifecycle v'.node = lifecycle v.node
  | inputs, v, v', pc, e, start, h => by
    rcases start with still | ⟨ret, rfl⟩
    · have running : ∀ ret, pc = .returned ret → False := by
        rintro ret rfl; simp [pending] at still
      cases inputs with
      | nil => rw [callAlone.eq_2 _ _ _ running] at h; cases h
      | cons input rest =>
        obtain ⟨d, o⟩ := input
        rw [callAlone.eq_3 _ _ _ _ _ _ running] at h
        split at h
        · rename_i next moved
          rcases stepCall_pending still next moved with ⟨same, next'⟩ | done
          · exact (callAlone_error_keeps next' h).trans same
          · rw [done, callAlone.eq_1] at h
            cases h
        · cases h
    · rw [callAlone.eq_1] at h
      cases h
      rfl

/-- `Start` on node `a` at time 100; a `Clean` of the running node at 150, refused;
a `Terminate` at 155. -/
def cleanWhileRunning : List Event :=
  [.spawn "a" [.start], .run 0 .ok, .run 0 .ok, .run 0 .ok, .run 0 .ok,
   .tick 50, .spawn "a" [.clean], .run 1 .ok,
   .tick 5, .spawn "a" [.terminate], .run 2 .ok, .run 2 .ok]

/-- The refused `Clean` has moved `lastTerminated` from 0 to 150, and the
`Terminate`, which the stamps of `Start` alone would let through, is refused as too
soon after it. -/
theorem refused_clean_moves_lastTerminated :
    ∃ w, run (initial ["a"] 10 100) cleanWhileRunning = some w ∧
      w.threads.map (·.pc) = [.returned .nil, .returned (.error (.alreadyRunning "a")),
        .returned (.error (.terminatedSameNode 5 10))] ∧
      (w.node "a").lastTerminated = 150 :=
  ⟨_, rfl, rfl, rfl⟩

end EtcdPlay.Refusal
