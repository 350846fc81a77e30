import EtcdPlay.Lifecycle

/-!
Runs of a local cluster in which the calls on one node do not overlap: a call on a
node starts only once every earlier lifecycle call on that node has returned.
Calls on different nodes still interleave freely. In such runs the cool-down of
`Restart` and `Terminate` holds: the values read in the first critical section
are still current when the call commits, so every committed `Restart` or
`Terminate` comes at least `limitInterval` after the previous ones of its node.
When the calls on a node overlap, the check and the write are two critical
sections apart, and two calls that both passed the check both commit.
-/

namespace EtcdPlay.Sequential
open Lifecycle

def busyOn (w : World) (n : String) : Bool :=
  w.threads.any fun t => t.node == n && t.busy

/-- No call on a node starts while a lifecycle call on it is under way. -/
def sequential (w : World) : Event → Bool
  | .spawn n _ | .clusterCall n _ => !busyOn w n
  | _ => true

/-- The commits the cool-down spaces out. -/
def coolsDown (c : Commit) : Prop :=
  c.call = .restart ∨ c.call = .terminate

section Step
variable {n : String} {o : Outcome} {v : View} {pc : Pc}

/-- A step adds to the history only commits of its own node, at the current time. -/
theorem stepCall_commits :
    ∀ r ∈ stepCall n o v pc, r.1.clock = v.clock ∧ ∃ extra, r.1.commits = v.commits ++ extra ∧
      ∀ c ∈ extra, c.node = n ∧ c.time = v.clock := by
  rintro ⟨v', next⟩ h
  have effect : Effect n o pc v v' := stepCall_effect _ h
  cases effect with
  | record nd call => exact ⟨rfl, [⟨n, call, v.clock⟩], rfl, by simp⟩
  | _ => exact ⟨rfl, [], (List.append_nil _).symm, by simp⟩

/-- What a lifecycle call knows about its node while no other call on it runs: the
stamps it read are still the node's, and each check it passed stays passed. -/
def Cleared (L : Int) (nd : NodeWebLocal) (now : Int) : Pc → Prop
  | .restartSinceRestarted lt lr | .terminateSinceTerminated lt lr =>
      lt = nd.lastTerminated ∧ lr = nd.lastRestarted
  | .restartSinceTerminated lt => lt = nd.lastTerminated ∧ nd.lastRestarted + L ≤ now
  | .terminateSinceRestarted lr => lr = nd.lastRestarted ∧ nd.lastTerminated + L ≤ now
  | .restartFlags | .restartLaunch | .restartCommit _ | .terminateKill | .terminateCommit =>
      nd.lastRestarted + L ≤ now ∧ nd.lastTerminated + L ≤ now
  | _ => True

/-- The history of node `n` as a view of it shows it: the stamps bound the commits,
and the committed restarts and terminations are `L` apart. -/
structure Stamped (L : Int) (n : String) (v : View) : Prop where
  limit : v.node.limitInterval = L
  past : ∀ c ∈ v.commits, c.time ≤ v.clock
  restarts : ∀ c ∈ v.commits, c.node = n → c.call = .restart → c.time ≤ v.node.lastRestarted
  terminates : ∀ c ∈ v.commits, c.node = n → c.call = .terminate → c.time ≤ v.node.lastTerminated
  spaced : v.commits.Pairwise fun c d =>
    c.node = n → d.node = n → coolsDown c → coolsDown d → c.time + L ≤ d.time

variable {L : Int}

/-- A write that keeps the history and the limit and moves a stamp, if at all, to now. -/
theorem Stamped.restamp {v' : View} (ok : Stamped L n v) (commits : v'.commits = v.commits)
    (clock : v'.clock = v.clock) (limit : v'.node.limitInterval = v.node.limitInterval)
    (restarted : v'.node.lastRestarted = v.node.lastRestarted ∨ v'.node.lastRestarted = v.clock)
    (terminated : v'.node.lastTerminated = v.node.lastTerminated ∨
      v'.node.lastTerminated = v.clock) : Stamped L n v' where
  limit := limit.trans ok.limit
  past := by rw [commits, clock]; exact ok.past
  restarts c mem same call := by
    rw [commits] at mem
    rcases restarted with h | h <;> rw [h]
    exacts [ok.restarts c mem same call, ok.past c mem]
  terminates c mem same call := by
    rw [commits] at mem
    rcases terminated with h | h <;> rw [h]
    exacts [ok.terminates c mem same call, ok.past c mem]
  spaced := commits ▸ ok.spaced

/-- Recording a commit of node `n` now: a restart or termination must come `L` after
every earlier one of the node, and its own stamp must already be now. -/
theorem Stamped.record {call : Call} (ok : Stamped L n v)
    (restarted : call = .restart → v.clock ≤ v.node.lastRestarted)
    (terminated : call = .terminate → v.clock ≤ v.node.lastTerminated)
    (due : call = .restart ∨ call = .terminate →
      ∀ c ∈ v.commits, c.node = n → coolsDown c → c.time + L ≤ v.clock) :
    Stamped L n (v.record n call) where
  limit := ok.limit
  past c mem := by
    simp only [View.record, List.mem_append, List.mem_singleton] at mem
    rcases mem with mem | rfl
    exacts [ok.past c mem, Int.le_refl _]
  restarts c mem same isRestart := by
    simp only [View.record, List.mem_append, List.mem_singleton] at mem
    rcases mem with mem | rfl
    exacts [ok.restarts c mem same isRestart, restarted isRestart]
  terminates c mem same isTerminate := by
    simp only [View.record, List.mem_append, List.mem_singleton] at mem
    rcases mem with mem | rfl
    exacts [ok.terminates c mem same isTerminate, terminated isTerminate]
  spaced := List.pairwise_append.mpr ⟨ok.spaced, by simp, fun c mem d new same _ cools cools' => by
    simp only [List.mem_singleton] at new
    subst new
    exact due cools' c mem same cools⟩

theorem cleared_entry (call : Call) (nd : NodeWebLocal) (now : Int) :
    Cleared L nd now call.entry := by
  cases call <;> trivial

/-- One step of a call keeps its node's history stamped and what the call knows true. -/
theorem stepCall_stamped (ok : Stamped L n v) (cleared : Cleared L v.node v.clock pc) :
    ∀ r ∈ stepCall n o v pc, Stamped L n r.1 ∧ Cleared L r.1.node v.clock r.2 := by
  have keep : ∀ v' : View, v'.commits = v.commits → v'.clock = v.clock →
      v'.node.limitInterval = v.node.limitInterval →
      v'.node.lastRestarted = v.node.lastRestarted →
      v'.node.lastTerminated = v.node.lastTerminated → Stamped L n v' :=
    fun v' c k l r t => ok.restamp c k l (.inl r) (.inl t)
  have limit := ok.limit
  intro r step
  cases pc with
  | lookup call =>
    obtain ⟨-, rfl⟩ := mem_locking.mp step
    exact ⟨ok, by dsimp only; split; exacts [cleared_entry _ _ _, trivial]⟩
  | startRead | terminateRead | restartRead =>
    obtain ⟨-, rfl⟩ := mem_locking.mp step
    exact ⟨ok, by dsimp only; split <;> trivial⟩
  | isActiveRead => obtain ⟨-, rfl⟩ := mem_locking.mp step; exact ⟨ok, trivial⟩
  | startFlags | restartFlags =>
    obtain ⟨-, rfl⟩ := mem_locking.mp step
    cases o <;> first | exact ⟨keep _ rfl rfl rfl rfl rfl, cleared⟩ | exact ⟨keep _ rfl rfl rfl rfl rfl, trivial⟩
  | startLaunch | restartLaunch | terminateKill | cleanRemove =>
    rw [stepCall, Option.mem_some_iff] at step
    subst step
    cases o <;> first | exact ⟨keep _ rfl rfl rfl rfl rfl, cleared⟩ | exact ⟨keep _ rfl rfl rfl rfl rfl, trivial⟩
  | restartSinceRestarted lt lr | restartSinceTerminated lt | terminateSinceTerminated lt lr
    | terminateSinceRestarted lr =>
    rw [stepCall, Option.mem_some_iff] at step
    subst step
    refine ⟨ok, ?_⟩
    rw [tooSoon, limit]
    split
    · trivial
    · simp only [Cleared] at cleared ⊢
      omega
  | startCommit p =>
    obtain ⟨-, rfl⟩ := mem_locking.mp step
    exact ⟨Stamped.record (keep _ rfl rfl rfl rfl rfl) (by simp) (by simp) (by simp), trivial⟩
  | restartCommit p =>
    obtain ⟨-, rfl⟩ := mem_locking.mp step
    refine ⟨Stamped.record (ok.restamp rfl rfl rfl (.inr rfl) (.inl rfl)) (fun _ => Int.le_refl _)
      (by simp) ?_, trivial⟩
    intro _ c mem same cools
    change c.time + L ≤ v.clock
    simp only [Cleared] at cleared
    rcases cools with call | call
    · have := ok.restarts c mem same call; omega
    · have := ok.terminates c mem same call; omega
  | terminateCommit =>
    obtain ⟨-, rfl⟩ := mem_locking.mp step
    refine ⟨Stamped.record (ok.restamp rfl rfl rfl (.inl rfl) (.inr rfl)) (by simp)
      (fun _ => Int.le_refl _) ?_, trivial⟩
    intro _ c mem same cools
    change c.time + L ≤ v.clock
    simp only [Cleared] at cleared
    rcases cools with call | call
    · have := ok.restarts c mem same call; omega
    · have := ok.terminates c mem same call; omega
  | cleanRead =>
    obtain ⟨-, rfl⟩ := mem_locking.mp step
    exact ⟨ok.restamp rfl rfl rfl (.inl rfl) (.inr rfl), by dsimp only; split <;> trivial⟩
  | returned ret => cases step

/-- Commits of other nodes, made no later than now, leave the history of `n` stamped. -/
theorem Stamped.extend {v' : View} {extra : List Commit} (ok : Stamped L n v)
    (node : v'.node = v.node) (clock : v'.clock = v.clock) (commits : v'.commits = v.commits ++ extra)
    (others : ∀ c ∈ extra, c.node ≠ n ∧ c.time ≤ v.clock) : Stamped L n v' where
  limit := node ▸ ok.limit
  past c mem := by
    rw [commits, List.mem_append] at mem
    rw [clock]
    rcases mem with mem | mem
    exacts [ok.past c mem, (others c mem).2]
  restarts c mem same call := by
    rw [commits, List.mem_append] at mem
    rcases mem with mem | mem
    exacts [node ▸ ok.restarts c mem same call, absurd same (others c mem).1]
  terminates c mem same call := by
    rw [commits, List.mem_append] at mem
    rcases mem with mem | mem
    exacts [node ▸ ok.terminates c mem same call, absurd same (others c mem).1]
  spaced := by
    rw [commits, List.pairwise_append]
    refine ⟨ok.spaced, List.pairwise_of_forall_mem_list fun c mem _ _ same => ?_,
      fun _ _ d mem _ same => ?_⟩
    exacts [absurd same (others c mem).1, absurd same (others d mem).1]

/-- The clock moved on and nothing else that the history depends on changed. -/
theorem Stamped.later {v' : View} (ok : Stamped L n v) (node : v'.node = v.node)
    (commits : v'.commits = v.commits) (later : v.clock ≤ v'.clock) : Stamped L n v' where
  limit := node ▸ ok.limit
  past c mem := by
    rw [commits] at mem
    have := ok.past c mem
    omega
  restarts c mem := by rw [node]; rw [commits] at mem; exact ok.restarts c mem
  terminates c mem := by rw [node]; rw [commits] at mem; exact ok.terminates c mem
  spaced := commits ▸ ok.spaced

theorem Cleared.mono {nd : NodeWebLocal} {now now' : Int} (later : now ≤ now')
    (cleared : Cleared L nd now pc) : Cleared L nd now' pc := by
  cases pc <;> simp only [Cleared] at cleared ⊢ <;> first | trivial | omega

theorem cleared_of_idle {t : Thread} {nd : NodeWebLocal} {now : Int} (idle : t.busy = false) :
    Cleared L nd now t.pc := by
  obtain ⟨node, pc, rest⟩ := t
  cases pc <;> simp_all [Thread.busy, Cleared]

end Step

section Thread
variable {L : Int} {v : View} {t : Thread} {o : Outcome}

theorem stepThread_commits : ∀ r ∈ stepThread v t o, r.1.clock = v.clock ∧
    ∃ extra, r.1.commits = v.commits ++ extra ∧ ∀ c ∈ extra, c.node = t.node ∧ c.time = v.clock := by
  intro r h
  rcases stepThread_cases h with ⟨-, -, -, -, -, rfl⟩ | ⟨next, mem, rfl⟩
  · exact ⟨rfl, [], by simp, by simp⟩
  · exact stepCall_commits next mem

theorem stepThread_stamped (ok : Stamped L t.node v) (cleared : Cleared L v.node v.clock t.pc) :
    ∀ r ∈ stepThread v t o, Stamped L t.node r.1 ∧ Cleared L r.1.node v.clock r.2.pc := by
  intro r h
  rcases stepThread_cases h with ⟨-, call, -, -, -, rfl⟩ | ⟨next, mem, rfl⟩
  · exact ⟨ok, cleared_entry call _ _⟩
  · exact stepCall_stamped ok cleared next mem

end Thread

theorem idle_of_not_busyOn {w : World} {n : String} (free : busyOn w n = false) :
    ∀ (i : Nat) (t : Thread), w.threads[i]? = some t → t.node = n → t.busy = false := by
  intro i t found same
  simp only [busyOn, List.any_eq_false, Bool.and_eq_true, beq_iff_eq, not_and,
    Bool.not_eq_true] at free
  exact free t (List.getElem?_mem found) same

/-- A fact of each call about its node that an idle call has whatever the node: after
a step of thread `tid` it still holds of every other thread, when no two calls on one
node are under way at once. -/
theorem others_keep (F : NodeWebLocal → Thread → Prop) (idle : ∀ nd t, t.busy = false → F nd t)
    {w : World} {tid i : Nat} {t a : Thread} {o : Outcome} {r : View × Thread}
    (single : ∀ (i j : Nat) (t u : Thread), w.threads[i]? = some t → w.threads[j]? = some u →
      t.node = u.node → t.busy = true → u.busy = true → i = j)
    (facts : ∀ (i : Nat) (a : Thread), w.threads[i]? = some a → F (w.node a.node) a)
    (found : w.threads[tid]? = some t) (moved : r ∈ stepThread (w.view t.node) t o)
    (other : i ≠ tid) (ha : w.threads[i]? = some a) : F ((w.put t.node r.1).node a.node) a := by
  by_cases same : a.node = t.node
  · cases busyA : a.busy
    · exact idle _ _ busyA
    · cases busyT : t.busy
      · rw [same, (stepThread_idle busyT r moved).1, ← same]
        simpa using facts i a ha
      · exact absurd (single _ _ _ _ ha found same busyA busyT) other
  · rw [put_node_ne _ _ _ _ same]
    exact facts i a ha

section World
variable {L : Int}

/-- The invariant of the runs in which the calls on a node do not overlap. -/
structure CoolDown (L : Int) (w : World) : Prop where
  stamped : ∀ m, Stamped L m (w.view m)
  single : ∀ (i j : Nat) (t u : Thread), w.threads[i]? = some t → w.threads[j]? = some u →
    t.node = u.node → t.busy = true → u.busy = true → i = j
  cleared : ∀ (i : Nat) (t : Thread), w.threads[i]? = some t → Cleared L (w.node t.node) w.clock t.pc

theorem coolDown_initial (names : List String) (clock : Int) :
    CoolDown L (initial names L clock) where
  stamped _ := ⟨rfl, by simp [initial, World.view], by simp [initial, World.view],
    by simp [initial, World.view], List.Pairwise.nil⟩
  single := by simp [initial]
  cleared := by simp [initial]

theorem coolDown_thread {w : World} {tid : Nat} {t : Thread} {o : Outcome} {r : View × Thread}
    (inv : CoolDown L w) (found : w.threads[tid]? = some t)
    (moved : r ∈ stepThread (w.view t.node) t o) :
    CoolDown L { w.put t.node r.1 with threads := w.threads.set tid r.2 } where
  stamped m := by
    obtain ⟨clock, extra, commits, fresh⟩ := stepThread_commits r moved
    by_cases same : m = t.node
    · subst same
      exact Stamped.extend (stepThread_stamped (inv.stamped _) (inv.cleared tid t found) r moved).1
        (by simp [World.view]) (by simp [World.view, clock]) (List.append_nil _).symm (by simp)
    · refine Stamped.extend (inv.stamped m) (by simp [World.view, put_node_ne _ _ _ _ same]) rfl
        (by simpa [World.view] using commits) fun c mem => ?_
      obtain ⟨node, time⟩ := fresh c mem
      exact ⟨node ▸ Ne.symm same, by simp only [view_clock] at time ⊢; omega⟩
  single i j a b ha hb sameNode busyA busyB := by
    have before : ∀ (k : Nat) (c : Thread), (w.threads.set tid r.2)[k]? = some c → c.busy = true →
        ∃ c' : Thread, w.threads[k]? = some c' ∧ c'.node = c.node ∧ c'.busy = true := by
      intro k c hc busyC
      rcases getElem?_set_cases hc with ⟨rfl, rfl⟩ | ⟨-, hc⟩
      · exact ⟨t, found, (stepThread_node r moved).symm, stepThread_busy r moved busyC⟩
      · exact ⟨c, hc, rfl, busyC⟩
    obtain ⟨a', ha', na, ba⟩ := before i a ha busyA
    obtain ⟨b', hb', nb, bb⟩ := before j b hb busyB
    exact inv.single i j a' b' ha' hb' (by rw [na, nb, sameNode]) ba bb
  cleared i a ha := by
    rcases getElem?_set_cases ha with ⟨-, rfl⟩ | ⟨other, ha⟩
    · have := (stepThread_stamped (inv.stamped _) (inv.cleared tid t found) r moved).2
      simpa [stepThread_node r moved] using this
    · exact others_keep (fun nd a => Cleared L nd w.clock a.pc) (fun _ _ => cleared_of_idle) inv.single
        inv.cleared found moved other ha

theorem coolDown_fork {w : World} {t : Thread} (inv : CoolDown L w) (free : busyOn w t.node = false)
    (entry : Cleared L (w.node t.node) w.clock t.pc) : CoolDown L (w.fork t) where
  stamped m := inv.stamped m
  single i j a b ha hb sameNode busyA busyB := by
    have quiet := idle_of_not_busyOn free
    rcases getElem?_concat_cases ha with ⟨hi, rfl⟩ | oldA <;>
      rcases getElem?_concat_cases hb with ⟨hj, rfl⟩ | oldB
    · omega
    · simp [quiet j b oldB sameNode.symm] at busyB
    · simp [quiet i a oldA sameNode] at busyA
    · exact inv.single i j a b oldA oldB sameNode busyA busyB
  cleared i a ha := by
    rcases getElem?_concat_cases ha with ⟨-, rfl⟩ | ha
    exacts [entry, inv.cleared i a ha]

theorem coolDown_step {w w' : World} {e : Event} (inv : CoolDown L w)
    (allowed : sequential w e = true) (h : step w e = some w') : CoolDown L w' := by
  cases e with
  | spawn m calls =>
    obtain ⟨call, rest, -, -, rfl⟩ := step_spawn h
    exact coolDown_fork inv (by simpa [sequential] using allowed) (cleared_entry _ _ _)
  | clusterCall m call =>
    obtain rfl := step_clusterCall h
    exact coolDown_fork inv (by simpa [sequential] using allowed) trivial
  | run tid o =>
    obtain ⟨t, r, found, moved, rfl⟩ := step_run h
    exact coolDown_thread inv found moved
  | tick d =>
    cases h
    have later : w.clock ≤ w.clock + d := by omega
    exact ⟨fun m => (inv.stamped m).later rfl rfl later, inv.single,
      fun i t found => (inv.cleared i t found).mono later⟩
  | exit pid =>
    obtain rfl := step_exit h
    exact ⟨fun m => (inv.stamped m).later rfl rfl (Int.le_refl _), inv.single, inv.cleared⟩

theorem coolDown_run {names : List String} {clock : Int} {evs : List Event} {w : World}
    (h : runWhile sequential (initial names L clock) evs = some w) : CoolDown L w :=
  runWhile_invariant (CoolDown L) (fun _ _ _ inv allowed next => coolDown_step inv allowed next)
    (coolDown_initial names clock) h

end World

theorem pairwise_of_nodes {P : Commit → Commit → Prop} {l : List Commit}
    (each : ∀ m, l.Pairwise fun c d => c.node = m → d.node = m → P c d) :
    l.Pairwise fun c d => c.node = d.node → P c d := by
  induction l with
  | nil => exact .nil
  | cons c l ih =>
    refine List.pairwise_cons.mpr ⟨fun d mem same => ?_, ih fun m => (List.pairwise_cons.mp (each m)).2⟩
    exact (List.pairwise_cons.mp (each c.node)).1 d mem rfl same.symm

/-- In every run in which the calls on a node do not overlap, whatever the limit, the
clock and the outcomes of the external steps, the committed restarts and
terminations of each node are at least `limitInterval` apart. -/
theorem sequential_restarts_terminations_spaced (names : List String) (L clock : Int)
    (evs : List Event) (w : World) (h : runWhile sequential (initial names L clock) evs = some w) :
    w.commits.Pairwise fun c d =>
      c.node = d.node → coolsDown c → coolsDown d → c.time + L ≤ d.time :=
  pairwise_of_nodes fun m => ((coolDown_run h).stamped m).spaced

/-- A restart of node `a`, then its termination once the limit has passed. -/
def restartThenTerminate : List Event :=
  [.spawn "a" [.restart], .run 0 .ok, .run 0 .ok, .run 0 .ok, .run 0 .ok, .run 0 .ok, .run 0 .ok,
   .tick 10, .spawn "a" [.terminate], .run 1 .ok, .run 1 .ok, .run 1 .ok, .run 1 .ok, .run 1 .ok]

theorem restart_then_terminate_spaced :
    ∃ w, runWhile sequential (initial ["a"] 10 100) restartThenTerminate = some w ∧
      w.commits = [⟨"a", .restart, 100⟩, ⟨"a", .terminate, 110⟩] ∧
      w.commits.Pairwise fun c d =>
        c.node = d.node → coolsDown c → coolsDown d → c.time + 10 ≤ d.time :=
  ⟨_, rfl, rfl, sequential_restarts_terminations_spaced ["a"] 10 100 restartThenTerminate _ rfl⟩

/-- Two goroutines call `Start` on node `a` at once; both take the first critical
section before either takes the last. -/
def overlappingStarts : List Event :=
  [.spawn "a" [.start], .spawn "a" [.start], .run 0 .ok, .run 1 .ok, .run 0 .ok, .run 0 .ok,
   .run 0 .ok, .run 1 .ok, .run 1 .ok, .run 1 .ok]

/-- Two goroutines call `Terminate` on the running node `a` at once; both take the
first critical section before either takes the last. -/
def overlappingTerminates : List Event :=
  [.spawn "a" [.terminate], .spawn "a" [.terminate], .run 0 .ok, .run 1 .ok,
   .run 0 .ok, .run 0 .ok, .run 0 .ok, .run 0 .ok, .run 1 .ok, .run 1 .ok, .run 1 .ok, .run 1 .ok]

/-- With overlapping calls both `Start`s pass the `active` check, launch a child and
return `nil`, whatever the limit and the clock, with no `Terminate` between them. -/
theorem overlapping_starts_launch_twice (L clock : Int) :
    ∃ w, run (initial ["a"] L clock) overlappingStarts = some w ∧
      w.threads.map (·.pc) = [.returned .nil, .returned .nil] ∧
      w.running 1 = true ∧ w.running 2 = true ∧
      w.commits.map (·.call) = [.start, .start] :=
  ⟨_, rfl, rfl, rfl, rfl, rfl⟩

end EtcdPlay.Sequential
