import Mathlib.Logic.Function.Basic
import Mathlib.Data.Option.Defs

/-!
The lifecycle of `NodeWebLocal` (proc/node_web_local.go) as an interleaving model.
Every local node shares the cluster's mutex (`pmu = &c.mu`), and each call on a
node is a thread whose program counter names the critical section or the external
step it takes next, together with the values it has already read. A critical
section (`Lock`, its body, `Unlock`) is one atomic step, enabled only while the
mutex is free; an early `return` inside it leaves the mutex held, since nothing
defers the `Unlock`. Flag serialisation, the process launch, the kill and the
directory removal are external steps whose outcome is an input of the step. The
environment advances the clock and lets child processes exit.

Times are nanoseconds since the zero `time.Time`, durations are integers.
`t.Sub(u)` saturates at the bounds of `int64`, which leaves every comparison with
an `int64` limit as it is with exact subtraction. The lines sent to the shared
stream are not modelled here, nor is the process a signal is sent to: a child
exits only at an environment step. `commits` is a history variable that the code
does not have; it records each `Start`, `Restart` and `Terminate` that reached
its final critical section, with the time of that section.
-/

namespace EtcdPlay.Lifecycle

/-- The errors of the lifecycle calls, one constructor per site of the source. -/
inductive Error where
  -- "%s is already running or requested to restart" (Start, Restart, Clean)
  | alreadyRunning (name : String)
  -- "%s is already terminated or requested to terminate"
  | alreadyTerminated (name : String)
  -- "Somebody restarted the same node (only %v ago)! Retry in %v!"
  | restartedSameNode (ago retry : Int)
  -- "Somebody terminated the node (only %v ago)! Retry in %v!"
  | terminatedNode (ago retry : Int)
  -- "Somebody terminated the same node (only %v ago)! Retry in %v!"
  | terminatedSameNode (ago retry : Int)
  -- "Somebody restarted the node (only %v ago)! Retry in %v!"
  | restartedNode (ago retry : Int)
  -- "%s does not exist" (the lookup of `defaultCluster`)
  | doesNotExist (name : String)
  -- returned by `Flags.String`, `cmd.Start`, `syscall.Kill` or `os.RemoveAll`
  | external
  deriving DecidableEq, Repr

/-- How an external step ended. -/
inductive Outcome where
  | ok
  | error
  | panic
  deriving DecidableEq, Repr

/-- What a call returned. After a recovered panic a call returns its zero value `nil`. -/
inductive Return where
  | nil
  | error (e : Error)
  | active (b : Bool)
  deriving DecidableEq, Repr

/-- The fields of `NodeWebLocal` that the lifecycle reads or writes; `cmd` is the
launched command, named by its process id. -/
structure NodeWebLocal where
  name : String
  limitInterval : Int
  initialClusterState : String
  cmd : Option Nat
  pid : Nat
  active : Bool
  lastTerminated : Int
  lastRestarted : Int
  deriving DecidableEq, Repr

namespace NodeWebLocal

/-- The writes of the last critical sections of `Start` and `Restart`, of `Terminate`,
of the first one of `Clean`, and of `Restart`'s flag update. -/
def started (nd : NodeWebLocal) (pid : Nat) : NodeWebLocal :=
  { nd with cmd := some pid, pid := pid, active := true }

def restarted (nd : NodeWebLocal) (pid : Nat) (now : Int) : NodeWebLocal :=
  { nd with cmd := some pid, pid := pid, lastRestarted := now, active := true }

def terminated (nd : NodeWebLocal) (now : Int) : NodeWebLocal :=
  { nd with lastTerminated := now, active := false }

def cleaned (nd : NodeWebLocal) (now : Int) : NodeWebLocal :=
  { nd with lastTerminated := now }

def rejoining (nd : NodeWebLocal) : NodeWebLocal :=
  { nd with initialClusterState := "existing" }

end NodeWebLocal

inductive Call where
  | start
  | restart
  | terminate
  | clean
  | isActive
  deriving DecidableEq, Repr

inductive Pc where
  | lookup (call : Call)
  | startRead
  | startFlags
  | startLaunch
  | startCommit (pid : Nat)
  | restartRead
  | restartSinceRestarted (lastTerminated lastRestarted : Int)
  | restartSinceTerminated (lastTerminated : Int)
  | restartFlags
  | restartLaunch
  | restartCommit (pid : Nat)
  | terminateRead
  | terminateSinceTerminated (lastTerminated lastRestarted : Int)
  | terminateSinceRestarted (lastRestarted : Int)
  | terminateKill
  | terminateCommit
  | cleanRead
  | cleanRemove
  | isActiveRead
  | returned (r : Return)
  deriving DecidableEq, Repr

/-- The steps that are critical sections on the mutex. -/
def Pc.critical : Pc → Bool
  | .lookup _ | .startRead | .startFlags | .startCommit _ | .restartRead | .restartFlags
  | .restartCommit _ | .terminateRead | .terminateCommit | .cleanRead | .isActiveRead => true
  | _ => false

def Call.entry : Call → Pc
  | .start => .startRead
  | .restart => .restartRead
  | .terminate => .terminateRead
  | .clean => .cleanRead
  | .isActive => .isActiveRead

structure Commit where
  node : String
  call : Call
  time : Int
  deriving DecidableEq, Repr

/-- A goroutine working on one node; `rest` are the calls it makes after the
current one returns, whatever it returned (the worker of `Shutdown`). -/
structure Thread where
  node : String
  pc : Pc
  rest : List Call
  deriving DecidableEq, Repr

/-- A goroutine that is making, or has still to make, a lifecycle call. -/
def Thread.busy (t : Thread) : Bool :=
  match t.pc with
  | .returned _ | .isActiveRead => !t.rest.isEmpty
  | _ => true

structure World where
  names : List String
  node : String → NodeWebLocal
  dataDir : String → Bool
  locked : Bool
  clock : Int
  nextPid : Nat
  running : Nat → Bool
  threads : List Thread
  commits : List Commit

/-- The world as a call on one node sees it: whether the node is registered, the
node, its data directory, and what all nodes share. -/
structure View where
  registered : Bool
  node : NodeWebLocal
  dataDir : Bool
  locked : Bool
  clock : Int
  nextPid : Nat
  running : Nat → Bool
  commits : List Commit

def World.view (w : World) (n : String) : View :=
  { registered := decide (n ∈ w.names), node := w.node n, dataDir := w.dataDir n,
    locked := w.locked, clock := w.clock, nextPid := w.nextPid, running := w.running,
    commits := w.commits }

/-- Write back what a step on node `n` changed; the registry, the clock and the
threads are not a step's to change. -/
def World.put (w : World) (n : String) (v : View) : World :=
  { w with node := Function.update w.node n v.node, dataDir := Function.update w.dataDir n v.dataDir,
           locked := v.locked, nextPid := v.nextPid, running := v.running, commits := v.commits }

/-- Take in the view a call run alone ended with, its clock included. -/
def World.absorb (w : World) (n : String) (v : View) : World :=
  { w.put n v with clock := v.clock }

section Frame
variable (w : World) (n m : String) (v : View)

@[simp] theorem put_node_self : (w.put n v).node n = v.node := by simp [World.put]
@[simp] theorem put_dataDir_self : (w.put n v).dataDir n = v.dataDir := by simp [World.put]

theorem put_node_ne (other : m ≠ n) : (w.put n v).node m = w.node m := by
  simp [World.put, Function.update_noteq other]

theorem put_dataDir_ne (other : m ≠ n) : (w.put n v).dataDir m = w.dataDir m := by
  simp [World.put, Function.update_noteq other]

@[simp] theorem put_names : (w.put n v).names = w.names := rfl
@[simp] theorem put_clock : (w.put n v).clock = w.clock := rfl
@[simp] theorem put_threads : (w.put n v).threads = w.threads := rfl
@[simp] theorem put_locked : (w.put n v).locked = v.locked := rfl
@[simp] theorem put_commits : (w.put n v).commits = v.commits := rfl
@[simp] theorem put_running : (w.put n v).running = v.running := rfl
@[simp] theorem view_node : (w.view n).node = w.node n := rfl
@[simp] theorem view_dataDir : (w.view n).dataDir = w.dataDir n := rfl
@[simp] theorem view_locked : (w.view n).locked = w.locked := rfl
@[simp] theorem view_clock : (w.view n).clock = w.clock := rfl
@[simp] theorem view_commits : (w.view n).commits = w.commits := rfl
@[simp] theorem view_running : (w.view n).running = w.running := rfl
@[simp] theorem absorb_node : (w.absorb n v).node = (w.put n v).node := rfl
@[simp] theorem absorb_locked : (w.absorb n v).locked = v.locked := rfl
@[simp] theorem absorb_clock : (w.absorb n v).clock = v.clock := rfl

end Frame

namespace View

def setNode (v : View) (nd : NodeWebLocal) : View :=
  { v with node := nd }

/-- A successful `cmd.Start`: the child gets the next process id and creates its
data directory. -/
def launch (v : View) : View :=
  { v with nextPid := v.nextPid + 1, running := Function.update v.running v.nextPid true,
           dataDir := true }

def record (v : View) (n : String) (call : Call) : View :=
  { v with commits := v.commits ++ [⟨n, call, v.clock⟩] }

def hold (v : View) : View :=
  { v with locked := true }

end View

/-- A critical section: it waits while the mutex is held. -/
def locking (v : View) (next : View × Pc) : Option (View × Pc) :=
  if v.locked then none else some next

theorem mem_locking {v : View} {next r : View × Pc} :
    r ∈ locking v next ↔ v.locked = false ∧ r = next := by
  unfold locking; cases v.locked <;> simp [eq_comm]

/-- `Flags.String()` under the lock: on an error or a panic the call returns with
the mutex still held. -/
def serialise (v : View) (o : Outcome) (next : Pc) : View × Pc :=
  match o with
  | .ok => (v, next)
  | .error => (v.hold, .returned (.error .external))
  | .panic => (v.hold, .returned .nil)

/-- An external step outside the lock, which changes `v` into `v'` when it succeeds. -/
def external (v' : View) (o : Outcome) (next : Pc) (v : View) : View × Pc :=
  match o with
  | .ok => (v', next)
  | .error => (v, .returned (.error .external))
  | .panic => (v, .returned .nil)

def tooSoon (ago limit : Int) (e : Int → Int → Error) (next : Pc) : Pc :=
  if ago < limit then .returned (.error (e ago limit)) else next

theorem tooSoon_of_le {ago limit : Int} {e : Int → Int → Error} {next : Pc} (h : limit ≤ ago) :
    tooSoon ago limit e next = next :=
  if_neg (Int.not_lt.mpr h)

theorem tooSoon_of_lt {ago limit : Int} {e : Int → Int → Error} {next : Pc} (h : ago < limit) :
    tooSoon ago limit e next = .returned (.error (e ago limit)) :=
  if_pos h

/-- One step of a call on node `n`, given the outcome of the external step it takes
(the other steps ignore it); `none` while it waits for the mutex or once it has
returned. -/
def stepCall (n : String) (o : Outcome) (v : View) : Pc → Option (View × Pc)
  | .lookup call =>
      locking v (v, if v.registered then call.entry else .returned (.error (.doesNotExist n)))
  | .startRead =>
      locking v (v, if v.node.active then .returned (.error (.alreadyRunning v.node.name))
        else .startFlags)
  | .startFlags => locking v (serialise v o .startLaunch)
  | .startLaunch => some (external v.launch o (.startCommit v.nextPid) v)
  | .startCommit p => locking v ((v.setNode (v.node.started p)).record n .start, .returned .nil)
  | .restartRead =>
      locking v (v, if v.node.active then .returned (.error (.alreadyRunning v.node.name))
        else .restartSinceRestarted v.node.lastTerminated v.node.lastRestarted)
  | .restartSinceRestarted lt lr =>
      some (v, tooSoon (v.clock - lr) v.node.limitInterval .restartedSameNode
        (.restartSinceTerminated lt))
  | .restartSinceTerminated lt =>
      some (v, tooSoon (v.clock - lt) v.node.limitInterval .terminatedNode .restartFlags)
  | .restartFlags => locking v (serialise (v.setNode v.node.rejoining) o .restartLaunch)
  | .restartLaunch => some (external v.launch o (.restartCommit v.nextPid) v)
  | .restartCommit p =>
      locking v ((v.setNode (v.node.restarted p v.clock)).record n .restart, .returned .nil)
  | .terminateRead =>
      locking v (v, if v.node.active then
          .terminateSinceTerminated v.node.lastTerminated v.node.lastRestarted
        else .returned (.error (.alreadyTerminated v.node.name)))
  | .terminateSinceTerminated lt lr =>
      some (v, tooSoon (v.clock - lt) v.node.limitInterval .terminatedSameNode
        (.terminateSinceRestarted lr))
  | .terminateSinceRestarted lr =>
      some (v, tooSoon (v.clock - lr) v.node.limitInterval .restartedNode .terminateKill)
  | .terminateKill => some (external v o .terminateCommit v)
  | .terminateCommit =>
      locking v ((v.setNode (v.node.terminated v.clock)).record n .terminate, .returned .nil)
  | .cleanRead =>
      locking v (v.setNode (v.node.cleaned v.clock),
        if v.node.active then .returned (.error (.alreadyRunning v.node.name)) else .cleanRemove)
  | .cleanRemove => some (external { v with dataDir := false } o (.returned .nil) v)
  | .isActiveRead => locking v (v, .returned (.active v.node.active))
  | .returned _ => none

/-- What one step of a call on node `n` can do to its view: nothing, launch a child,
remove the data directory, rewrite the node in a critical section, return from
`Flags.String()` with the mutex held, or commit. -/
inductive Effect (n : String) (o : Outcome) (pc : Pc) (v : View) : View → Prop where
  | same : Effect n o pc v v
  | launch : Effect n o pc v v.launch
  | removeDir : Effect n o pc v { v with dataDir := false }
  | setNode (nd : NodeWebLocal) : v.locked = false → Effect n o pc v (v.setNode nd)
  | hold (nd : NodeWebLocal) : v.locked = false → (pc = .startFlags ∨ pc = .restartFlags) →
      o ≠ .ok → Effect n o pc v (v.setNode nd).hold
  | record (nd : NodeWebLocal) (call : Call) : v.locked = false →
      Effect n o pc v ((v.setNode nd).record n call)

theorem stepCall_effect {n : String} {o : Outcome} {v : View} {pc : Pc} :
    ∀ r ∈ stepCall n o v pc, Effect n o pc v r.1 := by
  intro r h
  cases pc with
  | lookup | startRead | restartRead | terminateRead | isActiveRead =>
    obtain ⟨-, rfl⟩ := mem_locking.mp h
    exact .same
  | startFlags =>
    obtain ⟨free, rfl⟩ := mem_locking.mp h
    cases o
    exacts [.same, .hold v.node free (.inl rfl) nofun, .hold v.node free (.inl rfl) nofun]
  | restartFlags =>
    obtain ⟨free, rfl⟩ := mem_locking.mp h
    cases o
    exacts [.setNode _ free, .hold _ free (.inr rfl) nofun, .hold _ free (.inr rfl) nofun]
  | startCommit | restartCommit | terminateCommit =>
    obtain ⟨free, rfl⟩ := mem_locking.mp h
    exact .record _ _ free
  | cleanRead =>
    obtain ⟨free, rfl⟩ := mem_locking.mp h
    exact .setNode _ free
  | startLaunch | restartLaunch =>
    rw [stepCall, Option.mem_some_iff] at h
    subst h
    cases o <;> constructor
  | cleanRemove =>
    rw [stepCall, Option.mem_some_iff] at h
    subst h
    cases o <;> constructor
  | restartSinceRestarted | restartSinceTerminated | terminateSinceTerminated | terminateSinceRestarted
    | terminateKill =>
    rw [stepCall, Option.mem_some_iff] at h
    subst h
    first | exact .same | cases o <;> exact .same
  | returned => cases h

/-- A call on node `n` run from `pc` with no other call in flight: each input is how
far the clock moves before a step and the outcome of that step. `none` when the
inputs run out first or the call waits for a held mutex. -/
def callAlone (n : String) : View → Pc → List (Nat × Outcome) → Option (Return × View)
  | v, .returned r, _ => some (r, v)
  | _, _, [] => none
  | v, pc, (d, o) :: rest =>
      match stepCall n o { v with clock := v.clock + d } pc with
      | some next => callAlone n next.1 next.2 rest
      | none => none

def stepThread (v : View) (t : Thread) (o : Outcome) : Option (View × Thread) :=
  match t.pc, t.rest with
  | .returned _, call :: rest => some (v, { t with pc := call.entry, rest := rest })
  | pc, _ => (stepCall t.node o v pc).map fun next => (next.1, { t with pc := next.2 })

/-- A goroutine either moves on to its next call or takes a step of its current one. -/
theorem stepThread_cases {v : View} {t : Thread} {o : Outcome} {r : View × Thread}
    (h : r ∈ stepThread v t o) :
    (∃ ret call rest, t.pc = .returned ret ∧ t.rest = call :: rest ∧
      r = (v, { t with pc := call.entry, rest := rest })) ∨
    ∃ next ∈ stepCall t.node o v t.pc, r = (next.1, { t with pc := next.2 }) := by
  unfold stepThread at h
  split at h
  · rename_i ret call rest returned more
    exact .inl ⟨ret, call, rest, returned, more, (Option.mem_some_iff.mp h).symm⟩
  · obtain ⟨next, mem, rfl⟩ := Option.map_eq_some'.mp h
    exact .inr ⟨next, mem, rfl⟩

/-- A goroutine with no lifecycle call left can only finish an `IsActive`, which
changes nothing. -/
theorem stepThread_idle {v : View} {t : Thread} {o : Outcome} (idle : t.busy = false) :
    ∀ r ∈ stepThread v t o, r.1 = v ∧ r.2.busy = false ∧ r.2.node = t.node := by
  obtain ⟨node, pc, rest⟩ := t
  cases pc <;>
    simp only [Thread.busy, List.isEmpty_iff, Bool.not_eq_false', Bool.true_eq_false] at idle <;>
    subst idle <;> simp [stepThread, stepCall, locking, Thread.busy]

theorem stepThread_node {v : View} {t : Thread} {o : Outcome} :
    ∀ r ∈ stepThread v t o, r.2.node = t.node := by
  intro r h
  rcases stepThread_cases h with ⟨-, -, -, -, -, rfl⟩ | ⟨-, -, rfl⟩ <;> rfl

theorem stepThread_busy {v : View} {t : Thread} {o : Outcome} :
    ∀ r ∈ stepThread v t o, r.2.busy = true → t.busy = true := by
  intro r h busy
  cases idle : t.busy
  · simp [(stepThread_idle idle r h).2.1] at busy
  · rfl

inductive Event where
  -- a goroutine makes these calls, in order, on a registered node
  | spawn (n : String) (calls : List Call)
  -- `defaultCluster.Start`, `Restart`, `Terminate` or `Clean` by name
  | clusterCall (n : String) (call : Call)
  | run (tid : Nat) (o : Outcome)
  | tick (d : Nat)
  | exit (pid : Nat)
  deriving DecidableEq, Repr

def World.fork (w : World) (t : Thread) : World :=
  { w with threads := w.threads ++ [t] }

def step (w : World) : Event → Option World
  | .spawn _ [] => none
  | .spawn n (call :: rest) => if n ∈ w.names then some (w.fork ⟨n, call.entry, rest⟩) else none
  | .clusterCall n call => if call = .isActive then none else some (w.fork ⟨n, .lookup call, []⟩)
  | .run tid o =>
      match w.threads[tid]? with
      | none => none
      | some t => (stepThread (w.view t.node) t o).map fun next =>
          { w.put t.node next.1 with threads := w.threads.set tid next.2 }
  | .tick d => some { w with clock := w.clock + d }
  | .exit pid =>
      if w.running pid then some { w with running := Function.update w.running pid false } else none

section StepCases
variable {w w' : World}

/-- What each event can do, stated once so that no invariant unfolds `step`. -/
theorem step_spawn {n : String} {calls : List Call} (h : step w (.spawn n calls) = some w') :
    ∃ call rest, calls = call :: rest ∧ n ∈ w.names ∧ w' = w.fork ⟨n, call.entry, rest⟩ := by
  cases calls with
  | nil => cases h
  | cons call rest =>
    simp only [step] at h
    split at h
    · cases h
      exact ⟨call, rest, rfl, ‹_›, rfl⟩
    · cases h

theorem step_clusterCall {n : String} {call : Call} (h : step w (.clusterCall n call) = some w') :
    w' = w.fork ⟨n, .lookup call, []⟩ := by
  simp only [step] at h
  split at h <;> cases h
  rfl

theorem step_run {tid : Nat} {o : Outcome} (h : step w (.run tid o) = some w') :
    ∃ t r, w.threads[tid]? = some t ∧ r ∈ stepThread (w.view t.node) t o ∧
      w' = { w.put t.node r.1 with threads := w.threads.set tid r.2 } := by
  simp only [step] at h
  split at h
  · cases h
  · obtain ⟨r, moved, rfl⟩ := Option.map_eq_some'.mp h
    exact ⟨_, r, ‹_›, moved, rfl⟩

theorem step_exit {pid : Nat} (h : step w (.exit pid) = some w') :
    w' = { w with running := Function.update w.running pid false } := by
  simp only [step] at h
  split at h <;> cases h
  rfl

end StepCases

theorem getElem?_set_cases {α : Type} {l : List α} {tid i : Nat} {x a : α}
    (h : (l.set tid x)[i]? = some a) : (i = tid ∧ a = x) ∨ (i ≠ tid ∧ l[i]? = some a) := by
  rw [List.getElem?_set] at h
  split at h
  · split at h
    · exact .inl ⟨‹tid = i›.symm, (Option.some.inj h).symm⟩
    · cases h
  · exact .inr ⟨Ne.symm ‹_›, h⟩

theorem getElem?_concat_cases {α : Type} {l : List α} {i : Nat} {x a : α}
    (h : (l ++ [x])[i]? = some a) : (i = l.length ∧ a = x) ∨ l[i]? = some a := by
  rw [List.getElem?_append] at h
  split at h
  · exact .inr h
  · cases k : i - l.length with
    | zero => simp only [k, List.getElem?_cons_zero, Option.some.injEq] at h; exact .inl ⟨by omega, h.symm⟩
    | succ k => simp [k] at h

/-- Run events in order, stopping at one that `allowed` refuses in the world it meets. -/
def runWhile (allowed : World → Event → Bool) : World → List Event → Option World
  | w, [] => some w
  | w, e :: es => if allowed w e then (step w e).bind (runWhile allowed · es) else none

def run : World → List Event → Option World :=
  runWhile fun _ _ => true

@[simp] theorem run_nil (w : World) : run w [] = some w := rfl

theorem run_cons (w : World) (e : Event) (es : List Event) :
    run w (e :: es) = (step w e).bind (run · es) := rfl

/-- An invariant of every allowed step holds along every allowed run. -/
theorem runWhile_invariant {allowed : World → Event → Bool} (P : World → Prop)
    (preserved : ∀ w e w', P w → allowed w e = true → step w e = some w' → P w') :
    ∀ {w w' : World} {evs : List Event}, P w → runWhile allowed w evs = some w' → P w'
  | _, _, [], start, h => by cases h; exact start
  | w, _, e :: es, start, h => by
    simp only [runWhile] at h
    split at h
    · cases next : step w e with
      | none => simp [next] at h
      | some mid =>
        rw [next, Option.some_bind] at h
        exact runWhile_invariant P preserved (preserved w e mid start ‹_› next) h
    · cases h

theorem run_invariant (P : World → Prop) (preserved : ∀ w e w', P w → step w e = some w' → P w')
    {w w' : World} {evs : List Event} (start : P w) (h : run w evs = some w') : P w' :=
  runWhile_invariant P (fun w e w' inv _ => preserved w e w' inv) start h

/-- The node `NewCluster` builds for `WebLocal`. -/
def fresh (name : String) (limitInterval : Int) (initialClusterState : String) : NodeWebLocal :=
  { name, limitInterval, initialClusterState, cmd := none, pid := 0, active := false,
    lastTerminated := 0, lastRestarted := 0 }

def initial (names : List String) (limitInterval clock : Int) : World :=
  { names, node := fun n => fresh n limitInterval "new", dataDir := fun _ => false,
    locked := false, clock, nextPid := 1, running := fun _ => false, threads := [], commits := [] }

/-- The cluster once every node of `names` has been started, the `i`-th one's child
being process `i + 1`, with no call in flight and no stamp set. -/
def allStarted (names : List String) (limitInterval clock : Int) : World :=
  { initial names limitInterval clock with
    node := fun n => { fresh n limitInterval "new" with
      active := true, cmd := some (names.indexOf n + 1), pid := names.indexOf n + 1 }
    dataDir := fun n => decide (n ∈ names)
    nextPid := names.length + 1
    running := fun p => decide (0 < p ∧ p ≤ names.length) }

end EtcdPlay.Lifecycle
