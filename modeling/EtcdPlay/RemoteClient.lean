import EtcdPlay.Sequential

/-!
`NodeWebRemoteClient` (src/unnamed/part_000), the remote variant. The node keeps
only `active`, under a mutex `mu` of its own, and hands each lifecycle step to an
etcd agent. Its critical sections read or write `active` and never return inside
the lock, so the mutex is free between steps and is left out of the state. There is
no deferred `recover`: a panic of an agent call ends the call as `panicked`. The
variant reads no clock and keeps no stamps; the clock here only dates the commits.
-/

namespace EtcdPlay.RemoteClient
open Lifecycle (Outcome Call)

inductive Error where
  -- "%s is already active" (Start, Restart)
  | alreadyActive (name : String)
  -- "%s is already terminated"
  | alreadyTerminated (name : String)
  -- returned by `Flags.StringSlice` or by the agent
  | external
  deriving DecidableEq, Repr

inductive Return where
  | nil
  | error (e : Error)
  | active (b : Bool)
  | panicked
  deriving DecidableEq, Repr

structure NodeWebRemoteClient where
  name : String
  active : Bool
  deriving DecidableEq, Repr

inductive Pc where
  | startRead
  | startFlags
  | startAgent
  | startCommit
  | restartRead
  | restartAgent
  | restartCommit
  | terminateRead
  | terminateAgent
  | terminateCommit
  | cleanAgent
  | isActiveRead
  | returned (r : Return)
  deriving DecidableEq, Repr

def entry : Call → Pc
  | .start => .startRead
  | .restart => .restartRead
  | .terminate => .terminateRead
  | .clean => .cleanAgent
  | .isActive => .isActiveRead

structure Commit where
  call : Call
  time : Int
  deriving DecidableEq, Repr

structure World where
  node : NodeWebRemoteClient
  clock : Int
  threads : List Pc
  commits : List Commit

/-- The last critical section of `Start`, `Restart` or `Terminate`. -/
def World.commit (w : World) (call : Call) (active : Bool) : World :=
  { w with node := { w.node with active }, commits := w.commits ++ [⟨call, w.clock⟩] }

/-- A step outside the lock goes on, or returns what failed. -/
def proceed (o : Outcome) (next : Pc) : Pc :=
  match o with
  | .ok => next
  | .error => .returned (.error .external)
  | .panic => .returned .panicked

def stepCall (w : World) (o : Outcome) : Pc → Option (World × Pc)
  | .startRead =>
      some (w, if w.node.active then .returned (.error (.alreadyActive w.node.name)) else .startFlags)
  | .startFlags => some (w, proceed o .startAgent)
  | .startAgent => some (w, proceed o .startCommit)
  | .startCommit => some (w.commit .start true, .returned .nil)
  | .restartRead =>
      some (w, if w.node.active then .returned (.error (.alreadyActive w.node.name))
        else .restartAgent)
  | .restartAgent => some (w, proceed o .restartCommit)
  | .restartCommit => some (w.commit .restart true, .returned .nil)
  | .terminateRead =>
      some (w, if w.node.active then .terminateAgent
        else .returned (.error (.alreadyTerminated w.node.name)))
  | .terminateAgent => some (w, proceed o .terminateCommit)
  | .terminateCommit => some (w.commit .terminate false, .returned .nil)
  | .cleanAgent => some (w, proceed o (.returned .nil))
  | .isActiveRead => some (w, .returned (.active w.node.active))
  | .returned _ => none

inductive Event where
  | spawn (call : Call)
  | run (tid : Nat) (o : Outcome)
  | tick (d : Nat)
  deriving DecidableEq, Repr

def step (w : World) : Event → Option World
  | .spawn call => some { w with threads := w.threads ++ [entry call] }
  | .run tid o =>
      match w.threads[tid]? with
      | none => none
      | some pc => (stepCall w o pc).map fun next =>
          { next.1 with threads := next.1.threads.set tid next.2 }
  | .tick d => some { w with clock := w.clock + d }

def run : World → List Event → Option World
  | w, [] => some w
  | w, e :: es => (step w e).bind (run · es)

/-- The node `NewCluster` builds for `WebRemote`. -/
def initial (name : String) (clock : Int) : World :=
  ⟨⟨name, false⟩, clock, [], []⟩

/-- Node `a` started, terminated and restarted through its agent at one instant. -/
def startTerminateRestart : List Event :=
  [.spawn .start, .run 0 .ok, .run 0 .ok, .run 0 .ok, .run 0 .ok,
   .spawn .terminate, .run 1 .ok, .run 1 .ok, .run 1 .ok,
   .spawn .restart, .run 2 .ok, .run 2 .ok, .run 2 .ok]

/-- Neither variant keeps its restarts and terminations `limitInterval` apart. Two
overlapping `Terminate`s of a running local node whose limit is 10 both pass the
cool-down check, both kill and both commit at 100; the remote variant, which has no
cool-down, commits a `Restart` at the instant of its `Terminate`. -/
theorem commits_within_limit_interval :
    (∃ w, Lifecycle.run (Lifecycle.allStarted ["a"] 10 100) Sequential.overlappingTerminates = some w ∧
      w.threads.map (·.pc) = [.returned .nil, .returned .nil] ∧
      w.commits = [⟨"a", .terminate, 100⟩, ⟨"a", .terminate, 100⟩]) ∧
    ∃ w, run (initial "a" 100) startTerminateRestart = some w ∧
      w.threads = [.returned .nil, .returned .nil, .returned .nil] ∧
      w.commits = [⟨.start, 100⟩, ⟨.terminate, 100⟩, ⟨.restart, 100⟩] :=
  ⟨⟨_, rfl, rfl, rfl⟩, _, rfl, rfl, rfl⟩

end EtcdPlay.RemoteClient
