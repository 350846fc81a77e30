import EtcdPlay.Shutdown

/-!
`defaultCluster.Bootstrap` (proc_cluster.go). With no node it returns `nil`.
Otherwise one goroutine per node calls `Start` and reports on an unbuffered
channel: `done` on success, and the node's name with the error otherwise.
`Bootstrap` counts the `done`s and returns the first error it receives. Once every
node has reported `done`, it waits for an interrupt and calls `Shutdown`. A `Start`
that recovers a panic returns `nil`, which its worker reports as `done`. After an
error, the workers that have not reported yet block on their send forever; the
model does not follow them.
-/

namespace EtcdPlay.Bootstrap
open Lifecycle Shutdown

/-- The fan-out of `Bootstrap`: a goroutine per node of `nameToNode` calling `Start`. -/
def fanOut (w : World) : World :=
  forkEach w .startRead []

/-- What the worker of node `n` sends once its `Start` returned `r`: its name and
the error on `errC`, or nothing there (it sends on `done`). -/
def report (n : String) : Return → Option (String × Error)
  | .error e => some (n, e)
  | _ => none

/-- What a worker that has returned sent on `errC`. -/
def sent (t : Thread) : Option (String × Error) :=
  match t.pc with
  | .returned r => report t.node r
  | _ => none

/-- How `Bootstrap` goes on: it returns `nil` or a node's error, or it has counted a
`done` from every node and waits for the interrupt that makes it call `Shutdown`. -/
inductive Ending where
  | nil
  | error (name : String) (e : Error)
  | awaitSignal
  deriving DecidableEq, Repr

/-- The loop `for cn != len(c.nameToNode)` over the reports in the order they
arrive; `none` while it waits for a report that never comes. -/
def collect : Nat → List (Option (String × Error)) → Option Ending
  | 0, _ => some .awaitSignal
  | _ + 1, [] => none
  | k + 1, none :: rest => collect k rest
  | _ + 1, some (n, e) :: _ => some (.error n e)

def bootstrap (names : List String) (arrivals : List (Option (String × Error))) : Option Ending :=
  if names = [] then some .nil else collect names.length arrivals

/-- Once every node has reported `done`, `Bootstrap` waits for the interrupt. -/
theorem collect_all_done :
    ∀ (arrivals : List (Option (String × Error))), (∀ a ∈ arrivals, a = none) →
      collect arrivals.length arrivals = some .awaitSignal
  | [], _ => rfl
  | a :: rest, done => by
    obtain rfl := done a (List.mem_cons_self _ _)
    exact collect_all_done rest fun b mem => done b (List.mem_cons_of_mem _ mem)

/-- Otherwise `Bootstrap` returns the first error to arrive, with its node's name. -/
theorem collect_first_error :
    ∀ (k : Nat) (dones : List (Option (String × Error))) (n : String) (e : Error)
      (rest : List (Option (String × Error))), (∀ a ∈ dones, a = none) → dones.length < k →
      collect k (dones ++ some (n, e) :: rest) = some (.error n e)
  | 0, _, _, _, _, _, before => absurd before (Nat.not_lt_zero _)
  | _ + 1, [], _, _, _, _, _ => rfl
  | k + 1, a :: dones, n, e, rest, done, before => by
    obtain rfl := done a (List.mem_cons_self _ _)
    exact collect_first_error k dones n e rest (fun b mem => done b (List.mem_cons_of_mem _ mem))
      (Nat.lt_of_succ_lt_succ before)

/-- One `done` per node, in any order of arrival: `Bootstrap` waits for the interrupt. -/
theorem bootstrap_all_done {names : List String} {reports arrivals : List (Option (String × Error))}
    (nonempty : names ≠ []) (done : ∀ a ∈ reports, a = none) (count : reports.length = names.length)
    (order : arrivals.Perm reports) : bootstrap names arrivals = some .awaitSignal := by
  rw [bootstrap, if_neg nonempty, ← count, ← order.length_eq]
  exact collect_all_done arrivals fun a mem => done a (order.subset mem)

/-- What the worker of a node knows while its `Start` runs, every external step
succeeding. -/
def starting (nd : NodeWebLocal) : Pc → Prop
  | .startRead | .startFlags | .startLaunch | .startCommit _ => nd.active = false
  | .returned r => r = .nil ∧ nd.active = true
  | _ => False

def Starting (nd : NodeWebLocal) (_ : Bool) (_ : Int) (t : Thread) : Prop :=
  t.rest = [] ∧ starting nd t.pc

/-- One step of the worker, with its external step succeeding, keeps what it knows. -/
theorem stepThread_starting {v : View} {t : Thread} (fact : Starting v.node v.dataDir v.clock t) :
    ∀ r ∈ stepThread v t .ok, Starting r.1.node r.1.dataDir v.clock r.2 := by
  intro r h
  obtain ⟨only, phase⟩ := fact
  rcases stepThread_cases h with ⟨_, _, _, -, more, -⟩ | ⟨next, mem, rfl⟩
  · rw [only] at more
    cases more
  · obtain ⟨node, pc, rest⟩ := t
    dsimp only at only phase ⊢
    subst only
    refine ⟨rfl, ?_⟩
    cases pc <;> simp only [starting] at phase
    case startRead =>
      obtain ⟨-, rfl⟩ := mem_locking.mp mem
      rw [if_neg (by simp [phase])]
      exact phase
    case startFlags => obtain ⟨-, rfl⟩ := mem_locking.mp mem; exact phase
    case startLaunch => rw [stepCall, Option.mem_some_iff] at mem; subst mem; exact phase
    case startCommit => obtain ⟨-, rfl⟩ := mem_locking.mp mem; exact ⟨rfl, rfl⟩
    case returned => cases mem

theorem starting_stable : Stable Starting :=
  ⟨fun _ _ => stepThread_starting, fun _ _ _ _ _ _ fact => fact⟩

/-- A worker that is done started its node. -/
theorem Starting.done {nd : NodeWebLocal} {dir : Bool} {now : Int} {t : Thread}
    (fact : Starting nd dir now t) (idle : t.busy = false) : t.pc = .returned .nil ∧ nd.active = true := by
  obtain ⟨node, pc, rest⟩ := t
  obtain ⟨only, phase⟩ := fact
  dsimp only at only phase idle ⊢
  subst only
  cases pc <;> simp_all [starting, Thread.busy]

/-- While `Bootstrap` waits, no goroutine is forked or removed. -/
theorem waiting_threads_length {w w' : World} {evs : List Event} (h : runWhile waiting w evs = some w') :
    w'.threads.length = w.threads.length :=
  runWhile_invariant (fun u => u.threads.length = w.threads.length)
    (fun u e u' same allowed next => by
      cases e with
      | run tid o =>
        obtain ⟨t, r, -, -, rfl⟩ := step_run next
        exact (List.length_set _ _ _).trans same
      | tick d => cases next; exact same
      | exit pid => obtain rfl := step_exit next; exact same
      | spawn | clusterCall => simp [waiting] at allowed)
    rfl h

/-- `Bootstrap` from a world with no call in flight and every node inactive, its
workers interleaved in any way, every `Flags.String()` and `cmd.Start` succeeding:
once every worker is done, every node is active, and in whatever order the workers'
reports arrive, `Bootstrap` goes on to wait for the interrupt that shuts the
cluster down. -/
theorem bootstrap_starts_every_node {w w' : World} {evs : List Event}
    (distinct : w.names.Nodup) (quiet : ∀ t ∈ w.threads, t.busy = false) (nonempty : w.names ≠ [])
    (inactive : ∀ n ∈ w.names, (w.node n).active = false)
    (h : runWhile waiting (fanOut w) evs = some w') (waited : ∀ t ∈ w'.threads, t.busy = false) :
    (∀ n ∈ w.names, (w'.node n).active = true) ∧
      ∀ arrivals, arrivals.Perm ((w'.threads.drop w.threads.length).map sent) →
        bootstrap w.names arrivals = some .awaitSignal := by
  -- the worker forked for the `i`-th node has started it and reports `done`
  have worker : ∀ i n, w.names[i]? = some n → ∃ t, w'.threads[w.threads.length + i]? = some t ∧
      t.pc = .returned .nil ∧ (w'.node n).active = true := by
    intro i n at_i
    obtain ⟨t, at_k, -, fact⟩ := forked_worker starting_stable distinct quiet h at_i
      ⟨rfl, inactive n (List.getElem?_mem at_i)⟩
    obtain ⟨pc, active⟩ := fact.done (waited t (List.getElem?_mem at_k))
    exact ⟨t, at_k, pc, active⟩
  have length : w'.threads.length = w.threads.length + w.names.length := by
    rw [waiting_threads_length h]
    simp [fanOut, forkEach]
  refine ⟨fun n mem => ?_, fun arrivals order => ?_⟩
  · obtain ⟨i, at_i⟩ := List.mem_iff_getElem?.mp mem
    obtain ⟨-, -, -, active⟩ := worker i n at_i
    exact active
  · refine bootstrap_all_done nonempty (fun a arrived => ?_) ?_ order
    · obtain ⟨t, mem, rfl⟩ := List.mem_map.mp arrived
      obtain ⟨i, at_i⟩ := List.mem_iff_getElem?.mp mem
      rw [List.getElem?_drop] at at_i
      have bound : i < w.names.length := by
        have := (List.getElem?_eq_some_iff.mp at_i).1
        omega
      obtain ⟨t', at_k, pc, -⟩ := worker i _ (List.getElem?_eq_getElem bound)
      obtain rfl := Option.some.inj (at_i.symm.trans at_k)
      simp [sent, pc, report]
    · rw [List.length_map, List.length_drop, length]
      omega

/-- The two workers of a cluster of `a` and `b` take their steps in turn. -/
def startBoth : List Event :=
  List.flatten (List.replicate 4 [.run 0 .ok, .run 1 .ok])

theorem bootstrap_starts_a_and_b :
    ∃ w', runWhile waiting (fanOut (initial ["a", "b"] 10 100)) startBoth = some w' ∧
      (∀ t ∈ w'.threads, t.busy = false) ∧
      (∀ n ∈ (initial ["a", "b"] 10 100).names, (w'.node n).active = true) ∧
      ∀ arrivals, arrivals.Perm ((w'.threads.drop (initial ["a", "b"] 10 100).threads.length).map sent) →
        bootstrap (initial ["a", "b"] 10 100).names arrivals = some .awaitSignal :=
  ⟨_, rfl, by decide,
    @bootstrap_starts_every_node (initial ["a", "b"] 10 100) _ startBoth (by decide) (by decide)
      (by decide) (by decide) rfl (by decide)⟩

end EtcdPlay.Bootstrap
