import EtcdPlay.Cluster

/-!
`defaultCluster.Status` and `getStatus` (proc_cluster.go). `Status` starts one
`getStatus` probe per entry of `nameToEndpoint`, every registered node, and
receives from the unbuffered channels `sc` and `errc` until it has counted one
signal per probe. Every exit of a probe sends exactly once: its dial error on
`errc`, the error or the "timed out" of the first of its three sub-queries that
fails, or its stat on `sc` once all three answered. So a probe is a function of
what the network gives it, a `Probe`, and `Status` meets the probes' signals in
any order the scheduler picks. A sub-query abandoned on its timer blocks forever
on the probe's private channels and sends nothing on `sc` or `errc`.
`int(strconv.ParseFloat(...))` is the parameter `parseNumber`. Before the probes,
`Endpoints` calls `IsActive` on every node with an endpoint, which takes the mutex
the nodes share; `Status` waits forever there when that mutex is held for good.
-/

namespace EtcdPlay.Status
open Cluster (Entry endpoints twoNodes)

structure ServerStatus where
  name : String
  id : String
  endpoint : String
  state : String
  numberOfKeys : Int
  hash : Int
  deriving DecidableEq, Repr

def emptyStat : ServerStatus :=
  { name := "", id := "unknown", endpoint := "unknown", state := "unreachable",
    numberOfKeys := 0, hash := 0 }

/-- What a sub-query meets before its 5 s timer fires. -/
inductive Reply (α : Type) where
  | answer (a : α)
  | error (e : String)
  | noAnswer
  deriving Repr

def Reply.answered {α : Type} : Reply α → Bool
  | .answer _ => true
  | _ => false

structure Member where
  name : String
  id : Nat
  isLeader : Bool
  deriving DecidableEq, Repr

/-- The network as one probe meets it: the dial, `MemberList`, `Hash`, and the
lines the scanner reads from `/metrics`. -/
structure Probe where
  dial : Option String
  memberList : Reply (List Member)
  hash : Reply UInt32
  metrics : Reply (List String)

inductive Signal where
  | stat (s : ServerStatus)
  | err (e : String)
  deriving DecidableEq, Repr

/-- `fmt.Sprintf("%x", mb.ID)`. -/
def hex (id : Nat) : String :=
  String.mk (Nat.toDigits 16 id)

/-- The loop over `mbs.Members`: the first member named `name` gives the ID and
the state. -/
def memberStat (name : String) (stat : ServerStatus) : List Member → ServerStatus
  | [] => stat
  | mb :: mbs =>
      if mb.name = name then
        { stat with id := hex mb.id, state := if mb.isLeader then "Leader" else "Follower" }
      else memberStat name stat mbs

/-- `strings.SplitN(txt, " ", 2)`: the text before the first space, and the rest
when there is a space. -/
def splitN2 (txt : String) : String × Option String :=
  match txt.splitOn " " with
  | first :: second :: rest => (first, some (" ".intercalate (second :: rest)))
  | _ => (txt, none)

/-- The scan of `/metrics`: comment lines are skipped and the first
`etcd_storage_keys_total` line gives the number of keys, 0 when its value does not
parse. -/
def keysStat (parseNumber : String → Option Int) (stat : ServerStatus) : List String → ServerStatus
  | [] => stat
  | txt :: rest =>
      if txt.startsWith "#" then keysStat parseNumber stat rest
      else
        let ts := splitN2 txt
        if ts.1 = "etcd_storage_keys_total" then
          { stat with numberOfKeys := (ts.2.bind parseNumber).getD 0 }
        else keysStat parseNumber stat rest

/-- The `select` after each sub-query: its answer goes on to the next stage, its
error or the timer ends the probe on `errc`. -/
def stage {α : Type} (r : Reply α) (next : α → Signal) : Signal :=
  match r with
  | .answer a => next a
  | .error e => .err e
  | .noAnswer => .err "timed out"

def getStatus (parseNumber : String → Option Int) (name grpcEndpoint : String) (p : Probe) :
    Signal :=
  match p.dial with
  | some e => .err e
  | none =>
      let stat := { emptyStat with name, endpoint := grpcEndpoint }
      stage p.memberList fun mbs =>
        let stat := memberStat name stat mbs
        stage p.hash fun h =>
          let stat := { stat with hash := h.toNat }
          stage p.metrics fun lines => .stat (keysStat parseNumber stat lines)

abbrev StatusMap := String → Option ServerStatus

def receive (acc : StatusMap × Option String) : Signal → StatusMap × Option String
  | .stat s => (Function.update acc.1 s.name (some s), acc.2)
  | .err e => (acc.1, some e)

/-- The loop `for cn != len(nameToEndpoint)`: a signal a round, and blocked for
good (`none`) once no probe is left to send one. -/
def fanIn : Nat → List Signal → StatusMap × Option String → Option (StatusMap × Option String)
  | 0, _, acc => some acc
  | _ + 1, [], _ => none
  | n + 1, s :: rest, acc => fanIn n rest (receive acc s)

/-- The last loop: every name without a stat gets `emptyStat` with its name and
endpoint. -/
def fill (m : StatusMap) : List (String × String) → StatusMap
  | [] => m
  | (name, endpoint) :: rest =>
      fill (if (m name).isSome then m else Function.update m name (some { emptyStat with name, endpoint }))
        rest

/-- `defaultCluster.Status`, the probes' signals arriving in the order `arrivals`;
`held` says that the mutex `IsActive` takes is held for good (for local nodes the
cluster mutex, after a `Start` or `Restart` returned inside its critical section). -/
def status (nodes : List Entry) (held : Bool) (arrivals : List Signal) : Option (StatusMap × Option String) :=
  if held ∧ nodes.any (·.endpoint != "") then none else
  let nameToEndpoint := (endpoints nodes).2
  (fanIn nameToEndpoint.length arrivals (fun _ => none, none)).map fun acc =>
    (fill acc.1 nameToEndpoint, acc.2)

theorem status_free (nodes : List Entry) (arrivals : List Signal) :
    status nodes false arrivals = (fanIn (endpoints nodes).2.length arrivals (fun _ => none, none)).map
      fun acc => (fill acc.1 (endpoints nodes).2, acc.2) :=
  if_neg (by simp)

/-- What `Status` should report for a node: its stat, or `emptyStat` with its name
and endpoint when its probe failed. -/
def reported (name endpoint : String) : Signal → ServerStatus
  | .stat s => s
  | .err _ => { emptyStat with name, endpoint }

def Signal.failed : Signal → Bool
  | .stat _ => false
  | .err _ => true

section Probe
variable {parseNumber : String → Option Int} {name grpcEndpoint : String}

@[simp] theorem memberStat_name (stat : ServerStatus) (mbs : List Member) :
    (memberStat name stat mbs).name = stat.name ∧ (memberStat name stat mbs).endpoint = stat.endpoint := by
  induction mbs with
  | nil => exact ⟨rfl, rfl⟩
  | cons mb mbs ih => unfold memberStat; split <;> simp [ih]

@[simp] theorem keysStat_name (stat : ServerStatus) (lines : List String) :
    (keysStat parseNumber stat lines).name = stat.name ∧
      (keysStat parseNumber stat lines).endpoint = stat.endpoint := by
  induction lines with
  | nil => exact ⟨rfl, rfl⟩
  | cons txt rest ih =>
    unfold keysStat
    split
    · exact ih
    · dsimp only
      split <;> simp [ih]

theorem stage_stat {α : Type} {r : Reply α} {next : α → Signal} {s : ServerStatus}
    (h : stage r next = .stat s) : ∃ a, next a = .stat s := by
  cases r with
  | answer a => exact ⟨a, h⟩
  | error => cases h
  | noAnswer => cases h

/-- A stat a probe sends carries the probe's name and endpoint. -/
theorem getStatus_stat {p : Probe} {s : ServerStatus}
    (h : getStatus parseNumber name grpcEndpoint p = .stat s) :
    s.name = name ∧ s.endpoint = grpcEndpoint := by
  unfold getStatus at h
  split at h
  · cases h
  · obtain ⟨mbs, h⟩ := stage_stat h
    obtain ⟨hash, h⟩ := stage_stat h
    obtain ⟨lines, h⟩ := stage_stat h
    cases h
    simp

/-- A probe fails exactly when its dial fails or one of its three sub-queries errs or
times out. -/
theorem getStatus_failed (p : Probe) :
    (getStatus parseNumber name grpcEndpoint p).failed =
      (p.dial.isSome || !p.memberList.answered || !p.hash.answered || !p.metrics.answered) := by
  obtain ⟨dial, memberList, hash, metrics⟩ := p
  cases dial <;> cases memberList <;> cases hash <;> cases metrics <;> rfl

end Probe

section FanIn

@[simp] theorem fanIn_length (arrivals : List Signal) (acc : StatusMap × Option String) :
    fanIn arrivals.length arrivals acc = some (arrivals.foldl receive acc) := by
  induction arrivals generalizing acc with
  | nil => rfl
  | cons s rest ih => exact ih _

theorem foldl_receive_other {arrivals : List Signal} {n : String}
    (none : ∀ s, .stat s ∈ arrivals → s.name ≠ n) (acc : StatusMap × Option String) :
    (arrivals.foldl receive acc).1 n = acc.1 n := by
  induction arrivals generalizing acc with
  | nil => rfl
  | cons x rest ih =>
    rw [List.foldl_cons, ih fun s mem => none s (List.mem_cons_of_mem _ mem)]
    cases x with
    | stat s => exact Function.update_noteq (none s (List.mem_cons_self _ _)).symm _ _
    | err => rfl

theorem foldl_receive_stat {arrivals : List Signal} {s : ServerStatus} (mem : .stat s ∈ arrivals)
    (unique : ∀ s', .stat s' ∈ arrivals → s'.name = s.name → s' = s) (acc : StatusMap × Option String) :
    (arrivals.foldl receive acc).1 s.name = some s := by
  induction arrivals generalizing acc with
  | nil => cases mem
  | cons x rest ih =>
    rw [List.foldl_cons]
    by_cases later : Signal.stat s ∈ rest
    · exact ih later (fun s' mem' => unique s' (List.mem_cons_of_mem _ mem')) _
    · obtain rfl : x = .stat s := ((List.mem_cons.mp mem).resolve_right later).symm
      rw [foldl_receive_other (fun s' mem' same => later (unique s' (List.mem_cons_of_mem _ mem') same ▸ mem'))]
      simp [receive]

theorem foldl_receive_err (arrivals : List Signal) (acc : StatusMap × Option String) :
    (arrivals.foldl receive acc).2.isSome ↔ acc.2.isSome ∨ ∃ s ∈ arrivals, s.failed := by
  induction arrivals generalizing acc with
  | nil => simp
  | cons x rest ih =>
    rw [List.foldl_cons, ih]
    cases x <;> simp [receive, Signal.failed]

end FanIn

section Fill

theorem fill_other (m : StatusMap) {eps : List (String × String)} {n : String}
    (absent : n ∉ eps.map Prod.fst) : fill m eps n = m n := by
  induction eps generalizing m with
  | nil => rfl
  | cons ep rest ih =>
    obtain ⟨name, endpoint⟩ := ep
    simp only [List.map_cons, List.mem_cons, not_or] at absent
    rw [fill, ih _ absent.2]
    split
    · rfl
    · exact Function.update_noteq absent.1 _ _

theorem fill_mem (m : StatusMap) {eps : List (String × String)} (distinct : (eps.map Prod.fst).Nodup)
    {n endpoint : String} (mem : (n, endpoint) ∈ eps) :
    fill m eps n = some ((m n).getD { emptyStat with name := n, endpoint }) := by
  induction eps generalizing m with
  | nil => cases mem
  | cons ep rest ih =>
    rw [List.map_cons, List.nodup_cons] at distinct
    rw [fill]
    rcases List.mem_cons.mp mem with rfl | mem
    · rw [fill_other _ distinct.1]
      cases h : m n <;> simp [h]
    · have other : n ≠ ep.1 := fun same => distinct.1 (same ▸ List.mem_map_of_mem Prod.fst mem)
      rw [ih _ distinct.2 mem]
      split <;> simp [Function.update_noteq other]

end Fill

/-- `Status` over every registry, every outcome of every probe and every order in
which the probes' signals arrive: it returns, with exactly the registered names as
keys, each name mapped to its probe's stat or to `emptyStat` with its name and
endpoint, and an error exactly when some probe failed. -/
theorem status_reports_every_node (parseNumber : String → Option Int) (nodes : List Entry)
    (distinct : (nodes.map Entry.name).Nodup) {held : Bool} (free : held = false) (probe : String → Probe)
    (arrivals : List Signal)
    (order : arrivals.Perm (nodes.map fun nd => getStatus parseNumber nd.name nd.endpoint (probe nd.name))) :
    ∃ m err, status nodes held arrivals = some (m, err) ∧
      (∀ nd ∈ nodes, m nd.name =
        some (reported nd.name nd.endpoint (getStatus parseNumber nd.name nd.endpoint (probe nd.name)))) ∧
      (∀ n, n ∉ nodes.map Entry.name → m n = none) ∧
      (err.isSome ↔ ∃ nd ∈ nodes, (getStatus parseNumber nd.name nd.endpoint (probe nd.name)).failed) := by
  -- every stat that arrives is the stat of the probe of the node it names
  have origin : ∀ s, .stat s ∈ arrivals → ∃ nd ∈ nodes, s.name = nd.name ∧
      getStatus parseNumber nd.name nd.endpoint (probe nd.name) = .stat s := by
    intro s mem
    obtain ⟨nd, mem, h⟩ := List.mem_map.mp (order.subset mem)
    exact ⟨nd, mem, (getStatus_stat h).1, h⟩
  have same_node : ∀ {nd nd'}, nd ∈ nodes → nd' ∈ nodes → nd.name = nd'.name → nd = nd' :=
    fun mem mem' same => List.inj_on_of_nodup_map distinct mem mem' same
  have names : (endpoints nodes).2.map Prod.fst = nodes.map Entry.name := by simp [endpoints]
  have length : (endpoints nodes).2.length = arrivals.length := by simp [endpoints, order.length_eq]
  refine ⟨_, _, by rw [free, status_free, length, fanIn_length]; rfl, ?_, ?_, ?_⟩
  · intro nd mem
    have entry : (nd.name, nd.endpoint) ∈ (endpoints nodes).2 := List.mem_map_of_mem _ mem
    rw [fill_mem _ (names ▸ distinct) entry]
    cases h : getStatus parseNumber nd.name nd.endpoint (probe nd.name) with
    | stat s =>
      have arrived : .stat s ∈ arrivals := order.mem_iff.mpr (List.mem_map.mpr ⟨nd, mem, h⟩)
      have named : s.name = nd.name := (getStatus_stat h).1
      rw [← named, foldl_receive_stat arrived]
      · rfl
      · intro s' mem' same
        obtain ⟨nd', mem', named', h'⟩ := origin s' mem'
        rw [same_node mem' mem (named' ▸ same ▸ named), h] at h'
        exact (Signal.stat.inj h').symm
    | err e =>
      rw [foldl_receive_other]
      · rfl
      · intro s' mem' same
        obtain ⟨nd', mem', named', h'⟩ := origin s' mem'
        rw [same_node mem' mem (named' ▸ same), h] at h'
        cases h'
  · intro n absent
    rw [fill_other _ (names ▸ absent), foldl_receive_other]
    intro s arrived same
    obtain ⟨nd, mem, named, -⟩ := origin s arrived
    exact absent (same ▸ named ▸ List.mem_map_of_mem _ mem)
  · rw [foldl_receive_err]
    simp only [Option.isSome_none, Bool.false_eq_true, false_or]
    constructor
    · rintro ⟨s, arrived, failed⟩
      obtain ⟨nd, mem, rfl⟩ := List.mem_map.mp (order.subset arrived)
      exact ⟨nd, mem, failed⟩
    · rintro ⟨nd, mem, failed⟩
      exact ⟨_, order.mem_iff.mpr (List.mem_map_of_mem _ mem), failed⟩

/-- Node `a` answers every query, with no line in `/metrics`; the dial to `b` fails. -/
def probes (name : String) : Probe :=
  if name = "a" then ⟨none, .answer [⟨"a", 255, true⟩], .answer 7, .answer []⟩
  else ⟨some "connection refused", .noAnswer, .noAnswer, .noAnswer⟩

theorem status_of_two_nodes :
    ∃ m err, status twoNodes false
        (twoNodes.map fun nd => getStatus (fun _ => none) nd.name nd.endpoint (probes nd.name)).reverse =
        some (m, err) ∧
      m "a" = some ⟨"a", "ff", "localhost:2379", "Leader", 0, 7⟩ ∧
      m "b" = some { emptyStat with name := "b", endpoint := "localhost:22379" } ∧ err.isSome := by
  obtain ⟨m, err, h, each, -, failed⟩ :=
    status_reports_every_node (fun _ => none) twoNodes (by decide) rfl probes _ (List.reverse_perm _)
  exact ⟨m, err, h, each _ (List.mem_cons_self _ _), each _ (List.mem_cons_of_mem _ (List.mem_singleton_self _)),
    failed.mpr ⟨_, List.mem_cons_of_mem _ (List.mem_singleton_self _), (getStatus_failed (probes "b")).trans rfl⟩⟩

end EtcdPlay.Status
