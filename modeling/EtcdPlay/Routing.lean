import EtcdPlay.Cluster
import EtcdPlay.NewCluster

/-!
The log streams of the cluster (proc_cluster.go): `defaultCluster.Write`, `Stream` and
`SharedStream`, and the requests that log through them, `Put`, `Get`, `Delete` and
`WatchPut`, with `Leader`. `Write` looks the node up under `c.mu` and switches on its
type: a terminal node prints the message, a local node sends it on the shared stream when
it is given no stream ID and on the stream of each ID otherwise, and a remote node sends it
on the streams of the IDs, or nowhere when there is none. `Stream` makes the channel of an
ID the first time it is asked for it and keeps it for good.

A channel is the list of what was sent on it: its buffer of 5000, on which a send waits for
a reader outside the sources, is left out, and so are the texts `fmt` makes, a log line
being its format with the values it prints. The etcd client is a parameter: the error of
`clientv3.New` for the endpoints, and the answer of each call. The watchers of `WatchPut`
log one after the other.

Over any run of `Write` calls the stream of an ID holds exactly the messages of the calls
that name it on a local or remote node, once per naming, and no stream is ever dropped
(`writes_deliver`). `WatchPut` logs a watcher's timeout without the stream IDs: on a local
cluster it goes to the shared stream and never to the requester (`watchPut_timeouts`). For
a name that is not registered it dials the active endpoints, returns `nil`, and every line
it logs is lost (`watchPut_unknown_name`).
-/

namespace EtcdPlay.Routing
open Cluster NewCluster

/-- A node of `nameToNode` as the requests see it: `Endpoint()` and `IsActive()` for
`Endpoints`, and the node for the type switch of `Write`. -/
structure Member where
  entry : Entry
  node : Node

/-- `nameToNode`, in the order one range over it takes: one member per name. -/
structure Registry where
  members : List Member
  distinct : (members.map (·.entry.name)).Nodup

def Registry.nodes (reg : Registry) : List Entry := reg.members.map Member.entry

/-- `c.nameToNode[name]`. -/
def Registry.lookup (reg : Registry) (name : String) : Option Node :=
  (reg.members.find? (·.entry.name = name)).map Member.node

/-- The channels of the cluster: what was sent on `sharedStream` and on each channel of
`idToStream`, and what `NodeTerminal` was given to print. -/
structure Streams (α : Type) where
  shared : List α
  idToStream : String → Option (List α)
  printed : List α

section Write
variable {α : Type}

/-- `c.Stream(streamID)`: the channel of the ID, made the first time. -/
def Streams.stream (s : Streams α) (streamID : String) : Streams α :=
  match s.idToStream streamID with
  | some _ => s
  | none => { s with idToStream := Function.update s.idToStream streamID (some []) }

/-- `c.Stream(streamID) <- msg`. -/
def Streams.send (s : Streams α) (streamID : String) (msg : α) : Streams α :=
  let s := s.stream streamID
  { s with idToStream := Function.update s.idToStream streamID ((s.idToStream streamID).map (· ++ [msg])) }

/-- `for _, streamID := range streamIDs { c.Stream(streamID) <- msg }`. -/
def Streams.sendAll (s : Streams α) (streamIDs : List String) (msg : α) : Streams α :=
  streamIDs.foldl (fun s streamID => s.send streamID msg) s

/-- `defaultCluster.Write(name, msg, streamIDs...)`; `fmt.Fprintln` hands a terminal node
the message and a newline. -/
def write (reg : Registry) (s : Streams α) (name : String) (msg : α) (streamIDs : List String) :
    Except String (Streams α) :=
  match reg.lookup name with
  | none => .error (name ++ " does not exist")
  | some (.terminal ..) => .ok { s with printed := s.printed ++ [msg] }
  | some (.webLocal ..) =>
    if streamIDs.length = 0 then .ok { s with shared := s.shared ++ [msg] }
    else .ok (s.sendAll streamIDs msg)
  | some (.webRemoteClient ..) => if streamIDs.length > 0 then .ok (s.sendAll streamIDs msg) else .ok s

/-- A call of `Write` whose error is dropped, as every request makes it. -/
def log (reg : Registry) (s : Streams α) (name : String) (msg : α) (streamIDs : List String) :
    Streams α :=
  match write reg s name msg streamIDs with
  | .ok s => s
  | .error _ => s

/-- Successive calls `(name, msg, streamIDs)` of `Write`. -/
def logs (reg : Registry) (s : Streams α) : List (String × α × List String) → Streams α
  | [] => s
  | (name, msg, streamIDs) :: calls => logs reg (log reg s name msg streamIDs) calls

/-! ### What the calls address -/

/-- How many times a call puts its message on the stream of `streamID`: once per naming,
on a local or remote node. -/
def Registry.addressed (reg : Registry) (streamID name : String) (streamIDs : List String) : Nat :=
  match reg.lookup name with
  | some (.webLocal ..) | some (.webRemoteClient ..) => streamIDs.count streamID
  | _ => 0

/-- Whether the node of the name is a `NodeWebLocal`. -/
def Registry.isLocal (reg : Registry) (name : String) : Bool :=
  match reg.lookup name with
  | some (.webLocal ..) => true
  | _ => false

/-- Whether a call puts its message on the shared stream: a local node and no stream ID. -/
def Registry.toShared (reg : Registry) (name : String) (streamIDs : List String) : Bool :=
  reg.isLocal name && streamIDs.length = 0

/-- The messages the calls address to the stream of `streamID`, in order. -/
def delivered (reg : Registry) (streamID : String) (calls : List (String × α × List String)) : List α :=
  calls.flatMap fun c => List.replicate (reg.addressed streamID c.1 c.2.2) c.2.1

/-- The messages the calls address to the shared stream, in order. -/
def sharedLog (reg : Registry) (calls : List (String × α × List String)) : List α :=
  calls.filterMap fun c => if reg.toShared c.1 c.2.2 then some c.2.1 else none

@[simp] theorem sharedLog_nil (reg : Registry) : sharedLog reg ([] : List (String × α × List String)) = [] :=
  rfl

@[simp] theorem sharedLog_cons (reg : Registry) (c : String × α × List String)
    (calls : List (String × α × List String)) :
    sharedLog reg (c :: calls) = (if reg.toShared c.1 c.2.2 then [c.2.1] else []) ++ sharedLog reg calls := by
  simp only [sharedLog, List.filterMap_cons]
  split_ifs <;> rfl

@[simp] theorem sharedLog_append (reg : Registry) (calls more : List (String × α × List String)) :
    sharedLog reg (calls ++ more) = sharedLog reg calls ++ sharedLog reg more :=
  List.filterMap_append _ _ _

theorem sharedLog_flatMap {β : Type} (reg : Registry) (l : List β) (f : β → List (String × α × List String)) :
    sharedLog reg (l.flatMap f) = l.flatMap fun b => sharedLog reg (f b) :=
  List.filterMap_flatMap _ _ _

/-- What a stream holds, none for a stream not yet made. -/
def Streams.contents (s : Streams α) (streamID : String) : List α := (s.idToStream streamID).getD []

@[simp] theorem contents_printed (s : Streams α) (printed : List α) :
    ({ s with printed := printed } : Streams α).contents = s.contents := rfl

@[simp] theorem contents_shared (s : Streams α) (shared : List α) :
    ({ s with shared := shared } : Streams α).contents = s.contents := rfl

@[simp] theorem stream_shared (s : Streams α) (streamID : String) : (s.stream streamID).shared = s.shared := by
  unfold Streams.stream
  split <;> rfl

@[simp] theorem send_shared (s : Streams α) (streamID : String) (msg : α) :
    (s.send streamID msg).shared = s.shared := stream_shared s streamID

@[simp] theorem sendAll_shared (s : Streams α) (streamIDs : List String) (msg : α) :
    (s.sendAll streamIDs msg).shared = s.shared := by
  induction streamIDs generalizing s with
  | nil => rfl
  | cons streamID rest ih => exact (ih _).trans (send_shared s streamID msg)

theorem send_idToStream (s : Streams α) (streamID : String) (msg : α) (other : String) :
    (s.send streamID msg).idToStream other =
      if other = streamID then some (s.contents streamID ++ [msg]) else s.idToStream other := by
  unfold Streams.send Streams.stream Streams.contents
  by_cases same : other = streamID
  · subst same
    cases found : s.idToStream other <;> simp [found]
  · cases s.idToStream streamID <;> simp [same]

/-- The loop over the IDs adds the message to the stream of an ID once per naming, and
makes the streams it names. -/
theorem sendAll_idToStream (streamIDs : List String) (msg : α) : ∀ (s : Streams α) (other : String),
    (s.sendAll streamIDs msg).idToStream other =
      if other ∈ streamIDs then some (s.contents other ++ List.replicate (streamIDs.count other) msg)
      else s.idToStream other := by
  induction streamIDs with
  | nil => intros; rfl
  | cons streamID rest ih =>
    intro s other
    rw [Streams.sendAll, List.foldl_cons, ← Streams.sendAll, ih, Streams.contents, send_idToStream]
    by_cases same : other = streamID
    · subst same
      simp [Streams.contents, List.count_cons, List.replicate_succ, List.count_eq_zero]
    · by_cases later : other ∈ rest <;> simp [same, later, List.count_cons, Streams.contents,
        send_idToStream, Ne.symm same]

theorem sendAll_contents (s : Streams α) (streamIDs : List String) (msg : α) (streamID : String) :
    (s.sendAll streamIDs msg).contents streamID =
      s.contents streamID ++ List.replicate (streamIDs.count streamID) msg := by
  rw [Streams.contents, sendAll_idToStream]
  split_ifs with named
  · rfl
  · simp [Streams.contents, List.count_eq_zero.2 named]

theorem sendAll_isSome (s : Streams α) (streamIDs : List String) (msg : α) (streamID : String) :
    ((s.sendAll streamIDs msg).idToStream streamID).isSome ↔
      (s.idToStream streamID).isSome ∨ 0 < streamIDs.count streamID := by
  rw [sendAll_idToStream]
  split_ifs with named <;> simp [List.count_pos_iff, named]

/-- One call, its error dropped, adds its message to the stream of an ID once per naming. -/
theorem log_contents (reg : Registry) (s : Streams α) (name : String) (msg : α)
    (streamIDs : List String) (streamID : String) :
    (log reg s name msg streamIDs).contents streamID =
      s.contents streamID ++ List.replicate (reg.addressed streamID name streamIDs) msg := by
  unfold log write Registry.addressed
  cases reg.lookup name with
  | none => simp
  | some nd => cases nd <;> simp only [] <;> (try split_ifs) <;> simp_all [sendAll_contents]

/-- One call makes the streams it addresses and drops none. -/
theorem log_isSome (reg : Registry) (s : Streams α) (name : String) (msg : α)
    (streamIDs : List String) (streamID : String) :
    ((log reg s name msg streamIDs).idToStream streamID).isSome ↔
      (s.idToStream streamID).isSome ∨ 0 < reg.addressed streamID name streamIDs := by
  unfold log write Registry.addressed
  cases reg.lookup name with
  | none => simp
  | some nd => cases nd <;> simp only [] <;> (try split_ifs) <;> simp_all [sendAll_isSome]

theorem log_shared (reg : Registry) (s : Streams α) (name : String) (msg : α) (streamIDs : List String) :
    (log reg s name msg streamIDs).shared =
      s.shared ++ if reg.toShared name streamIDs then [msg] else [] := by
  unfold log write Registry.toShared Registry.isLocal
  cases reg.lookup name with
  | none => simp
  | some nd => cases nd <;> simp only [] <;> (try split_ifs) <;> simp_all

theorem logs_contents (reg : Registry) (calls : List (String × α × List String)) :
    ∀ (s : Streams α) (streamID : String),
      (logs reg s calls).contents streamID = s.contents streamID ++ delivered reg streamID calls := by
  induction calls with
  | nil => simp [logs, delivered]
  | cons call calls ih =>
    intro s streamID
    simp [logs, ih, log_contents, delivered]

theorem logs_isSome (reg : Registry) (calls : List (String × α × List String)) :
    ∀ (s : Streams α) (streamID : String),
      ((logs reg s calls).idToStream streamID).isSome ↔
        (s.idToStream streamID).isSome ∨ delivered reg streamID calls ≠ [] := by
  induction calls with
  | nil => simp [logs, delivered]
  | cons call calls ih =>
    intro s streamID
    simp only [logs, ih, log_isSome, delivered, List.flatMap_cons, ne_eq, List.append_eq_nil,
      List.replicate_eq_nil_iff, not_and_or, Nat.pos_iff_ne_zero, or_assoc]

theorem logs_shared (reg : Registry) (calls : List (String × α × List String)) :
    ∀ s : Streams α, (logs reg s calls).shared = s.shared ++ sharedLog reg calls := by
  induction calls with
  | nil => simp [logs, sharedLog]
  | cons call calls ih =>
    intro s
    simp only [logs, ih, log_shared, sharedLog, List.filterMap_cons]
    split_ifs <;> simp

/-- Over any run of `Write` calls, the stream of an ID holds what it held and then the
messages of the calls that name the ID on a local or remote node, once per naming, in the
order of the calls; a stream is made when first addressed and never dropped; and the
shared stream gets the messages of the calls on a local node with no stream ID. -/
theorem writes_deliver (reg : Registry) (calls : List (String × α × List String))
    (s : Streams α) (streamID : String) :
    (logs reg s calls).contents streamID = s.contents streamID ++ delivered reg streamID calls ∧
      (((logs reg s calls).idToStream streamID).isSome ↔
        (s.idToStream streamID).isSome ∨ delivered reg streamID calls ≠ []) ∧
      (logs reg s calls).shared = s.shared ++ sharedLog reg calls :=
  ⟨logs_contents reg calls s streamID, logs_isSome reg calls s streamID, logs_shared reg calls s⟩

end Write

/-! ## The requests -/

/-- A value a log line prints. -/
inductive Arg where
  | str (s : String)
  | strs (l : List String)
  | duration (d : Int)
  | int (n : Int)
  deriving DecidableEq, Repr

/-- A log line: `fmt.Sprintf(format, args...)`, or the format alone when it prints nothing. -/
structure Line where
  format : String
  args : List Arg
  deriving DecidableEq, Repr

/-- The body that `Put` and `Delete` share: the target, the client, a line when the call
starts and one when it is done; `answer` is the error of the call. -/
def request (reg : Registry) (s : Streams Line) (order : List String) (name : String)
    (streamIDs : List String) (newClient : List String → Option String) (started : List String → Line)
    (answer : Option String) (done : List String → Line) : Option String × Streams Line :=
  match target reg.nodes order name with
  | .error e => (some e, s)
  | .ok (name, endpoints) =>
    match newClient endpoints with
    | some e => (some e, s)
    | none =>
      match answer with
      | some e => (some e, logs reg s [(name, started endpoints, streamIDs)])
      | none => (none, logs reg s [(name, started endpoints, streamIDs), (name, done endpoints, streamIDs)])

/-- `defaultCluster.Put`; `took` is what `time.Since(st)` reads. -/
def put (reg : Registry) (s : Streams Line) (order : List String) (name key value : String)
    (streamIDs : List String) (newClient : List String → Option String) (answer : Option String)
    (took : Int) : Option String × Streams Line :=
  request reg s order name streamIDs newClient
    (fun endpoints => ⟨"[PUT] Started! (endpoints: %q)", [.strs endpoints]⟩) answer
    (fun endpoints => ⟨"[PUT] %q : %q / Took %v (endpoints: %q)",
      [.str key, .str value, .duration took, .strs endpoints]⟩)

/-- `defaultCluster.Delete`. -/
def delete (reg : Registry) (s : Streams Line) (order : List String) (name : String)
    (streamIDs : List String) (newClient : List String → Option String) (answer : Option String)
    (took : Int) : Option String × Streams Line :=
  request reg s order name streamIDs newClient
    (fun endpoints => ⟨"[DELETE] Started! (endpoints: %q)", [.strs endpoints]⟩) answer
    (fun endpoints => ⟨"[DELETE] Done! Took %v (endpoints: %q)", [.duration took, .strs endpoints]⟩)

/-- `defaultCluster.Get`: `answer` is the error of the call or the keys and values it
returns; the values come back sorted. -/
def get (reg : Registry) (s : Streams Line) (order : List String) (name key : String)
    (streamIDs : List String) (newClient : List String → Option String)
    (answer : Except String (List (String × String))) (took : Int) :
    Except String (List String) × Streams Line :=
  match target reg.nodes order name with
  | .error e => (.error e, s)
  | .ok (name, endpoints) =>
    match newClient endpoints with
    | some e => (.error e, s)
    | none =>
      let started := (name, ⟨"[GET] Started! (endpoints: %q)", [.strs endpoints]⟩, streamIDs)
      match answer with
      | .error e => (.error e, logs reg s [started])
      | .ok kvs =>
        let found := if kvs.length > 0 then
            kvs.map fun kv => (name, ⟨"[GET] %q : %q", [.str kv.1, .str kv.2]⟩, streamIDs)
          else [(name, ⟨"[GET] %q does not exist!", [.str key]⟩, streamIDs)]
        (.ok (@List.insertionSort String String.le String.decLE (kvs.map Prod.snd)),
          logs reg s (started :: found ++
            [(name, ⟨"[GET] Done! Took %v (endpoints: %q)", [.duration took, .strs endpoints]⟩, streamIDs)]))

/-- `defaultCluster.Leader`: `memberLeader` is the answer of `MemberLeader`, the name of
the leader or an error. -/
def leader (reg : Registry) (newClient : List String → Option String)
    (memberLeader : Except String String) : Except String String :=
  match newClient (endpoints reg.nodes).1 with
  | some e => .error e
  | none =>
    match memberLeader with
    | .error e => .error e
    | .ok mbName =>
      match (reg.nodes.map Entry.name).find? (· = mbName) with
      | some name => .ok name
      | none => .error "no leader found"

/-- What the `select` of a watcher takes: its channel closed, a response with its revision
and events (type, key, value), or the timeout. -/
inductive Watched where
  | closed
  | response (revision : Int) (events : List (String × String × String))
  | timedOut
  deriving DecidableEq, Repr

def timedOutLine : Line := ⟨"watch timed out", []⟩

/-- The `Write` calls of a watcher; the one for the timeout passes no stream ID. -/
def watcherCalls (name : String) (streamIDs : List String) : Watched → List (String × Line × List String)
  | .closed => [(name, ⟨"watcher unexpectedly closed", []⟩, streamIDs)]
  | .response revision events =>
    (name, ⟨"[Watch revision] %d\n", [.int revision]⟩, streamIDs) ::
      events.map fun ev => (name, ⟨"[%s] %q : %q\n", [.str ev.1, .str ev.2.1, .str ev.2.2]⟩, streamIDs)
  | .timedOut => [(name, timedOutLine, [])]

/-- `defaultCluster.WatchPut`: `answer` is the error of the put of `foo` and `watched i` what
the watcher `i` sees. A negative `watchersN` makes `make` panic; the deferred line that
closes the watchers is logged on every return after the client is made. -/
def watchPut (reg : Registry) (s : Streams Line) (order : List String) (name : String)
    (watchersN : Int) (streamIDs : List String) (newClient : List String → Option String)
    (answer : Option String) (watched : Nat → Watched) (took : Int) : Result Unit × Streams Line :=
  let (name, endpoints) := targetOrActive reg.nodes order name
  let closing := (name, ⟨"[WatchPut] Closing all watchers! (endpoints: %q)", [.strs endpoints]⟩, streamIDs)
  match newClient endpoints with
  | some e => (.error e, s)
  | none =>
    if watchersN < 0 then (.panic, logs reg s [closing])
    else
      let triggers := (name, ⟨"[PUT] Triggers watch...", []⟩, streamIDs)
      match answer with
      | some e => (.error e, logs reg s [triggers, closing])
      | none =>
        (.ok (), logs reg s (triggers :: (List.range watchersN.toNat).flatMap (fun i =>
          watcherCalls name streamIDs (watched i)) ++
            [(name, ⟨"[Watch] Done! Took %v!\n", [.duration took]⟩, streamIDs), closing]))

/-! ### What `WatchPut` logs -/

theorem targetOrActive_fst (nodes : List Entry) (order : List String) (name : String) :
    (targetOrActive nodes order name).1 = pickName name order := by
  simp only [targetOrActive]
  split <;> rfl

theorem lookup_eq_none {reg : Registry} {name : String} (absent : name ∉ reg.nodes.map Entry.name) :
    reg.lookup name = none := by
  simp only [Registry.lookup, Option.map_eq_none', List.find?_eq_none, decide_eq_true_eq]
  intro m mem same
  exact absent (List.mem_map.2 ⟨m.entry, List.mem_map_of_mem _ mem, same⟩)

/-- Calls for a name that is not registered all fail, and the streams stay as they were. -/
theorem logs_of_unknown (reg : Registry) {calls : List (String × Line × List String)}
    (unknown : ∀ c ∈ calls, reg.lookup c.1 = none) (s : Streams Line) : logs reg s calls = s := by
  induction calls generalizing s with
  | nil => rfl
  | cons c calls ih =>
    have lost : reg.lookup c.1 = none := unknown c (List.mem_cons_self _ _)
    rw [logs, ih (fun c' mem => unknown c' (List.mem_cons_of_mem _ mem))]
    simp [log, write, lost]

theorem watcherCalls_name {name : String} {streamIDs : List String} {w : Watched}
    {c : String × Line × List String} (mem : c ∈ watcherCalls name streamIDs w) : c.1 = name := by
  cases w with
  | response revision events =>
    simp only [watcherCalls, List.mem_cons, List.mem_map] at mem
    rcases mem with rfl | ⟨_, _, rfl⟩ <;> rfl
  | _ =>
    simp only [watcherCalls, List.mem_singleton] at mem
    rw [mem]

/-- Only the timeout of a watcher is logged without the stream IDs. -/
theorem watcherCalls_timedOut {name : String} {streamIDs : List String} {w : Watched}
    {c : String × Line × List String} (mem : c ∈ watcherCalls name streamIDs w) (timeout : c.2.1 = timedOutLine) :
    c.2.2 = [] := by
  cases w <;> simp [watcherCalls] at mem
  · subst mem
    simp [timedOutLine] at timeout
  · rcases mem with rfl | ⟨_, _, _, _, rfl⟩ <;> simp [timedOutLine] at timeout
  · subst mem
    rfl

theorem sharedLog_watcherCalls {reg : Registry} {name : String} {streamIDs : List String}
    (isLocal : reg.isLocal name = true) (requested : streamIDs ≠ []) (w : Watched) :
    sharedLog reg (watcherCalls name streamIDs w) = if w = .timedOut then [timedOutLine] else [] := by
  have some : streamIDs.length ≠ 0 := by simpa using requested
  cases w <;> simp [watcherCalls, sharedLog, Registry.toShared, isLocal, some, requested,
    List.filterMap_map, Function.comp_def]

theorem flatMap_ite_singleton {β : Type} (l : List Nat) (p : Nat → Prop) [DecidablePred p] (b : β) :
    (l.flatMap fun i => if p i then [b] else []) = List.replicate (l.countP fun i => p i) b := by
  induction l with
  | nil => rfl
  | cons i l ih =>
    by_cases hit : p i <;> simp [List.countP_cons, hit, ih, List.replicate_succ]

theorem addressed_named {reg : Registry} {streamID name : String} {streamIDs : List String}
    (positive : 0 < reg.addressed streamID name streamIDs) : streamID ∈ streamIDs := by
  unfold Registry.addressed at positive
  split at positive
  · exact List.count_pos_iff.1 positive
  · exact List.count_pos_iff.1 positive
  · cases positive

theorem timedOutLine_not_delivered {reg : Registry} {streamID : String}
    {calls : List (String × Line × List String)}
    (tagged : ∀ c ∈ calls, c.2.1 = timedOutLine → c.2.2 = []) :
    timedOutLine ∉ delivered reg streamID calls := by
  intro mem
  obtain ⟨c, call, line⟩ := List.mem_flatMap.1 mem
  obtain ⟨positive, same⟩ := List.mem_replicate.1 line
  have := addressed_named (Nat.pos_of_ne_zero positive)
  rw [tagged c call same.symm] at this
  cases this

/-- On a local node and with stream IDs, `WatchPut` puts on the shared stream one
`"watch timed out"` for each watcher that times out and nothing else, and puts none on the
stream of any ID, the requester's included. -/
theorem watchPut_timeouts (reg : Registry) (s : Streams Line) (order : List String) (name : String)
    {watchersN : Int} (streamIDs : List String) {newClient : List String → Option String}
    (watched : Nat → Watched) (took : Int) (isLocal : reg.isLocal (pickName name order) = true)
    (requested : streamIDs ≠ []) (connected : newClient (targetOrActive reg.nodes order name).2 = none)
    (nonneg : 0 ≤ watchersN) (streamID : String) :
    (watchPut reg s order name watchersN streamIDs newClient none watched took).2.shared =
        s.shared ++ List.replicate ((List.range watchersN.toNat).countP fun i => watched i = .timedOut)
          timedOutLine ∧
      timedOutLine ∉ ((watchPut reg s order name watchersN streamIDs newClient none watched took).2.contents
        streamID).drop (s.contents streamID).length := by
  rcases h : targetOrActive reg.nodes order name with ⟨target, endpoints⟩
  have first : target = pickName name order := by
    rw [← targetOrActive_fst reg.nodes order name, h]
  rw [h] at connected
  subst first
  simp only [watchPut, h, connected, if_neg (not_lt.2 nonneg)]
  rw [logs_shared, logs_contents, List.drop_left]
  refine ⟨?_, timedOutLine_not_delivered ?_⟩
  · have some : streamIDs.length ≠ 0 := by simpa using requested
    have others : reg.toShared (pickName name order) streamIDs = false := by simp [Registry.toShared, some]
    simp only [sharedLog_cons, sharedLog_append, sharedLog_flatMap, others, Function.comp_def,
      sharedLog_watcherCalls isLocal requested, flatMap_ite_singleton]
    simp
  · intro c mem timeout
    simp only [List.mem_append, List.mem_cons, List.mem_flatMap, List.mem_singleton] at mem
    rcases mem with (rfl | ⟨i, -, mem⟩) | rfl | rfl | nothing
    · simp [timedOutLine] at timeout
    · exact watcherCalls_timedOut mem timeout
    · simp [timedOutLine] at timeout
    · simp [timedOutLine] at timeout
    · cases nothing

/-- A cluster of one local node, `etcd1`. -/
def localOne : Registry :=
  ⟨[⟨⟨"etcd1", "localhost:2379", true⟩, .webLocal ⟨"etcd1"⟩ "etcd" 0 0 true 0⟩], by decide⟩

theorem one_watcher_times_out :
    localOne.isLocal (pickName "etcd1" ["etcd1"]) = true ∧ ["u"] ≠ [] ∧
      (fun _ => none : List String → Option String) (targetOrActive localOne.nodes ["etcd1"] "etcd1").2 =
        none ∧ (0 : Int) ≤ 1 ∧
      ((watchPut localOne ⟨[], fun _ => none, []⟩ ["etcd1"] "etcd1" 1 ["u"] (fun _ => none) none
          (fun _ => .timedOut) 0).2.shared =
        [] ++ List.replicate ((List.range (1 : Int).toNat).countP fun i => (fun _ => Watched.timedOut) i = .timedOut)
          timedOutLine ∧
      timedOutLine ∉ ((watchPut localOne ⟨[], fun _ => none, []⟩ ["etcd1"] "etcd1" 1 ["u"] (fun _ => none) none
          (fun _ => .timedOut) 0).2.contents "u").drop ((⟨[], fun _ => none, []⟩ : Streams Line).contents "u").length) :=
  ⟨by decide, by decide, rfl, by decide,
    watchPut_timeouts localOne ⟨[], fun _ => none, []⟩ ["etcd1"] "etcd1" ["u"] (fun _ => .timedOut) 0
      (by decide) (by decide) rfl (by decide) "u"⟩

/-- For a name no node has, `WatchPut` dials every active endpoint, returns `nil` once the
put succeeds, and leaves every stream as it was: each of its lines goes to a `Write` that
fails. -/
theorem watchPut_unknown_name (reg : Registry) (s : Streams Line) (order : List String) (name : String)
    {watchersN : Int} (streamIDs : List String) {newClient : List String → Option String}
    (watched : Nat → Watched) (took : Int) (unknown : pickName name order ∉ reg.nodes.map Entry.name)
    (connected : newClient (endpoints reg.nodes).1 = none) (nonneg : 0 ≤ watchersN) :
    watchPut reg s order name watchersN streamIDs newClient none watched took = (.ok (), s) := by
  have target : targetOrActive reg.nodes order name = (pickName name order, (endpoints reg.nodes).1) := by
    simp [targetOrActive, lookup_endpoints_absent unknown]
  have lost := lookup_eq_none unknown
  simp only [watchPut, target, connected, if_neg (not_lt.2 nonneg)]
  rw [logs_of_unknown reg _ s]
  intro c mem
  simp only [List.mem_append, List.mem_cons, List.mem_flatMap, List.mem_singleton] at mem
  rcases mem with (rfl | ⟨i, -, mem⟩) | rfl | rfl | nothing
  · exact lost
  · rw [watcherCalls_name mem]
    exact lost
  · exact lost
  · exact lost
  · cases nothing

theorem watchPut_to_etcd9 :
    pickName "etcd9" ["etcd1"] ∉ localOne.nodes.map Entry.name ∧
      (fun _ => none : List String → Option String) (endpoints localOne.nodes).1 = none ∧ (0 : Int) ≤ 1 ∧
      watchPut localOne ⟨[], fun _ => none, []⟩ ["etcd1"] "etcd9" 1 ["u"] (fun _ => none) none
        (fun _ => .timedOut) 0 = (.ok (), ⟨[], fun _ => none, []⟩) :=
  ⟨by decide, rfl, by decide,
    watchPut_unknown_name localOne ⟨[], fun _ => none, []⟩ ["etcd1"] "etcd9" ["u"] (fun _ => .timedOut) 0
      (by decide) rfl (by decide)⟩

end EtcdPlay.Routing
