import Mathlib.Logic.Function.Basic
import EtcdPlay.Cluster

/-!
`defaultCluster.stress` and `Stress` (proc_cluster.go). `stress` resolves its
target, makes a client, starts `stressN` put goroutines and counts their signals on
the unbuffered channels `errChan` and `done`: the first error ends it on `errc`,
`stressN` successes end it on `donec` after the average `tt / time.Duration(stressN)`.

The put goroutines share the variable `err` of `stress`, `nil` once the client is
made. Each writes its put's result there (`_, err = kvc.Put(...)`), reads it back in
`if err != nil`, and reads it again to evaluate `errChan <- err`. Each access is a
step of its own (taken as atomic), and an interleaving is the list of the goroutines
in the order they step. A send is a step too, taken when the loop receives; once the
loop has returned, the send blocks for good. The `c.Write` before `done <- struct{}{}`
touches nothing the loop reads and is left out. `multiRandBytes`, which src/ does not
include, is a parameter, and so are the outcomes of the client and of the puts.
-/

namespace EtcdPlay.Load
open Cluster (Entry targetOrActive)

/-- How the goroutine `stress` ends. -/
inductive Ending where
  -- the value sent on `errc`, `nil` included
  | errc (e : Option String)
  | donec
  -- a run-time panic, which ends the process
  | panic
  -- still waiting on `errChan` and `done`; for good once no put goroutine can send
  | blocked
  deriving DecidableEq, Repr

/-- Where a put goroutine is: before its put, before `if err != nil`, before reading
`err` for `errChan <- err`, blocked on a send with the value it carries, or gone. -/
inductive Put where
  | put
  | test
  | read
  | sendErr (e : Option String)
  | sendDone
  | sent
  deriving DecidableEq, Repr

/-- The loop `for cn != stressN`: counting the `done`s, or ended by what it received
on `errChan`. -/
inductive Loop where
  | counting (cn : Nat)
  | failed (e : Option String)
  deriving DecidableEq, Repr

structure Puts where
  err : Option String
  pc : Nat → Put
  loop : Loop

def Puts.initial : Puts :=
  ⟨none, fun _ => .put, .counting 0⟩

/-- The loop takes a signal, an error (`some e`) or a `done` (`none`); `none` once it
has returned, where the send blocks. -/
def Loop.take (n : Nat) : Loop → Option (Option String) → Option Loop
  | .counting cn, some e => if cn = n then none else some (.failed e)
  | .counting cn, none => if cn = n then none else some (.counting (cn + 1))
  | .failed _, _ => none

def Puts.send (s : Puts) (n i : Nat) (signal : Option (Option String)) : Puts :=
  match s.loop.take n signal with
  | some loop => { s with pc := Function.update s.pc i .sent, loop }
  | none => s

section Puts
variable (n : Nat) (result : Nat → Option String)

/-- A step of put goroutine `i` of the `n`, whose put returns `result i`. -/
def Puts.step (s : Puts) (i : Nat) : Puts :=
  if n ≤ i then s
  else
    match s.pc i with
    | .put => { s with err := result i, pc := Function.update s.pc i .test }
    | .test => { s with pc := Function.update s.pc i (if s.err.isSome then .read else .sendDone) }
    | .read => { s with pc := Function.update s.pc i (.sendErr s.err) }
    | .sendErr e => s.send n i (some e)
    | .sendDone => s.send n i none
    | .sent => s

def Puts.run (s : Puts) (schedule : List Nat) : Puts :=
  schedule.foldl (Puts.step n result) s

theorem Puts.run_append (s : Puts) (first second : List Nat) :
    Puts.run n result s (first ++ second) = Puts.run n result (Puts.run n result s first) second :=
  List.foldl_append _ _ _ _

end Puts

/-- `stress`, its put goroutines stepping in the order `schedule`, put `i` returning
`result i` (`none` for success); `multiRandBytes` gives `none` when it panics. -/
def stress (nodes : List Entry) (order : List String) (name : String) (stressN : Int)
    (newClient : List String → Option String)
    (multiRandBytes : Nat → Int → Option (List (List UInt8))) (result : Nat → Option String)
    (schedule : List Nat) : Ending :=
  match newClient (targetOrActive nodes order name).2 with
  | some e => .errc (some e)
  | none =>
      match multiRandBytes 5 stressN, multiRandBytes 5 stressN with
      | some keys, some vals =>
          -- put goroutine `i` reads `keys[i]` and `vals[i]`
          if keys.length < stressN.toNat ∨ vals.length < stressN.toNat then .panic
          else
            match (Puts.run stressN.toNat result Puts.initial schedule).loop with
            | .failed e => .errc e
            -- `tt / time.Duration(stressN)`
            | .counting cn => if (cn : Int) = stressN then (if stressN = 0 then .panic else .donec) else .blocked
      | _, _ => .panic

/-- `defaultCluster.Stress`: the first of `errc`, `donec` and its 5 s timer, which
`timedOut` says fires first; `none` when the process panics. -/
def Stress (ending : Ending) (timedOut : Bool) : Option (Option String) :=
  match ending with
  | .panic => none
  | .blocked => some (some "Stress timed out!")
  | .errc e => some (if timedOut then some "Stress timed out!" else e)
  | .donec => some (if timedOut then some "Stress timed out!" else none)

theorem stress_eq {nodes : List Entry} {order : List String} {name : String} {stressN : Int}
    {newClient : List String → Option String}
    (connected : newClient (targetOrActive nodes order name).2 = none)
    {multiRandBytes : Nat → Int → Option (List (List UInt8))} {keys : List (List UInt8)}
    (drawn : multiRandBytes 5 stressN = some keys) (enough : stressN.toNat ≤ keys.length)
    (result : Nat → Option String) (schedule : List Nat) :
    stress nodes order name stressN newClient multiRandBytes result schedule =
      match (Puts.run stressN.toNat result Puts.initial schedule).loop with
      | .failed e => .errc e
      | .counting cn => if (cn : Int) = stressN then (if stressN = 0 then .panic else .donec) else .blocked := by
  rw [stress, connected, drawn]
  exact if_neg (by omega)

/-- Once the loop has counted a `done` from every put, `stress` ends on `donec`. -/
theorem stress_eq_donec {nodes : List Entry} {order : List String} {name : String} {stressN : Int}
    {newClient : List String → Option String}
    (connected : newClient (targetOrActive nodes order name).2 = none)
    {multiRandBytes : Nat → Int → Option (List (List UInt8))} {keys : List (List UInt8)}
    (drawn : multiRandBytes 5 stressN = some keys) (enough : stressN.toNat ≤ keys.length)
    {result : Nat → Option String} {schedule : List Nat} (positive : 0 < stressN)
    (counted : (Puts.run stressN.toNat result Puts.initial schedule).loop = .counting stressN.toNat) :
    stress nodes order name stressN newClient multiRandBytes result schedule = .donec := by
  rw [stress_eq connected drawn enough, counted]
  show (if ((stressN.toNat : Nat) : Int) = stressN then (if stressN = 0 then Ending.panic else Ending.donec)
    else Ending.blocked) = Ending.donec
  rw [if_pos (Int.toNat_of_nonneg positive.le), if_neg positive.ne']

section Invariant
variable {n : Nat} {result : Nat → Option String}

/-- `e` is `nil` or what one of the `n` puts returned. -/
def Returned (n : Nat) (result : Nat → Option String) (e : Option String) : Prop :=
  e = none ∨ ∃ i < n, result i = e

def someFailed (n : Nat) (result : Nat → Option String) : Prop :=
  ∃ i < n, (result i).isSome

/-- What a goroutine at `pc` knows: it reads for `errChan` only after a put failed,
and it sends on `errChan` `nil` or a put's error. -/
def Put.Known (n : Nat) (result : Nat → Option String) : Put → Prop
  | .read => someFailed n result
  | .sendErr e => Returned n result e ∧ someFailed n result
  | _ => True

def sentCount (n : Nat) (pc : Nat → Put) : Nat :=
  (List.range n).countP fun i => pc i == .sent

structure Puts.Inv (n : Nat) (result : Nat → Option String) (s : Puts) : Prop where
  err : Returned n result s.err
  known : ∀ i, (s.pc i).Known n result
  counting : ∀ cn, s.loop = .counting cn → cn = sentCount n s.pc
  failed : ∀ e, s.loop = .failed e → Returned n result e ∧ someFailed n result

theorem sentCount_succ (pc : Nat → Put) (m : Nat) :
    sentCount (m + 1) pc = sentCount m pc + if pc m = .sent then 1 else 0 := by
  simp only [sentCount, List.range_succ, List.countP_append, List.countP_singleton, beq_iff_eq]

theorem sentCount_update {pc : Nat → Put} {i : Nat} (lt : i < n) (v : Put) :
    sentCount n (Function.update pc i v) + (if pc i = .sent then 1 else 0) =
      sentCount n pc + if v = .sent then 1 else 0 := by
  induction n with
  | zero => omega
  | succ m ih =>
    rw [sentCount_succ, sentCount_succ]
    by_cases last : i = m
    · subst last
      have before : sentCount i (Function.update pc i v) = sentCount i pc :=
        List.countP_congr fun k mem => by
          rw [Function.update_noteq (Nat.ne_of_lt (List.mem_range.mp mem))]
      rw [before, Function.update_same]
      omega
    · have := ih (by omega)
      rw [Function.update_noteq (Ne.symm last)]
      omega

theorem sentCount_update_keep {pc : Nat → Put} {i : Nat} (lt : i < n) {v : Put}
    (was : pc i ≠ .sent) (now : v ≠ .sent) : sentCount n (Function.update pc i v) = sentCount n pc := by
  have count := @sentCount_update n pc i lt v
  rw [if_neg was, if_neg now] at count
  exact count

theorem Puts.Inv.setPc {s : Puts} (inv : s.Inv n result) {i : Nat} (lt : i < n) (v : Put)
    (known : v.Known n result) (was : s.pc i ≠ .sent) (now : v ≠ .sent) :
    { s with pc := Function.update s.pc i v }.Inv n result where
  err := inv.err
  known k := by
    show (Function.update s.pc i v k).Known n result
    rw [Function.update_apply]
    split
    exacts [known, inv.known k]
  counting cn loop := (inv.counting cn loop).trans (sentCount_update_keep lt was now).symm
  failed := inv.failed

theorem take_some {l l' : Loop} {signal : Option (Option String)} (h : l.take n signal = some l') :
    ∃ cn, l = .counting cn ∧ cn ≠ n ∧ l' = signal.elim (.counting (cn + 1)) .failed := by
  match l, signal with
  | .counting cn, some e | .counting cn, none =>
    simp only [Loop.take] at h
    split at h
    · cases h
    · exact ⟨cn, rfl, ‹_›, (Option.some.inj h).symm⟩

/-- A send the loop takes: the goroutine is gone, and the loop ends on the error it
carried or counts its `done`. -/
theorem Puts.Inv.send {s : Puts} (inv : s.Inv n result) {i : Nat} (lt : i < n)
    {signal : Option (Option String)} (was : s.pc i ≠ .sent)
    (carried : ∀ e, signal = some e → Returned n result e ∧ someFailed n result) :
    (s.send n i signal).Inv n result := by
  unfold Puts.send
  split
  · rename_i l' took
    obtain ⟨cn, loop, -, rfl⟩ := take_some took
    refine ⟨inv.err, fun k => ?_, fun cn' same => ?_, fun e same => ?_⟩
    · show (Function.update s.pc i .sent k).Known n result
      rw [Function.update_apply]
      split
      exacts [trivial, inv.known k]
    · cases signal with
      | some e => cases same
      | none =>
        obtain rfl := Loop.counting.inj same
        have count := @sentCount_update n s.pc i lt .sent
        rw [if_neg was, if_pos rfl] at count
        show cn + 1 = sentCount n (Function.update s.pc i .sent)
        rw [inv.counting cn loop]
        omega
    · cases signal with
      | some e' => obtain rfl := Loop.failed.inj same; exact carried _ rfl
      | none => cases same
  · exact inv

theorem Puts.Inv.step {s : Puts} (inv : s.Inv n result) (i : Nat) :
    (s.step n result i).Inv n result := by
  unfold Puts.step
  split
  · exact inv
  have lt : i < n := by omega
  have known := inv.known i
  cases at_i : s.pc i <;> rw [at_i] at known <;> dsimp only
  case put =>
    have moved := inv.setPc lt .test trivial (by simp [at_i]) nofun
    exact ⟨.inr ⟨i, lt, rfl⟩, moved.known, moved.counting, moved.failed⟩
  case test =>
    refine inv.setPc lt _ ?_ (by simp [at_i]) (by split <;> simp)
    split
    · rcases inv.err with none | ⟨j, lt, same⟩
      · simp_all
      · exact ⟨j, lt, by simp_all⟩
    · trivial
  case read => exact inv.setPc lt _ ⟨inv.err, known⟩ (by simp [at_i]) nofun
  case sendErr e => exact inv.send lt (by simp [at_i]) fun _ same => Option.some.inj same ▸ known
  case sendDone => exact inv.send lt (by simp [at_i]) nofun
  case sent => exact inv

theorem Puts.Inv.run {s : Puts} (inv : s.Inv n result) (schedule : List Nat) :
    (s.run n result schedule).Inv n result := by
  induction schedule generalizing s with
  | nil => exact inv
  | cons i rest ih => exact ih (inv.step i)

theorem inv_initial : Puts.initial.Inv n result where
  err := .inl rfl
  known _ := trivial
  counting cn same := by
    obtain rfl := Loop.counting.inj same
    exact (List.countP_eq_zero.mpr fun _ _ => by simp [Puts.initial]).symm
  failed _ same := by cases same

end Invariant

/-- For a positive `stressN`, with the client made and the random bytes drawn, in
every interleaving of the put goroutines: `stress` sends on `errc` only after some put
failed, and what it sends is `nil` or one put's error; and once every put goroutine
has sent, `stress` has signalled, on `errc` or on `donec`. -/
theorem stress_signals_after_puts (nodes : List Entry) (order : List String) (name : String)
    {stressN : Int} (positive : 0 < stressN) {newClient : List String → Option String}
    (connected : newClient (targetOrActive nodes order name).2 = none)
    {multiRandBytes : Nat → Int → Option (List (List UInt8))} {keys : List (List UInt8)}
    (drawn : multiRandBytes 5 stressN = some keys) (enough : stressN.toNat ≤ keys.length)
    (result : Nat → Option String) (schedule : List Nat) :
    (∀ e, stress nodes order name stressN newClient multiRandBytes result schedule = .errc e →
      (e = none ∨ ∃ i < stressN.toNat, result i = e) ∧ ∃ i < stressN.toNat, (result i).isSome) ∧
    ((∀ i < stressN.toNat, (Puts.run stressN.toNat result Puts.initial schedule).pc i = .sent) →
      stress nodes order name stressN newClient multiRandBytes result schedule = .donec ∨
        ∃ e, stress nodes order name stressN newClient multiRandBytes result schedule = .errc e) := by
  have inv := (@inv_initial stressN.toNat result).run schedule
  have ending := stress_eq connected drawn enough result schedule
  cases loop : (Puts.run stressN.toNat result Puts.initial schedule).loop with
  | failed e =>
    rw [loop] at ending
    refine ⟨fun e' ended => ?_, fun _ => .inr ⟨e, ending⟩⟩
    obtain rfl := Ending.errc.inj (ended.symm.trans ending)
    exact inv.failed _ loop
  | counting cn =>
    refine ⟨fun e ended => ?_, fun allSent => .inl (stress_eq_donec connected drawn enough positive ?_)⟩
    · rw [ending, loop] at ended
      dsimp only at ended
      split_ifs at ended
    · rw [loop, inv.counting cn loop, sentCount, List.countP_eq_length.mpr (by simpa using allSent),
        List.length_range]

/-- Two puts, the first failing. -/
def firstFails (i : Nat) : Option String :=
  if i = 0 then some "timeout" else none

theorem stress_two_puts_signal :
    (∀ e, stress Cluster.twoNodes ["a", "b"] "a" 2 (fun _ => none) (fun _ _ => some [[1], [2]]) firstFails
        [0, 1, 0, 0, 1, 1, 1] = .errc e →
      (e = none ∨ ∃ i < (2 : Int).toNat, firstFails i = e) ∧ ∃ i < (2 : Int).toNat, (firstFails i).isSome) ∧
    ((∀ i < (2 : Int).toNat, (Puts.run (2 : Int).toNat firstFails Puts.initial [0, 1, 0, 0, 1, 1, 1]).pc i = .sent) →
      stress Cluster.twoNodes ["a", "b"] "a" 2 (fun _ => none) (fun _ _ => some [[1], [2]]) firstFails
          [0, 1, 0, 0, 1, 1, 1] = .donec ∨
        ∃ e, stress Cluster.twoNodes ["a", "b"] "a" 2 (fun _ => none) (fun _ _ => some [[1], [2]]) firstFails
          [0, 1, 0, 0, 1, 1, 1] = .errc e) :=
  stress_signals_after_puts Cluster.twoNodes ["a", "b"] "a" (by decide) rfl rfl (by decide) firstFails
    [0, 1, 0, 0, 1, 1, 1]

/-- With `stressN = 0` and the client made, `stress` panics whatever
`multiRandBytes` does: no put is started, nothing arrives, and the loop ends at once
on a division by zero. -/
theorem stress_zero_panics (nodes : List Entry) (order : List String) (name : String)
    (newClient : List String → Option String)
    (multiRandBytes : Nat → Int → Option (List (List UInt8)))
    (connected : newClient (targetOrActive nodes order name).2 = none)
    (result : Nat → Option String) (schedule : List Nat) :
    stress nodes order name 0 newClient multiRandBytes result schedule = .panic := by
  have idle : ∀ s : Puts, Puts.run 0 result s schedule = s := by
    induction schedule with
    | nil => exact fun _ => rfl
    | cons i rest ih => intro s; exact (congrArg (Puts.run 0 result · rest) (if_pos (Nat.zero_le i))).trans (ih s)
  rw [stress, connected]
  cases multiRandBytes 5 0 <;> simp [idle, Puts.initial]

theorem stress_zero_panics_on_a :
    stress Cluster.twoNodes ["a", "b"] "a" 0 (fun _ => none) (fun _ _ => some []) (fun _ => none) [] = .panic :=
  stress_zero_panics _ _ _ _ _ rfl _ _

section Schedules
variable {n : Nat} {result : Nat → Option String}

/-- The puts of goroutines that have not started: each moves on to its test, and the
loop is left as it was. -/
theorem run_puts {s : Puts} {l : List Nat} (distinct : l.Nodup) (each : ∀ k ∈ l, k < n ∧ s.pc k = .put) :
    (s.run n result l).loop = s.loop ∧ ∀ k, (s.run n result l).pc k = if k ∈ l then .test else s.pc k := by
  induction l generalizing s with
  | nil => exact ⟨rfl, fun _ => rfl⟩
  | cons k rest ih =>
    rw [List.nodup_cons] at distinct
    obtain ⟨lt, at_k⟩ := each k (List.mem_cons_self _ _)
    have other : ∀ m ∈ rest, m ≠ k := fun m mem same => distinct.1 (same ▸ mem)
    have stepped : s.step n result k = { s with err := result k, pc := Function.update s.pc k .test } := by
      rw [Puts.step, if_neg (by omega), at_k]
    obtain ⟨loop, pc⟩ := ih (s := s.step n result k) distinct.2 fun m mem => by
      rw [stepped]
      exact ⟨(each m (List.mem_cons_of_mem _ mem)).1,
        (Function.update_noteq (other m mem) _ _).trans (each m (List.mem_cons_of_mem _ mem)).2⟩
    refine ⟨loop.trans (by rw [stepped]), fun m => ?_⟩
    rw [Puts.run, List.foldl_cons, ← Puts.run, pc, stepped]
    show (if m ∈ rest then .test else Function.update s.pc k .test m) = _
    by_cases here : m = k
    · subst here
      simp [distinct.1]
    · simp [here, Function.update_noteq here]

/-- With `err` nil, goroutines at their test each test it and send `done`, and the
loop counts them. -/
theorem run_tests_sends {s : Puts} {l : List Nat} {cn : Nat} (distinct : l.Nodup)
    (each : ∀ k ∈ l, k < n ∧ s.pc k = .test) (nil : s.err = none) (loop : s.loop = .counting cn)
    (room : cn + l.length ≤ n) :
    (s.run n result (l.flatMap fun k => [k, k])).loop = .counting (cn + l.length) := by
  induction l generalizing s cn with
  | nil => simpa using loop
  | cons k rest ih =>
    rw [List.nodup_cons] at distinct
    obtain ⟨lt, at_k⟩ := each k (List.mem_cons_self _ _)
    have other : ∀ m ∈ rest, m ≠ k := fun m mem same => distinct.1 (same ▸ mem)
    have took : s.loop.take n none = some (.counting (cn + 1)) := by
      rw [loop, Loop.take, if_neg (by simp only [List.length_cons] at room; omega)]
    have sent : (s.step n result k).step n result k =
        { s with pc := Function.update s.pc k .sent, loop := .counting (cn + 1) } := by
      have tested : s.step n result k = { s with pc := Function.update s.pc k .sendDone } := by
        rw [Puts.step, if_neg (by omega), at_k]
        simp [nil]
      rw [tested, Puts.step, if_neg (by omega)]
      simp only [Function.update_same, Puts.send, took, Function.update_idem]
    have := ih (s := (s.step n result k).step n result k) distinct.2
      (fun m mem => by
        rw [sent]
        exact ⟨(each m (List.mem_cons_of_mem _ mem)).1,
          (Function.update_noteq (other m mem) _ _).trans (each m (List.mem_cons_of_mem _ mem)).2⟩)
      (by rw [sent]; exact nil) (by rw [sent]) (by simp only [List.length_cons] at room; omega)
    rw [List.flatMap_cons, Puts.run, List.foldl_append, List.foldl_cons, List.foldl_cons, List.foldl_nil,
      ← Puts.run, this]
    congr 1
    simp only [List.length_cons]
    omega

end Schedules

/-- Whatever the other puts return, one successful put lets some interleaving end
`stress` on `donec`; and when another put failed, some interleaving makes it send
`nil` on `errc`, which `Stress` returns as success. -/
theorem stress_hides_failed_puts (nodes : List Entry) (order : List String) (name : String)
    {stressN : Int} {newClient : List String → Option String}
    (connected : newClient (targetOrActive nodes order name).2 = none)
    {multiRandBytes : Nat → Int → Option (List (List UInt8))} {keys : List (List UInt8)}
    (drawn : multiRandBytes 5 stressN = some keys) (enough : stressN.toNat ≤ keys.length)
    (result : Nat → Option String) {j : Nat} (lt_j : j < stressN.toNat) (succeeded : result j = none) :
    (∃ schedule, stress nodes order name stressN newClient multiRandBytes result schedule = .donec) ∧
      ∀ i e, i < stressN.toNat → i ≠ j → result i = some e →
        ∃ schedule, stress nodes order name stressN newClient multiRandBytes result schedule = .errc none := by
  have positive : 0 < stressN := by omega
  refine ⟨⟨((List.range stressN.toNat).filter (· ≠ j) ++ [j]) ++
      (List.range stressN.toNat).flatMap fun k => [k, k], ?_⟩, fun i e lt_i other failed => ⟨[i, i, j, i, i], ?_⟩⟩
  · -- every put but `j`'s, then `j`'s, which leaves `err` nil, then every test and `done`
    have puts := @run_puts stressN.toNat result Puts.initial ((List.range stressN.toNat).filter (· ≠ j))
      ((List.nodup_range _).filter _) fun k mem => ⟨List.mem_range.mp (List.mem_of_mem_filter mem), rfl⟩
    set s := Puts.run stressN.toNat result Puts.initial ((List.range stressN.toNat).filter (· ≠ j)) with hs
    have at_j : s.pc j = .put := by rw [puts.2 j, if_neg (by simp)]; rfl
    have stepped : s.step stressN.toNat result j =
        { s with err := result j, pc := Function.update s.pc j .test } := by
      rw [Puts.step, if_neg (by omega), at_j]
    have tested : ∀ k < stressN.toNat, (s.step stressN.toNat result j).pc k = .test := by
      intro k lt
      rw [stepped]
      show Function.update s.pc j .test k = .test
      rw [Function.update_apply]
      split
      · rfl
      · rw [puts.2 k]; simp [lt, *]
    have done := @run_tests_sends stressN.toNat result (s.step stressN.toNat result j) (List.range stressN.toNat) 0
      (List.nodup_range _) (fun k mem => ⟨List.mem_range.mp mem, tested k (List.mem_range.mp mem)⟩)
      (by rw [stepped]; exact succeeded) (by rw [stepped]; exact puts.1) (by rw [List.length_range]; omega)
    refine stress_eq_donec connected drawn enough positive ?_
    rw [Puts.run_append, Puts.run_append, ← hs]
    exact done.trans (by rw [Nat.zero_add, List.length_range])
  · -- `i` fails and tests its error, `j` overwrites it with `nil`, `i` reads and sends it
    rw [stress_eq connected drawn enough]
    have ne : stressN.toNat ≠ 0 := by omega
    simp [Puts.run, Puts.step, Puts.initial, Puts.send, Loop.take, lt_i, lt_j, Nat.not_le.mpr, failed,
      succeeded, other, Ne.symm other, Function.update_noteq, ne, Ne.symm ne]

theorem stress_hides_failed_put_of_two :
    (∃ schedule, stress Cluster.twoNodes ["a", "b"] "a" 2 (fun _ => none) (fun _ _ => some [[1], [2]])
        firstFails schedule = .donec) ∧
      ∀ i e, i < (2 : Int).toNat → i ≠ 1 → firstFails i = some e →
        ∃ schedule, stress Cluster.twoNodes ["a", "b"] "a" 2 (fun _ => none) (fun _ _ => some [[1], [2]])
          firstFails schedule = .errc none :=
  stress_hides_failed_puts Cluster.twoNodes ["a", "b"] "a" rfl rfl (by decide) firstFails (by decide) rfl

/-- Put 0 fails and put 1 succeeds: put 1 overwrites `err` before either tests it,
both send `done`, and `stress` ends on `donec`. -/
example : stress Cluster.twoNodes ["a", "b"] "a" 2 (fun _ => none) (fun _ _ => some [[1], [2]]) firstFails
    [0, 1, 0, 0, 1, 1] = .donec := by
  decide

end EtcdPlay.Load
