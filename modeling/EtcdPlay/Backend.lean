import EtcdPlay.RateLimit
import Mathlib.Data.List.Sort

/-!
The user cache of the web front end (backend, `initGlobalData`) and the goroutines that
share it. `globalCache.mu` is held for the whole of what each of them does to `users`, so a
run is a sequence of whole operations: `withCache` registering the user of a request,
`okToRequest` counting a request, and a pass of the cleanup goroutine, which deletes the
users started more than an hour before. The status poller only reads `users`, and the
revive loop only the cluster.

The cleanup pass deletes entries while it ranges over the map; in whatever order the range
visits them it leaves the users started at most an hour before (`cleanup_eq_expire`), so a
run takes that result. A user the pass drops and `withCache` registers again gets a new
entry, whose first four requests pass: with the passes an hour apart, as the goroutine's
`time.Sleep(time.Hour)` keeps them, no window of a second lets more than twelve requests
of one user through (`at_most_twelve_per_second`).

The poller masks bytes 2 to 8 of each ID it visits, cuts it to 23 bytes and `"..."`, and
stops after the twenty-first; `"...more"` follows more than twenty names, so also exactly
twenty-one, when no user is left out (`userList_eq`). An ID of fewer than nine bytes is an
index out of range in the goroutine, which ends the program. No published name shows bytes
2 to 8 of an ID (`userList_hides_ip`).
-/

namespace EtcdPlay.Backend
open RateLimit

/-- `time.Hour`. -/
def hour : Int := 3600000000000

/-! ## The cleanup pass -/

/-- One iteration of the cleanup loop, on the user the range yields: the entry goes when
`now.Sub(v.startTime) > time.Hour`. -/
def dropIfStale (now : Int) (users : String → Option UserData) (userID : String) :
    String → Option UserData :=
  match users userID with
  | some v => if sub now v.startTime > hour then Function.update users userID none else users
  | none => users

/-- The pass of the cleanup goroutine at `now`, the range visiting the users in `order`. -/
def cleanup (now : Int) (users : String → Option UserData) (order : List String) :
    String → Option UserData :=
  order.foldl (dropIfStale now) users

/-- What a pass leaves: the users started at most an hour before `now`, as they were. -/
def expire (now : Int) (users : String → Option UserData) : String → Option UserData :=
  fun userID => (users userID).bind fun v => if sub now v.startTime > hour then none else some v

theorem dropIfStale_apply (now : Int) (users : String → Option UserData) (visited userID : String) :
    dropIfStale now users visited userID =
      if userID = visited then expire now users userID else users userID := by
  unfold dropIfStale expire
  cases found : users visited with
  | none => by_cases same : userID = visited <;> simp [found, same]
  | some v =>
    by_cases same : userID = visited
    · subst same
      by_cases stale : sub now v.startTime > hour <;> simp [found, stale]
    · by_cases stale : sub now v.startTime > hour <;> simp [found, stale, same]

theorem expire_dropIfStale (now : Int) (users : String → Option UserData) (visited : String) :
    expire now (dropIfStale now users visited) = expire now users := by
  funext userID
  rw [expire, dropIfStale_apply]
  split_ifs
  · unfold expire
    cases users userID with
    | none => rfl
    | some v => by_cases stale : sub now v.startTime > hour <;> simp [stale]
  · rfl

/-- After a pass, a user the range visited is as `expire` leaves it, and any other as it was. -/
theorem cleanup_apply (now : Int) (order : List String) :
    ∀ (users : String → Option UserData) (userID : String),
      cleanup now users order userID =
        if userID ∈ order then expire now users userID else users userID := by
  induction order with
  | nil => intros; rfl
  | cons visited rest ih =>
    intro users userID
    rw [cleanup, List.foldl_cons, ← cleanup, ih, expire_dropIfStale, dropIfStale_apply]
    by_cases later : userID ∈ rest <;> by_cases same : userID = visited <;> simp [later, same]

/-- In whatever order the range visits the users, a pass leaves exactly the users started
at most an hour before `now`, each entry as it was. -/
theorem cleanup_eq_expire (now : Int) (users : String → Option UserData) (order : List String)
    (visits : ∀ userID, (users userID).isSome → userID ∈ order) :
    cleanup now users order = expire now users := by
  funext userID
  rw [cleanup_apply]
  split_ifs with visited
  · rfl
  · cases found : users userID with
    | none => simp [expire, found]
    | some v => exact absurd (visits userID (by simp [found])) visited

/-- User `u` registered at 0 and `v` two hours later. -/
def twoUsers : String → Option UserData :=
  withCache (withCache (fun _ => none) "u" 0) "v" (2 * hour)

theorem cleanup_of_two_users :
    (∀ userID, (twoUsers userID).isSome → userID ∈ ["v", "u"]) ∧
      cleanup (2 * hour) twoUsers ["v", "u"] = expire (2 * hour) twoUsers :=
  have visits : ∀ userID, (twoUsers userID).isSome → userID ∈ ["v", "u"] := by
    intro userID found
    by_cases v : userID = "v" <;> by_cases u : userID = "u" <;> simp_all [twoUsers, withCache]
  ⟨visits, cleanup_eq_expire _ _ _ visits⟩

/-- The pass at two hours drops `u` and keeps `v`. -/
example : cleanup (2 * hour) twoUsers ["v", "u"] "u" = none ∧
    cleanup (2 * hour) twoUsers ["v", "u"] "v" = some ⟨2 * hour, zeroTime, 0⟩ := by
  decide

/-- A user started exactly an hour before the pass is kept. -/
example : cleanup hour (withCache (fun _ => none) "u" 0) ["u"] "u" = some ⟨0, zeroTime, 0⟩ := by
  decide

/-! ## Runs of the cache -/

/-- What a goroutine does to `users` under `globalCache.mu`, and when. -/
inductive Event where
  | register (userID : String) (now : Int)
  | request (userID : String) (now : Int)
  | cleanup (now : Int)
  deriving DecidableEq, Repr

def Event.time : Event → Int
  | .register _ now | .request _ now | .cleanup now => now

/-- An operation on the map: whether it is a request let through, and the map it leaves. -/
def step (users : String → Option UserData) : Event → Bool × (String → Option UserData)
  | .register userID now => (false, withCache users userID now)
  | .request userID now => okToRequest users userID now
  | .cleanup now => (false, expire now users)

/-- The requests a run lets through. -/
def passed (users : String → Option UserData) : List Event → List Event
  | [] => []
  | e :: evs =>
    if (step users e).1 then e :: passed (step users e).2 evs else passed (step users e).2 evs

/-- A request of `userID` in the window of a second beginning at `start`. -/
def within (userID : String) (start : Int) : Event → Bool
  | .request u now => u = userID ∧ start ≤ now ∧ now < start + second
  | _ => false

/-- A pass of the cleanup goroutine in the window. -/
def cleanupWithin (start : Int) : Event → Bool
  | .cleanup now => start ≤ now ∧ now < start + second
  | _ => false

/-- The times of the passes of the cleanup goroutine. -/
def cleanupTime : Event → Option Int
  | .cleanup now => some now
  | _ => none

/-! ### What one operation does to the entry of one user -/

section Entry
variable {users : String → Option UserData} {userID : String}

/-- An entry of no requests, as `withCache` makes it and as a user with none is counted. -/
def idle : UserData := ⟨zeroTime, zeroTime, 0⟩

/-- The budget of the user's entry in the window, or that of a new one. -/
def entryBudget (start t : Int) (e : Option UserData) : Int := budget start t (e.getD idle)

/-- The user's entry, if any, is sane at `t` and has room for `k` more counts below the top. -/
def Fits (t : Int) (k : Nat) (e : Option UserData) : Prop :=
  ∀ v, e = some v → Sane t v ∧ v.requestCount + k ≤ maxInt

theorem sane_later {t t' : Int} {v : UserData} (later : t ≤ t') (sane : Sane t v) : Sane t' v :=
  ⟨sane.1, fun busy => (sane.2 busy).trans later⟩

theorem Fits.later {t t' : Int} {k : Nat} {e : Option UserData} (later : t ≤ t') (fits : Fits t (k + 1) e) :
    Fits t' k e := fun v found =>
  ⟨sane_later later (fits v found).1, by have := (fits v found).2; push_cast at this; omega⟩

theorem fits_registered {t : Int} {k : Nat} (start : Int) (few : k ≤ maxInt) :
    Fits t k (some ⟨start, zeroTime, 0⟩) := by
  rintro v ⟨⟩
  exact ⟨⟨Int.le_refl 0, fun busy => absurd rfl busy⟩, by simpa using few⟩

theorem budget_of_idle (start t : Int) {v : UserData} (zero : v.requestCount = 0) :
    budget start t v = budget start t idle := by
  simp [budget, roundBudget, zero, idle]

/-- Without calls the budget only shrinks as the window comes and goes. -/
theorem budget_anti (start : Int) {t t' : Int} {v : UserData} (later : t ≤ t') (sane : Sane t v) :
    budget start t' v ≤ budget start t v := by
  have low := budget_nonneg start t v
  have round := budget_le_eight start t' v (sane_later later sane)
  by_cases behind : start + second ≤ t'
  · rw [budget, if_pos behind]
    exact low
  by_cases ahead : t' < start
  · rw [budget, if_neg behind, if_pos ahead, budget, if_neg (by omega), if_pos (by omega)]
  · rw [budget, if_neg behind, if_neg ahead] at round ⊢
    rw [budget, if_neg (by omega)]
    split_ifs <;> omega

theorem entryBudget_anti (start : Int) {t t' : Int} {k : Nat} {e : Option UserData} (later : t ≤ t')
    (fits : Fits t k e) : entryBudget start t' e ≤ entryBudget start t e := by
  cases e with
  | none => exact budget_anti start later ⟨Int.le_refl 0, fun busy => absurd rfl busy⟩
  | some v => exact budget_anti start later (fits v rfl).1

/-- An entry the cleanup pass drops is worth a new round if the pass falls in the window. -/
theorem budget_idle_le (start : Int) {t now : Int} (v : UserData) (later : t ≤ now) :
    budget start now idle ≤
      budget start t v + if start ≤ now ∧ now < start + second then 4 else 0 := by
  have low := budget_nonneg start t v
  have round : roundBudget start idle = 4 := by simp [roundBudget, idle]
  by_cases behind : start + second ≤ now
  · rw [budget, if_pos behind]
    split_ifs <;> omega
  by_cases ahead : now < start
  · rw [budget, if_neg behind, if_pos ahead, budget, if_neg (by omega), if_pos (by omega),
      if_neg (by omega)]
    omega
  · rw [budget, if_neg behind, if_neg ahead, round, if_pos ⟨by omega, by omega⟩]
    omega

/-! ### Frame and entry lemmas of the three operations -/

theorem withCache_other {u userID : String} (now : Int) (other : u ≠ userID) :
    withCache users u now userID = users userID := by
  unfold withCache
  cases users u <;> simp [Function.update_noteq other.symm]

/-- `withCache` leaves the entry as it was, or makes a new one where there was none. -/
theorem withCache_entry (u : String) (now : Int) :
    withCache users u now userID = users userID ∨
      (users userID = none ∧ withCache users u now userID = some ⟨now, zeroTime, 0⟩) := by
  by_cases same : u = userID
  · subst same
    cases found : users u with
    | none => exact .inr ⟨rfl, withCache_fresh now found⟩
    | some v => simp [withCache, found]
  · exact .inl (withCache_other now same)

theorem entryBudget_withCache (start t : Int) (u : String) (now : Int) :
    entryBudget start t (withCache users u now userID) = entryBudget start t (users userID) := by
  rcases @withCache_entry users userID u now with same | ⟨none, fresh⟩
  · rw [same]
  · rw [fresh, none]
    exact budget_of_idle start t rfl

theorem okToRequest_other {u userID : String} (now : Int) (other : u ≠ userID) :
    (okToRequest users u now).2 userID = users userID := by
  unfold okToRequest
  cases users u <;> simp [Function.update_noteq other.symm]

theorem expire_entry (now : Int) :
    expire now users userID = users userID ∨ expire now users userID = none := by
  unfold expire
  cases users userID with
  | none => simp
  | some v => by_cases stale : sub now v.startTime > hour <;> simp [stale]

end Entry


/-! ### A run, one operation at a time -/

section Window
variable (userID : String) (start : Int)

/-- An operation keeps the user's entry sane and spends at most one count of its room. -/
theorem step_fits {users : String → Option UserData} {e : Event} {t : Int} {k : Nat}
    (later : t ≤ e.time) (fits : Fits t (k + 1) (users userID)) (few : k + 1 ≤ maxInt) :
    Fits e.time k ((step users e).2 userID) := by
  cases e with
  | register u now =>
    change Fits now k (withCache users u now userID)
    rcases @withCache_entry users userID u now with same | ⟨-, fresh⟩
    · rw [same]
      exact fits.later later
    · rw [fresh]
      exact fits_registered now (by omega)
  | request u now =>
    change t ≤ now at later
    change Fits now k ((okToRequest users u now).2 userID)
    by_cases same : u = userID
    · subst same
      cases found : users u with
      | none =>
        rw [found] at fits
        simpa only [okToRequest, found] using fits.later later
      | some v =>
        obtain ⟨sane, room⟩ := fits v found
        obtain ⟨sane', grows⟩ := countRequest_sane later sane (by push_cast at room; omega)
        simp only [okToRequest, found, Function.update_same]
        rintro w ⟨⟩
        exact ⟨sane', by push_cast at room; omega⟩
    · rw [okToRequest_other now same]
      exact fits.later later
  | cleanup now =>
    change Fits now k (expire now users userID)
    rcases @expire_entry users userID now with same | dropped
    · rw [same]
      exact fits.later later
    · rw [dropped]
      rintro _ ⟨⟩

/-- What an operation lets through in the window, it spends from the entry's budget; a
pass of the cleanup goroutine in the window may give it a new round of four. -/
theorem step_budget {users : String → Option UserData} {e : Event} {t : Int} {k : Nat}
    (later : t ≤ e.time) (fits : Fits t (k + 1) (users userID)) :
    (if (step users e).1 ∧ within userID start e then 1 else 0) +
        entryBudget start e.time ((step users e).2 userID) ≤
      entryBudget start t (users userID) + if cleanupWithin start e then 4 else 0 := by
  have kept := entryBudget_anti start later fits
  cases e with
  | register u now =>
    change t ≤ now at later
    simpa only [step, within, cleanupWithin, entryBudget_withCache, Bool.false_eq_true, false_and,
      if_false, Int.zero_add, Int.add_zero] using kept
  | request u now =>
    change t ≤ now at later
    by_cases same : u = userID
    · subst same
      cases found : users u with
      | none =>
        rw [found] at kept
        simpa [step, okToRequest, found, cleanupWithin] using kept
      | some v =>
        obtain ⟨sane, room⟩ := fits v found
        have spent := countRequest_budget start later sane (by push_cast at room; omega)
        simpa [step, okToRequest, found, within, cleanupWithin, entryBudget] using spent
    · simpa [step, okToRequest_other now same, within, same, cleanupWithin] using kept
  | cleanup now =>
    change t ≤ now at later
    have low : (0 : Int) ≤ if cleanupWithin start (.cleanup now) then 4 else 0 := by
      split_ifs <;> omega
    rcases @expire_entry users userID now with same | dropped
    · simp only [step, same, Bool.false_eq_true, false_and, if_false, Int.zero_add]
      omega
    · simpa [step, dropped, cleanupWithin, entryBudget] using
        budget_idle_le start ((users userID).getD idle) later

theorem passed_filter_cons (users : String → Option UserData) (e : Event) (evs : List Event) :
    ((passed users (e :: evs)).filter (within userID start)).length =
      (if (step users e).1 ∧ within userID start e then 1 else 0) +
        ((passed (step users e).2 evs).filter (within userID start)).length := by
  rw [passed]
  by_cases ok : (step users e).1 <;> by_cases inside : within userID start e <;>
    simp [ok, inside, List.filter_cons, Nat.add_comm]

/-- Along a run at non-decreasing times, the requests of a user let through in the window
stay within the budget of its entry and four for each pass of the cleanup goroutine in the
window. -/
theorem passed_within_budget :
    ∀ (evs : List Event) (users : String → Option UserData) (t : Int), (∀ e ∈ evs, t ≤ e.time) →
      (evs.map Event.time).Pairwise (· ≤ ·) → evs.length ≤ maxInt → Fits t evs.length (users userID) →
      (((passed users evs).filter (within userID start)).length : Int) ≤
        entryBudget start t (users userID) + 4 * ((evs.filter (cleanupWithin start)).length : Int)
  | [], users, t, _, _, _, _ => by simpa [passed] using budget_nonneg start t _
  | e :: evs, users, t, after, sorted, few, fits => by
    have later := after e (List.mem_cons_self _ _)
    have few' : evs.length + 1 ≤ maxInt := by simpa using few
    have rest := passed_within_budget evs (step users e).2 e.time
      (fun x mem => (List.pairwise_cons.1 sorted).1 x.time (List.mem_map_of_mem _ mem))
      (List.pairwise_cons.1 sorted).2 (by omega) (step_fits userID later fits few')
    have spent := step_budget userID start later fits
    rw [passed_filter_cons, List.filter_cons]
    split_ifs at spent ⊢ <;> simp only [List.length_cons] at rest ⊢ <;> push_cast <;> omega

end Window

theorem filter_cleanupWithin_eq_nil {start : Int} {evs : List Event}
    (after : ∀ c ∈ evs.filterMap cleanupTime, start + second ≤ c) :
    evs.filter (cleanupWithin start) = [] := by
  refine List.filter_eq_nil_iff.2 fun e mem => ?_
  cases e with
  | cleanup c =>
    have := after c (List.mem_filterMap.2 ⟨_, mem, rfl⟩)
    simp [cleanupWithin]
    omega
  | _ => simp [cleanupWithin]

/-- Passes an hour apart put at most one in a window of a second. -/
theorem cleanups_within_le_one (start : Int) {evs : List Event}
    (hourly : (evs.filterMap cleanupTime).Pairwise fun a b => a + hour ≤ b) :
    (evs.filter (cleanupWithin start)).length ≤ 1 := by
  induction evs with
  | nil => simp
  | cons e evs ih =>
    cases e with
    | cleanup c =>
      have ⟨apart, rest⟩ := List.pairwise_cons.1 hourly
      by_cases inside : start ≤ c ∧ c < start + second
      · have none := @filter_cleanupWithin_eq_nil start evs fun b mem => by
          have := apart b mem
          unfold hour at this
          unfold second at inside ⊢
          omega
        simp [cleanupWithin, List.filter_cons, inside, none]
      · simpa [cleanupWithin, List.filter_cons, inside] using ih rest
    | _ => simpa [cleanupWithin, List.filter_cons] using ih hourly

/-- In every run of the cache from the empty map, its operations interleaved in any way at
non-decreasing times and the cleanup passes at least an hour apart, no window of a second
lets more than twelve requests of one user through. -/
theorem at_most_twelve_per_second (evs : List Event) (sorted : (evs.map Event.time).Pairwise (· ≤ ·))
    (hourly : (evs.filterMap cleanupTime).Pairwise fun a b => a + hour ≤ b)
    (few : evs.length ≤ maxInt) (userID : String) (start : Int) :
    ((passed (fun _ => none) evs).filter (within userID start)).length ≤ 12 := by
  cases evs with
  | nil => simp [passed]
  | cons e rest =>
    have bound := passed_within_budget userID start (e :: rest) (fun _ => none) e.time
      (List.forall_mem_cons.2 ⟨Int.le_refl _, fun x mem =>
        (List.pairwise_cons.1 sorted).1 x.time (List.mem_map_of_mem _ mem)⟩)
      sorted few (fun _ found => nomatch found)
    have eight : entryBudget start e.time none ≤ 8 :=
      budget_le_eight start _ _ ⟨Int.le_refl 0, fun busy => absurd rfl busy⟩
    have once := cleanups_within_le_one start hourly
    simp only at bound
    omega

theorem twelve_requests_after_a_cleanup :
    (([.register "u" 0, .request "u" 0] ++ List.replicate 8 (.request "u" (2 * hour)) ++
        [.cleanup (2 * hour), .register "u" (2 * hour)] ++ List.replicate 4 (.request "u" (2 * hour)) :
        List Event).map Event.time).Pairwise (· ≤ ·) ∧
    (([.register "u" 0, .request "u" 0] ++ List.replicate 8 (.request "u" (2 * hour)) ++
        [.cleanup (2 * hour), .register "u" (2 * hour)] ++ List.replicate 4 (.request "u" (2 * hour)) :
        List Event).filterMap cleanupTime).Pairwise (fun a b => a + hour ≤ b) ∧
    ((passed (fun _ => none) ([.register "u" 0, .request "u" 0] ++
        List.replicate 8 (.request "u" (2 * hour)) ++ [.cleanup (2 * hour), .register "u" (2 * hour)] ++
        List.replicate 4 (.request "u" (2 * hour)))).filter (within "u" (2 * hour))).length ≤ 12 :=
  ⟨by decide, by decide, at_most_twelve_per_second _ (by decide) (by decide) (by decide) "u" (2 * hour)⟩

/-- The bound is reached: a user started two hours before has its round reset, the pass drops
it, and `withCache` registers it again, all at one instant. -/
example :
    ((passed (fun _ => none) ([.register "u" 0, .request "u" 0] ++
        List.replicate 8 (.request "u" (2 * hour)) ++ [.cleanup (2 * hour), .register "u" (2 * hour)] ++
        List.replicate 4 (.request "u" (2 * hour)))).filter (within "u" (2 * hour))).length = 12 := by
  decide

/-! ## The status poller's list of users -/

/-- `[]byte(s)`. -/
def bytes (s : String) : List UInt8 := s.toUTF8.data.toList

/-- `bts[i] = 'x'`, or `none` when `i` is out of range: a run-time panic. -/
def setX (bts : List UInt8) (i : Nat) : Option (List UInt8) :=
  if i < bts.length then some (bts.set i 120) else none

/-- The masking of an ID in the poller: bytes 2 to 8 set to `'x'`, one after the other. -/
def maskIP (bts : List UInt8) : Option (List UInt8) := [2, 3, 4, 5, 6, 7, 8].foldlM setX bts

/-- `bs[:23] + "..."` for a name of more than 23 bytes. -/
def clip (bs : List UInt8) : List UInt8 := if bs.length > 23 then bs.take 23 ++ bytes "..." else bs

/-- The range over `globalCache.users` in the order it takes, `cn` counting the names
appended: each ID masked and clipped, and a break once `cn` passes 20. -/
def collectUsers : Nat → List String → Option (List (List UInt8))
  | _, [] => some []
  | cn, u :: us =>
    match maskIP (bytes u) with
    | none => none
    | some bts =>
      if cn + 1 > 20 then some [clip bts] else (collectUsers (cn + 1) us).map (clip bts :: ·)

/-- The names the poller publishes: sorted by `sort.Strings`, and `"...more"` after more
than twenty. -/
def userList (order : List String) : Option (List (List UInt8)) :=
  (collectUsers 0 order).map fun users =>
    let users := users.insertionSort (· ≤ ·)
    if users.length > 20 then users ++ [bytes "...more"] else users

/-- `strings.Join(users, "<br>")`. -/
def join (users : List (List UInt8)) : List UInt8 := (users.intersperse (bytes "<br>")).flatten

/-- A round of the poller: nothing while the cache has no cluster or no user (`userN`, read
under one lock), else the joined names of the users (read under another, in `order`) for
`activeUserList`; `none` is the panic of a short ID. -/
def poll (clusterActive : Bool) (userN : Nat) (order : List String) : Option (Option (List UInt8)) :=
  if clusterActive ∧ userN > 0 then (userList order).map (some ∘ join) else some none

/-- An ID of at least nine bytes, masked. -/
def masked (bts : List UInt8) : List UInt8 := [2, 3, 4, 5, 6, 7, 8].foldl (fun b i => b.set i 120) bts

theorem foldlM_setX (is : List Nat) : ∀ bts : List UInt8,
    is.foldlM setX bts =
      if ∀ i ∈ is, i < bts.length then some (is.foldl (fun b i => b.set i 120) bts) else none := by
  induction is with
  | nil => simp
  | cons i is ih =>
    intro bts
    by_cases inRange : i < bts.length
    · simp [List.foldlM_cons, setX, inRange, ih, List.length_set]
    · simp [List.foldlM_cons, setX, inRange]

theorem maskIP_eq (bts : List UInt8) :
    maskIP bts = if 9 ≤ bts.length then some (masked bts) else none := by
  rw [maskIP, foldlM_setX, masked]
  congr 1
  simp only [List.mem_cons, List.mem_singleton, forall_eq_or_imp, forall_eq, List.not_mem_nil,
    false_implies, implies_true, and_true, eq_iff_iff]
  omega

theorem getElem?_foldl_set (is : List Nat) : ∀ (bts : List UInt8) (j : Nat),
    (is.foldl (fun b i => b.set i 120) bts)[j]? = if j ∈ is ∧ j < bts.length then some 120 else bts[j]? := by
  induction is with
  | nil => simp
  | cons i is ih =>
    intro bts j
    rw [List.foldl_cons, ih, List.getElem?_set, List.length_set]
    by_cases same : i = j
    · subst same
      by_cases inRange : i < bts.length
      · simp [inRange]
      · simp [inRange, List.getElem?_eq_none (Nat.le_of_not_lt inRange)]
    · simp [same, Ne.symm same]

/-- The loop with its count and break lists the first twenty-one IDs the range visits, or
panics on a short one among them. -/
theorem collectUsers_eq : ∀ (cn : Nat) (order : List String), cn ≤ 20 →
    collectUsers cn order =
      if ∀ u ∈ order.take (21 - cn), 9 ≤ (bytes u).length then
        some ((order.take (21 - cn)).map fun u => clip (masked (bytes u)))
      else none
  | _, [], _ => by simp [collectUsers]
  | cn, u :: us, small => by
    obtain ⟨k, hk⟩ : ∃ k, 21 - cn = k + 1 := ⟨20 - cn, by omega⟩
    rw [collectUsers, maskIP_eq, hk, List.take_succ_cons]
    by_cases long : 9 ≤ (bytes u).length
    · by_cases last : cn + 1 > 20
      · have : k = 0 := by omega
        simp [this, long, last]
      · rw [collectUsers_eq (cn + 1) us (by omega), show 21 - (cn + 1) = k by omega]
        by_cases rest : ∀ u ∈ us.take k, 9 ≤ (bytes u).length <;> simp [long, last, rest]
    · simp [long]

/-- The poller's loop and sort give the masked and clipped IDs of the first twenty-one
users the range visits, sorted, and `"...more"` after them whenever there are twenty-one
users or more, so also when none is left out; a visited ID of fewer than nine bytes panics. -/
theorem userList_eq (order : List String) :
    userList order =
      if ∀ u ∈ order.take 21, 9 ≤ (bytes u).length then
        some ((((order.take 21).map fun u => clip (masked (bytes u))).insertionSort (· ≤ ·)) ++
          if 21 ≤ order.length then [bytes "...more"] else [])
      else none := by
  rw [userList, collectUsers_eq 0 order (Nat.zero_le _)]
  split_ifs with long more <;> simp [List.length_insertionSort] <;> omega

theorem getElem?_clip {bs : List UInt8} {i : Nat} (front : i < 23) : (clip bs)[i]? = bs[i]? := by
  unfold clip
  split_ifs with long
  · rw [List.getElem?_append_left (by simp; omega), List.getElem?_take_of_lt front]
  · rfl

/-- A name made of an ID of nine bytes or more shows `'x'` for bytes 2 to 8 and has at most
26 bytes. -/
theorem clip_masked {bts : List UInt8} (long : 9 ≤ bts.length) :
    (∀ i, 2 ≤ i → i ≤ 8 → (clip (masked bts))[i]? = some 120) ∧ (clip (masked bts)).length ≤ 26 := by
  refine ⟨fun i low high => ?_, ?_⟩
  · rw [getElem?_clip (by omega), masked, getElem?_foldl_set, if_pos]
    exact ⟨by simp; omega, by omega⟩
  · have dots : (bytes "...").length = 3 := by decide
    unfold clip
    split_ifs with cut
    · simp [dots]
    · omega

/-- Every name the poller publishes but `"...more"` hides bytes 2 to 8 of the ID behind
`'x'` and has at most 26 bytes. -/
theorem userList_hides_ip {order : List String} {names : List (List UInt8)}
    (published : userList order = some names) :
    ∀ bs ∈ names, bs = bytes "...more" ∨
      (∀ i, 2 ≤ i → i ≤ 8 → bs[i]? = some 120) ∧ bs.length ≤ 26 := by
  rw [userList_eq] at published
  by_cases long : ∀ u ∈ order.take 21, 9 ≤ (bytes u).length
  · rw [if_pos long, Option.some_inj] at published
    subst published
    intro bs mem
    rcases List.mem_append.1 mem with sorted | more
    · obtain ⟨u, visited, rfl⟩ := List.mem_map.1 ((List.perm_insertionSort _ _).subset sorted)
      exact .inr (clip_masked (long u visited))
    · split_ifs at more
      · exact .inl (List.mem_singleton.1 more)
      · cases more
  · rw [if_neg long] at published
    cases published

theorem one_user_masked :
    userList ["10.0.0.12"] = some [bytes "10xxxxxxx"] ∧
      ∀ bs ∈ [bytes "10xxxxxxx"], bs = bytes "...more" ∨
        (∀ i, 2 ≤ i → i ≤ 8 → bs[i]? = some 120) ∧ bs.length ≤ 26 :=
  ⟨by decide, @userList_hides_ip ["10.0.0.12"] _ (by decide)⟩

end EtcdPlay.Backend
