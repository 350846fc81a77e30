import Mathlib.Logic.Function.Basic

/-!
The per-user rate limit of the web front end (backend): `cache.okToRequest` and the
entry `withCache` makes for a user it has not seen. Times are nanoseconds counted from
the zero `time.Time`, a call reads the clock once, and `Time.Sub` saturates at the
bounds of `time.Duration`. `requestCount` is a Go `int`, taken with 64 bits, and wraps
around at the top.

The comment says at most five requests per second. The first call of a round stamps
`lastRequestTime` and the next three pass without reading the stamp. The call that
finds the stamp more than a second old passes and sets the count back to zero, so a new
round begins at once: eight calls pass at one instant (`eight_requests_in_one_second`).
No window of a second holds more than eight (`at_most_eight_per_second`).
-/

namespace EtcdPlay.RateLimit

/-- `time.Second`. -/
def second : Int := 1000000000

/-- The bounds of `time.Duration`, an `int64` count of nanoseconds. -/
def maxDuration : Int := 9223372036854775807

def minDuration : Int := -9223372036854775808

/-- `t.Sub(u)`, saturated at the bounds of `time.Duration`. -/
def sub (t u : Int) : Int := max minDuration (min maxDuration (t - u))

/-- `math.MaxInt` and `math.MinInt` for a Go `int` of 64 bits. -/
def maxInt : Int := 9223372036854775807

def minInt : Int := -9223372036854775808

/-- `x++` on a Go `int` of 64 bits: the sum taken modulo `2^64` into the range of `int`. -/
def increment (x : Int) : Int := (x + 1).bmod 18446744073709551616

/-- `time.Time{}`, from which times are counted. -/
def zeroTime : Int := 0

/-- The fields of `userData` that the rate limit reads or writes. -/
structure UserData where
  startTime : Int
  lastRequestTime : Int
  requestCount : Int
  deriving DecidableEq, Repr

/-- The registration in `withCache`: a user with no entry gets one started `now`, with
the zero request time and no request counted. -/
def withCache (users : String → Option UserData) (userID : String) (now : Int) :
    String → Option UserData :=
  match users userID with
  | some _ => users
  | none => Function.update users userID (some ⟨now, zeroTime, 0⟩)

/-- What `okToRequest` does with the entry `v` of its user at time `now`: the decision
and the entry it leaves. -/
def countRequest (v : UserData) (now : Int) : Bool × UserData :=
  let count := increment v.requestCount
  let last := if count = 1 then now else v.lastRequestTime
  if count < 5 then (true, { v with requestCount := count, lastRequestTime := last })
  else if sub now last > second then (true, { v with lastRequestTime := now, requestCount := 0 })
  else (false, { v with requestCount := count, lastRequestTime := last })

/-- `cache.okToRequest` under `s.mu`: `false` for a user with no entry; otherwise the
decision of `countRequest`, whose entry replaces the user's. -/
def okToRequest (users : String → Option UserData) (userID : String) (now : Int) :
    Bool × (String → Option UserData) :=
  match users userID with
  | none => (false, users)
  | some v => ((countRequest v now).1, Function.update users userID (some (countRequest v now).2))

/-- The decisions of successive calls `okToRequest(userID)` at the times `nows`, each
finding the map the one before left. -/
def okToRequests (users : String → Option UserData) (userID : String) : List Int → List Bool
  | [] => []
  | now :: nows =>
      (okToRequest users userID now).1 :: okToRequests (okToRequest users userID now).2 userID nows

/-- The decisions of successive calls on one entry. -/
def decisions (v : UserData) : List Int → List Bool
  | [] => []
  | now :: nows => (countRequest v now).1 :: decisions (countRequest v now).2 nows

/-- The times of the calls let through. -/
def admitted : List Int → List Bool → List Int
  | now :: nows, ok :: oks => if ok then now :: admitted nows oks else admitted nows oks
  | _, _ => []

/-- The times that fall in the window of a second beginning at `start`. -/
def inWindow (start : Int) (times : List Int) : List Int :=
  times.filter fun t => start ≤ t ∧ t < start + second

theorem second_pos : 0 < second := by decide

/-- Registering a user with no entry gives it a fresh one. -/
theorem withCache_fresh {users : String → Option UserData} {userID : String} (now : Int)
    (fresh : users userID = none) : withCache users userID now userID = some ⟨now, zeroTime, 0⟩ := by
  simp [withCache, fresh]

theorem sub_gt_second (t u : Int) : sub t u > second ↔ t - u > second := by
  unfold sub second maxDuration minDuration
  omega

theorem increment_of_lt {x : Int} (low : 0 ≤ x) (room : x < maxInt) : increment x = x + 1 := by
  unfold maxInt at room
  rw [increment, Int.bmod_def, Int.emod_eq_of_lt (by omega) (by omega)]
  exact if_pos (by omega)

/-- The entry of the one user the calls are about is the only one they change. -/
theorem okToRequests_of_entry {userID : String} (nows : List Int) :
    ∀ {users : String → Option UserData} {v : UserData}, users userID = some v →
      okToRequests users userID nows = decisions v nows := by
  induction nows with
  | nil => intros; rfl
  | cons now nows ih =>
    intro users v found
    simp only [okToRequests, okToRequest, found, decisions]
    exact congrArg _ (ih (Function.update_same _ _ _))

theorem inWindow_admitted_cons (start now : Int) (nows : List Int) (ok : Bool) (oks : List Bool) :
    (inWindow start (admitted (now :: nows) (ok :: oks))).length =
      (if ok ∧ start ≤ now ∧ now < start + second then 1 else 0) +
        (inWindow start (admitted nows oks)).length := by
  cases ok
  · simp [admitted]
  · by_cases inside : start ≤ now ∧ now < start + second
    · simp [admitted, inWindow, List.filter_cons_of_pos, inside, Nat.add_comm]
    · simp [admitted, inWindow, List.filter_cons_of_neg, inside]

section Calls
variable {v : UserData} {now : Int}

/-- The first call of a round stamps the entry and passes. -/
theorem countRequest_first (zero : v.requestCount = 0) :
    countRequest v now = (true, { v with requestCount := 1, lastRequestTime := now }) := by
  simp [countRequest, zero, increment]

/-- The second to the fourth call of a round pass without reading the stamp. -/
theorem countRequest_counting (low : 1 ≤ v.requestCount) (high : v.requestCount < 4) :
    countRequest v now = (true, { v with requestCount := v.requestCount + 1 }) := by
  simp only [countRequest, increment_of_lt (by omega : 0 ≤ v.requestCount) (by unfold maxInt; omega),
    if_neg (by omega : v.requestCount + 1 ≠ 1), if_pos (by omega : v.requestCount + 1 < 5)]

/-- From the fifth call on, a call more than a second after the stamp passes and
begins a new round. -/
theorem countRequest_reset (full : 4 ≤ v.requestCount) (room : v.requestCount < maxInt)
    (old : second < now - v.lastRequestTime) :
    countRequest v now = (true, { v with lastRequestTime := now, requestCount := 0 }) := by
  simp only [countRequest, increment_of_lt (by omega : 0 ≤ v.requestCount) room,
    if_neg (by omega : v.requestCount + 1 ≠ 1), if_neg (by omega : ¬v.requestCount + 1 < 5),
    if_pos ((sub_gt_second _ _).mpr old)]

/-- Any other call from the fifth on is refused, and still counted. -/
theorem countRequest_full (full : 4 ≤ v.requestCount) (room : v.requestCount < maxInt)
    (recent : now - v.lastRequestTime ≤ second) :
    countRequest v now = (false, { v with requestCount := v.requestCount + 1 }) := by
  simp only [countRequest, increment_of_lt (by omega : 0 ≤ v.requestCount) room,
    if_neg (by omega : v.requestCount + 1 ≠ 1), if_neg (by omega : ¬v.requestCount + 1 < 5),
    if_neg (by rw [sub_gt_second]; omega : ¬sub now v.lastRequestTime > second)]

/-- Every call on an entry whose count is neither negative nor at the top is one of the
four. -/
theorem countRequest_cases (low : 0 ≤ v.requestCount) (room : v.requestCount < maxInt) :
    (v.requestCount = 0 ∧
      countRequest v now = (true, { v with requestCount := 1, lastRequestTime := now })) ∨
    (1 ≤ v.requestCount ∧ v.requestCount < 4 ∧
      countRequest v now = (true, { v with requestCount := v.requestCount + 1 })) ∨
    (4 ≤ v.requestCount ∧ second < now - v.lastRequestTime ∧
      countRequest v now = (true, { v with lastRequestTime := now, requestCount := 0 })) ∨
    (4 ≤ v.requestCount ∧ now - v.lastRequestTime ≤ second ∧
      countRequest v now = (false, { v with requestCount := v.requestCount + 1 })) := by
  by_cases zero : v.requestCount = 0
  · exact .inl ⟨zero, countRequest_first zero⟩
  by_cases counting : v.requestCount < 4
  · exact .inr (.inl ⟨by omega, counting, countRequest_counting (by omega) counting⟩)
  by_cases old : second < now - v.lastRequestTime
  · exact .inr (.inr (.inl ⟨by omega, old, countRequest_reset (by omega) room old⟩))
  · exact .inr (.inr (.inr ⟨by omega, by omega, countRequest_full (by omega) room (by omega)⟩))

/-- At the top of `int` the count wraps around to the most negative value, below five:
the call passes whatever the stamp, and the calls after it pass until the count is back
at five. -/
theorem countRequest_at_top (top : v.requestCount = maxInt) :
    (countRequest v now).1 = true ∧ (countRequest v now).2.requestCount = minInt := by
  have wraps : increment v.requestCount = minInt := by
    rw [increment, top]
    decide
  simp [countRequest, wraps, minInt]

end Calls

section Window
variable (start : Int)

/-- How many more calls of the round under way, or of the next one, can pass in the
window `[start, start + second)` once the calls have reached it: a new round has four;
a round begun has what is left of its four, and a reset and a new round if its stamp
is before the window. -/
def roundBudget (v : UserData) : Int :=
  if v.requestCount = 0 then 4
  else max 0 (4 - v.requestCount) + if v.lastRequestTime < start then 5 else 0

/-- How many more calls can pass in the window after a call at `t` that left the entry
`v`: none once the window is behind, eight while it is ahead, `roundBudget` inside it. -/
def budget (t : Int) (v : UserData) : Int :=
  if start + second ≤ t then 0 else if t < start then 8 else roundBudget start v

/-- The entry after a call at `t`: its count is not negative, and a round under way was
stamped by then. -/
def Sane (t : Int) (v : UserData) : Prop :=
  0 ≤ v.requestCount ∧ (v.requestCount ≠ 0 → v.lastRequestTime ≤ t)

theorem roundBudget_nonneg (v : UserData) : 0 ≤ roundBudget start v := by
  unfold roundBudget
  split_ifs <;> omega

theorem budget_le_eight (t : Int) (v : UserData) (sane : Sane t v) : budget start t v ≤ 8 := by
  have round : roundBudget start v ≤ 8 := by
    have := sane.1
    unfold roundBudget
    split_ifs <;> omega
  unfold budget
  split_ifs <;> omega

theorem budget_nonneg (t : Int) (v : UserData) : 0 ≤ budget start t v := by
  have := roundBudget_nonneg start v
  unfold budget
  split_ifs <;> omega

/-- A call at `now` keeps the entry sane and adds at most one to its count. -/
theorem countRequest_sane {t now : Int} {v : UserData} (later : t ≤ now) (sane : Sane t v)
    (room : v.requestCount < maxInt) :
    Sane now (countRequest v now).2 ∧ (countRequest v now).2.requestCount ≤ v.requestCount + 1 := by
  obtain ⟨low, stamped⟩ := sane
  rcases @countRequest_cases v now low room with
    ⟨_, h⟩ | ⟨_, _, h⟩ | ⟨_, _, h⟩ | ⟨_, _, h⟩ <;> rw [h] <;> dsimp only [Sane] <;> omega

/-- Inside the window, a call spends from the round's budget what it lets through. -/
theorem countRequest_roundBudget {now : Int} {v : UserData} (low : 0 ≤ v.requestCount)
    (room : v.requestCount < maxInt) (after : start ≤ now) (before : now < start + second) :
    (if (countRequest v now).1 then 1 else 0) + roundBudget start (countRequest v now).2 ≤
      min 8 (roundBudget start v) := by
  rcases @countRequest_cases v now low room with
    ⟨zero, h⟩ | ⟨one, high, h⟩ | ⟨full, old, h⟩ | ⟨full, recent, h⟩ <;>
    rw [h] <;> simp only [roundBudget, if_true, Bool.false_eq_true, if_false] <;> split_ifs <;> omega

/-- A call at `now` spends from the budget what it lets through in the window. -/
theorem countRequest_budget {t now : Int} {v : UserData} (later : t ≤ now) (sane : Sane t v)
    (room : v.requestCount < maxInt) :
    (if (countRequest v now).1 ∧ start ≤ now ∧ now < start + second then 1 else 0) +
      budget start now (countRequest v now).2 ≤ budget start t v := by
  by_cases behind : start + second ≤ now
  · rw [if_neg (by omega), budget, if_pos behind]
    exact budget_nonneg start t v
  by_cases ahead : now < start
  · rw [if_neg (by omega), budget, if_neg behind, if_pos ahead, budget, if_neg (by omega),
      if_pos (by omega)]
    omega
  have spent := @countRequest_roundBudget start now v sane.1 room (by omega) (by omega)
  rw [budget, if_neg behind, if_neg ahead, budget, if_neg (show ¬start + second ≤ t by omega)]
  cases ok : (countRequest v now).1 <;>
    simp only [ok, Bool.false_eq_true, false_and, true_and, if_false, if_true] at spent ⊢ <;>
    split_ifs <;> omega

/-- Along calls at non-decreasing times with the count kept below the top, the calls let
through in the window stay within the budget. -/
theorem admitted_within_budget :
    ∀ (nows : List Int) (t : Int) (v : UserData), (∀ x ∈ nows, t ≤ x) → nows.Pairwise (· ≤ ·) →
      Sane t v → v.requestCount + nows.length ≤ maxInt →
        ((inWindow start (admitted nows (decisions v nows))).length : Int) ≤ budget start t v
  | [], t, v, _, _, _, _ => by simpa [decisions, admitted, inWindow] using budget_nonneg start t v
  | now :: nows, t, v, after, sorted, sane, room => by
    have later := after now (List.mem_cons_self _ _)
    obtain ⟨sane', grows⟩ := countRequest_sane later sane (by simp at room; omega)
    have spent := countRequest_budget start later sane (by simp at room; omega)
    have rest := admitted_within_budget nows now (countRequest v now).2
      (fun _ => List.rel_of_pairwise_cons sorted) (List.Pairwise.of_cons sorted) sane'
      (by simp at room; omega)
    rw [decisions, inWindow_admitted_cons]
    push_cast
    split_ifs at spent ⊢ <;> omega

end Window

/-- Whatever the times, as long as they do not decrease and are fewer than `2^63`, no
window of a second lets through more than eight calls of a user `withCache` registered. -/
theorem at_most_eight_per_second (users : String → Option UserData) (userID : String) (t₀ : Int)
    (nows : List Int) (sorted : nows.Pairwise (· ≤ ·)) (few : nows.length ≤ maxInt) (start : Int)
    (fresh : users userID = none) :
    (inWindow start (admitted nows (okToRequests (withCache users userID t₀) userID nows))).length
      ≤ 8 := by
  rw [okToRequests_of_entry nows (withCache_fresh t₀ fresh)]
  cases nows with
  | nil => simp [decisions, admitted, inWindow]
  | cons now rest =>
    have sane : Sane now ⟨t₀, zeroTime, 0⟩ := ⟨Int.le_refl 0, fun h => absurd rfl h⟩
    have within := admitted_within_budget start (now :: rest) now _
      (List.forall_mem_cons.mpr ⟨Int.le_refl _, fun _ => List.rel_of_pairwise_cons sorted⟩)
      sorted sane (by simp only [List.length_cons] at few ⊢; omega)
    have := budget_le_eight start now _ sane
    omega

theorem at_most_eight_for_a_new_user :
    (inWindow (2 * second) (admitted [0, 2 * second, 2 * second]
      (okToRequests (withCache (fun _ => none) "u" 0) "u" [0, 2 * second, 2 * second]))).length ≤ 8 :=
  at_most_eight_per_second (fun _ => none) "u" 0 [0, 2 * second, 2 * second] (by decide) (by decide)
    (2 * second) rfl

/-- A user registered at `t₀` calls once then, and nine times at one instant more than a
second later: the first eight of those pass, three to end the first round, one that
resets it and four of the next. -/
theorem eight_requests_in_one_second (users : String → Option UserData) (userID : String)
    (t₀ t₁ : Int) (fresh : users userID = none) (later : t₀ + second < t₁) :
    okToRequests (withCache users userID t₀) userID [t₀, t₁, t₁, t₁, t₁, t₁, t₁, t₁, t₁, t₁] =
      [true, true, true, true, true, true, true, true, true, false] ∧
    (inWindow t₁ (admitted [t₀, t₁, t₁, t₁, t₁, t₁, t₁, t₁, t₁, t₁]
      (okToRequests (withCache users userID t₀) userID [t₀, t₁, t₁, t₁, t₁, t₁, t₁, t₁, t₁, t₁]))).length
      = 8 := by
  have positive := second_pos
  have top : maxInt = 9223372036854775807 := rfl
  have calls : okToRequests (withCache users userID t₀) userID [t₀, t₁, t₁, t₁, t₁, t₁, t₁, t₁, t₁, t₁] =
      [true, true, true, true, true, true, true, true, true, false] := by
    rw [okToRequests_of_entry _ (withCache_fresh t₀ fresh)]
    simp (disch := first | omega | (simp only; omega) | simp only) only [decisions, countRequest_first,
      countRequest_counting, countRequest_reset, countRequest_full]
  have before : ¬(t₁ ≤ t₀) := by omega
  have inside : t₁ < t₁ + second := by omega
  rw [calls]
  exact ⟨rfl, by simp [admitted, inWindow, before, inside]⟩

theorem eight_requests_for_a_new_user :
    okToRequests (withCache (fun _ => none) "u" 0) "u" [0, 2 * second, 2 * second, 2 * second,
      2 * second, 2 * second, 2 * second, 2 * second, 2 * second, 2 * second] =
      [true, true, true, true, true, true, true, true, true, false] :=
  (eight_requests_in_one_second (fun _ => none) "u" 0 (2 * second) rfl (by decide)).1

end EtcdPlay.RateLimit
