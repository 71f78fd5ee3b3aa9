import SentinelAI.Proxy.RateLimiter
import SentinelAI.Support.FixedWindow

/-!
# Properties — AuthLimiter

The limiter of sign-ups and logins, over calls of any keys in any order.  It is a fixed-window
counter for each key (`checkAuthRateLimit_eq`), so that the bounds of one counter hold of each key,
whatever the others do.

* `authLimited`: the bounds, for every sequence of calls.
-/

namespace SentinelAI
open Support

/-- The calls of `check_auth_rate_limit` with keys and times, as they are answered. -/
def authCalls (limit : Int) (window : Time) :
    WindowCounts → List (Str × Time) → List (Str × Served Time)
  | _, [] => []
  | windows, (key, now) :: attempts =>
      let r := checkAuthRateLimit windows key limit window now
      (key, ⟨now, r.1, ((r.2 key).map (·.1)).getD now⟩) :: authCalls limit window r.2 attempts

/-- The calls of a process that has answered none before. -/
def firstCalls (limit : Int) (window : Time) (attempts : List (Str × Time)) :
    List (Str × Served Time) := authCalls limit window (fun _ => none) attempts

/-- **The limiter.** -/
structure AuthLimited (limit : Int) (window : Time) (attempts : List (Str × Time)) : Prop where
  /-- An interval shorter than a window allows a key no more than twice the limit. -/
  interval : ∀ key a b, b - a < window →
    ((entriesOf key (firstCalls limit window attempts)).countP fun c =>
      c.allowed && (a ≤ c.time && c.time ≤ b)) ≤ 2 * limit
  /-- A window allows no more than the limit. -/
  within : ∀ key start,
    ((entriesOf key (firstCalls limit window attempts)).countP fun c =>
      c.allowed && c.start = start) ≤ limit
  inside : ∀ key, ∀ c ∈ entriesOf key (firstCalls limit window attempts),
    c.start ≤ c.time ∧ c.time < c.start + window
  /-- A call that is rejected leaves every window as it is. -/
  rejected : ∀ windows key now, (checkAuthRateLimit windows key limit window now).1 = false →
    (checkAuthRateLimit windows key limit window now).2 = windows
  /-- A call that comes a window after the start of the last one is allowed. -/
  recovers : ∀ windows key start count now, windows key = some (start, count) →
    start + window ≤ now → (checkAuthRateLimit windows key limit window now).1 = true
  /-- What a key is answered depends on its own calls. -/
  independent : ∀ key, (entriesOf key (firstCalls limit window attempts)).map (·.allowed) =
    (firstCalls limit window (attempts.filter (·.1 = key))).map (·.2.allowed)

/-! ### One counter for each key -/

section Counters

variable {limit : Int} {window : Time}

/-- `check_auth_rate_limit` is a step of the counter of its key. -/
theorem checkAuthRateLimit_eq (windows : WindowCounts) (key : Str) (now : Time) :
    checkAuthRateLimit windows key limit window now =
      ((keyed (attemptAt limit window) windows (key, now)).1.allowed,
        (keyed (attemptAt limit window) windows (key, now)).2) := by
  have update (v : Time × Int) : (fun k => if k = key then some v else windows k) =
      Function.update windows key (some v) := by
    funext k
    rw [Function.update_apply]
  unfold checkAuthRateLimit keyed attemptAt
  dsimp only
  rw [update, update]
  split
  · split
    · rfl
    · rfl
  · split
    · rfl
    · rfl

/-- What a call is answered with is what its counter says. -/
theorem served_eq (windows : WindowCounts) (key : Str) (now : Time) :
    (⟨now, (checkAuthRateLimit windows key limit window now).1,
      (((checkAuthRateLimit windows key limit window now).2 key).map (·.1)).getD now⟩ :
        Served Time) = (keyed (attemptAt limit window) windows (key, now)).1 := by
  rw [checkAuthRateLimit_eq]
  dsimp only [keyed]
  rw [Function.update_self]
  unfold attemptAt
  dsimp only
  split
  · split
    · rfl
    · rfl
  · split
    · rfl
    · rfl

theorem authCalls_eq (windows : WindowCounts) (attempts : List (Str × Time)) :
    authCalls limit window windows attempts =
      (attempts.zip (outputs (keyed (attemptAt limit window)) windows attempts)).map fun p =>
        (p.1.1, p.2) := by
  induction attempts generalizing windows with
  | nil => rfl
  | cons attempt attempts ih =>
      obtain ⟨key, now⟩ := attempt
      rw [authCalls, outputs, List.zip_cons_cons, List.map_cons, ← ih]
      dsimp only
      rw [served_eq, checkAuthRateLimit_eq]

/-- **The calls of a key** are those of its own counter. -/
theorem entriesOf_authCalls (windows : WindowCounts) (key : Str) (attempts : List (Str × Time)) :
    entriesOf key (authCalls limit window windows attempts) =
      outputs (attemptAt limit window) (windows key) (entriesOf key attempts) := by
  rw [← outputs_keyed, authCalls_eq, entriesOf, List.filter_map, List.map_map]
  rfl

/-! ### The limiter -/

/-- The times of one key are in order where all are. -/
theorem pairwise_entriesOf {attempts : List (Str × Time)}
    (hs : attempts.Pairwise fun a b => a.2 ≤ b.2) (key : Str) :
    (entriesOf key attempts).Pairwise (· ≤ ·) :=
  List.pairwise_map.mpr (hs.filter _)

/-- A call that is not allowed leaves every window as it is. -/
theorem windows_of_rejected (hl : 1 ≤ limit) (hw : 0 < window) (windows : WindowCounts) (key : Str)
    (now : Time) (h : (checkAuthRateLimit windows key limit window now).1 = false) :
    (checkAuthRateLimit windows key limit window now).2 = windows := by
  rw [checkAuthRateLimit_eq] at h ⊢
  have kept : ∀ s, windows key = s → (attemptAt limit window s now).1.allowed = false →
      (attemptAt limit window s now).2 = s := by
    intro s _ hr
    cases s with
    | none =>
        rw [attemptAt_none,
          attemptAt_room (lt_add_of_pos_right now hw) (Int.lt_of_lt_of_le Int.zero_lt_one hl)] at hr
        cases hr
    | some last =>
        obtain ⟨start, count⟩ := last
        by_cases hover : start + window ≤ now
        · rw [attemptAt_expired hl hover] at hr
          cases hr
        · have hin : now < start + window := Int.not_le.mp hover
          by_cases hroom : count < limit
          · rw [attemptAt_room hin hroom] at hr
            cases hr
          · rw [attemptAt_full hin (Int.not_lt.mp hroom)]
  have same := kept _ rfl h
  dsimp only [keyed]
  rw [same, Function.update_eq_self]

/-- A call after the window is allowed. -/
theorem allowed_of_expired (hl : 1 ≤ limit) {windows : WindowCounts} {key : Str} {start now : Time}
    {count : Int} (h : windows key = some (start, count)) (hover : start + window ≤ now) :
    (checkAuthRateLimit windows key limit window now).1 = true := by
  rw [checkAuthRateLimit_eq]
  dsimp only [keyed]
  rw [h, attemptAt_expired hl hover]

/-- The answers to the calls of one key, without the calls of the others. -/
theorem allowed_alone (key : Str) (attempts : List (Str × Time)) :
    (entriesOf key (firstCalls limit window attempts)).map (·.allowed) =
      (firstCalls limit window (attempts.filter (·.1 = key))).map (·.2.allowed) := by
  have own : ∀ (windows : WindowCounts) (l : List (Str × Time)), (∀ a ∈ l, a.1 = key) →
      entriesOf key (authCalls limit window windows l) =
        (authCalls limit window windows l).map (·.2) := by
    intro windows l hl
    induction l generalizing windows with
    | nil => rfl
    | cons attempt l ih =>
        obtain ⟨key', now⟩ := attempt
        obtain rfl : key' = key := hl _ List.mem_cons_self
        have rest := ih (checkAuthRateLimit windows key' limit window now).2 fun a ha =>
          hl a (List.mem_cons_of_mem _ ha)
        rw [entriesOf, authCalls, List.filter_cons_of_pos (by simp), List.map_cons, List.map_cons,
          ← rest]
        rfl
  have all : ∀ a ∈ attempts.filter (·.1 = key), a.1 = key := fun a ha => by
    simpa using (List.mem_filter.mp ha).2
  have twice : entriesOf key (attempts.filter (·.1 = key)) = entriesOf key attempts := by
    rw [entriesOf, List.filter_filter]
    simp [entriesOf]
  have same : entriesOf key
        (authCalls limit window (fun _ => none) (attempts.filter (·.1 = key))) =
      entriesOf key (authCalls limit window (fun _ => none) attempts) := by
    rw [entriesOf_authCalls, entriesOf_authCalls, twice]
  unfold firstCalls
  rw [← same, own _ _ all, List.map_map]
  rfl

/-- **The limiter**, over every sequence of calls in the order of their times: an interval shorter
than a window allows a key no more than twice the limit, a window no more than the limit, a rejected
call extends no window, and keys are independent. -/
theorem authLimited (hl : 1 ≤ limit) (hw : 0 < window) {attempts : List (Str × Time)}
    (hs : attempts.Pairwise fun a b => a.2 ≤ b.2) : AuthLimited limit window attempts := by
  have orderly (key : Str) : ∃ start, Orderly limit window start 0
      (entriesOf key (firstCalls limit window attempts)) := by
    rw [firstCalls, entriesOf_authCalls]
    exact orderly_of_none hl hw (pairwise_entriesOf hs key)
  refine ⟨fun key a b hab => ?_, fun key start => ?_, fun key c hc => ?_, ?_, ?_, ?_⟩
  · obtain ⟨_, h⟩ := orderly key
    exact h.countP_interval_le hab
  · obtain ⟨_, h⟩ := orderly key
    exact h.countP_start_le start
  · obtain ⟨_, h⟩ := orderly key
    exact h.inside c hc
  · exact windows_of_rejected hl hw
  · exact fun windows key start count now h hover => allowed_of_expired hl h hover
  · exact fun key => allowed_alone key attempts

end Counters

/-- Two callers, one of which is at the limit of ten in a minute. -/
theorem authLimited_two : AuthLimited 10 60000000
    (List.replicate 11 ("a".toList, 0) ++ [("b".toList, 0), ("a".toList, 60000000)]) :=
  authLimited (by decide) (by decide) (by decide)

end SentinelAI
