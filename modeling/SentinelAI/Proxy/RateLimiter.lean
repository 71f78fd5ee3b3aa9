import SentinelAI.Support.Json

/-!
# Proxy — RateLimiter

`proxy/middleware/rate_limiter.py`: a counter of calls that never decays, and a fixed-window
counter of attempts.  Both live in the process, keyed by a string.

* `checkAndIncrement_iff`: a call is allowed exactly when `remaining` is positive.
-/

namespace SentinelAI
open Support

/-- `_session_counts` -/
abbrev SessionCounts := Str → Int

/-- Whether the call is allowed, and the counts after it. -/
def checkAndIncrement (counts : SessionCounts) (sessionId : Str) (cap : Int) :
    Bool × SessionCounts :=
  if counts sessionId ≥ cap then (false, counts)
  else (true, fun s => if s = sessionId then counts s + 1 else counts s)

/-- How many calls are left. -/
def remaining (counts : SessionCounts) (sessionId : Str) (cap : Int) : Int :=
  max 0 (cap - counts sessionId)

/-- **A call is allowed** exactly when some are left. -/
theorem checkAndIncrement_iff {counts : SessionCounts} {sessionId : Str} {cap : Int} :
    (checkAndIncrement counts sessionId cap).1 = true ↔ 0 < remaining counts sessionId cap := by
  unfold checkAndIncrement remaining
  split
  · exact iff_of_false (by simp) (by omega)
  · exact iff_of_true rfl (by omega)

/-- A call that is not allowed is not counted. -/
theorem checkAndIncrement_of_ge {counts : SessionCounts} {sessionId : Str} {cap : Int}
    (h : cap ≤ counts sessionId) : checkAndIncrement counts sessionId cap = (false, counts) :=
  if_pos h

theorem checkAndIncrement_of_lt {counts : SessionCounts} {sessionId : Str} {cap : Int}
    (h : counts sessionId < cap) : checkAndIncrement counts sessionId cap =
      (true, fun s => if s = sessionId then counts s + 1 else counts s) :=
  if_neg (Int.not_le.mpr h)

/-- `_window_counts`: when a key's window started, and the attempts counted in it. -/
abbrev WindowCounts := Str → Option (Time × Int)

/-- Whether the attempt at `now` is allowed, and the windows after it. -/
def checkAuthRateLimit (windows : WindowCounts) (key : Str) (limit : Int) (window now : Time) :
    Bool × WindowCounts :=
  let (start, count) := (windows key).getD (now, 0)
  let (start, count) := if now - start ≥ window then (now, 0) else (start, count)
  let store (count : Int) : WindowCounts := fun k =>
    if k = key then some (start, count) else windows k
  if count ≥ limit then (false, store count) else (true, store (count + 1))

end SentinelAI
