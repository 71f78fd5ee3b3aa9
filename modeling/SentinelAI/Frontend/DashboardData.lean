import SentinelAI.Proxy.Routes
import SentinelAI.Support.Percentile

/-!
# Frontend — DashboardData

The numbers of the dashboard, from the call log: `frontend/lib/dashboard_data.py`, on the rows of
the database, and its port `web/lib/dashboard-data.ts`, on the rows that `GET /v1/calls` answers
with.

Numbers are exact.  In the port, `x?.f` and `x ?? y` are those of JavaScript, in which every object
is truthy; a row has the fields of its type `CallLogRow`, with their types.
-/

namespace SentinelAI
open Support

/-- The dictionary `counts`, with one more for `key`. -/
def countOne (key : Str) : List (Str × Nat) → List (Str × Nat)
  | [] => [(key, 1)]
  | (k, n) :: counts => if k = key then (k, n + 1) :: counts else (k, n) :: countOne key counts

structure CatchCounts where
  injection : Nat
  pii : Nat
deriving DecidableEq

structure CostSummary where
  totalUsd : Rat
  avgUsd : Rat

structure LatencySummary where
  avgMs : Rat
  p95Ms : Rat

/-- `int(n * 0.95)`, and `Math.floor(n * 0.95)`. -/
def p95Index (n : Nat) : Nat := n * 95 / 100

/-! ### `frontend/lib/dashboard_data.py` -/

namespace DashboardData

variable (calls : List CallLog)

def trafficByOperation : List (Str × Nat) :=
  calls.foldl (fun counts c => countOne c.operation counts) []

/-- `g.get(guard, {}).get(flag)`, for `g = c.guardrails or {}`. -/
def caught (guard flag : Str) (c : CallLog) : Except PyError Bool := do
  let g := c.guardrails.or (.obj [])
  return (← (← g.getOr guard (.obj [])).getOr flag .null).truthy

/-- The loop of `guardrail_catch_counts`, for one call. -/
def countCatches (counts : CatchCounts) (c : CallLog) : Except PyError CatchCounts := do
  let injection ← caught "injection" "flagged" c
  let pii ← caught "pii" "found" c
  return ⟨counts.injection + injection.toNat, counts.pii + pii.toNat⟩

def guardrailCatchCounts : Except PyError CatchCounts := calls.foldlM countCatches ⟨0, 0⟩

/-- The loop of `hallucination_scores`, for one call. -/
def addScore (scores : List Json) (c : CallLog) : Except PyError (List Json) := do
  let h ← (c.guardrails.or (.obj [])).getOr "hallucination" .null
  if h.truthy then return scores ++ [← h.item "score"] else return scores

def hallucinationScores : Except PyError (List Json) := calls.foldlM addScore []

def costSummary : CostSummary :=
  if calls = [] then ⟨0, 0⟩
  else
    let total := (calls.map (·.costEstimateUsd)).sum
    ⟨total, total / calls.length⟩

def latencySummary : LatencySummary :=
  let latencies : List Int := (calls.map (·.latencyMs)).insertionSort (· ≤ ·)
  match latencies with
  | [] => ⟨0, 0⟩
  | first :: _ =>
      ⟨(latencies.sum : Int) / (latencies.length : Rat),
        (if 1 < latencies.length then (latencies[p95Index latencies.length]?).getD 0 else first :
          Int)⟩

end DashboardData

/-! ### `web/lib/dashboard-data.ts` -/

namespace DashboardTs

/-- Whether a value is truthy. -/
def truthy : Json → Bool
  | .arr _ | .obj _ => true
  | v => v.truthy

/-- `v ?? w` -/
def coalesce (v w : Json) : Json := if v.isNull then w else v

/-- The text of a field. -/
def text : Json → Str
  | .str s => s
  | _ => []

/-- The number of a field. -/
def number : Json → Rat
  | .int n => n
  | .num q => q
  | _ => 0

variable (calls : List Json)

def trafficByOperation : List (Str × Nat) :=
  calls.foldl (fun counts c => countOne (text (c.get "operation")) counts) []

/-- The guardrails of a row without any. -/
def noGuardrails : Json :=
  .obj [("injection", .obj [("flagged", .bool false), ("matched_patterns", .arr [])]),
    ("pii", .obj [("found", .bool false), ("redacted", .bool false), ("types", .arr [])])]

def countCatches (counts : CatchCounts) (c : Json) : CatchCounts :=
  let g := coalesce (c.get "guardrails") noGuardrails
  ⟨counts.injection + (truthy ((g.get "injection").get "flagged")).toNat,
    counts.pii + (truthy ((g.get "pii").get "found")).toNat⟩

def guardrailCatchCounts : CatchCounts := calls.foldl countCatches ⟨0, 0⟩

def addScore (scores : List Json) (c : Json) : List Json :=
  let h := (c.get "guardrails").get "hallucination"
  if truthy h then scores ++ [h.get "score"] else scores

def hallucinationScores : List Json := calls.foldl addScore []

def costSummary : CostSummary :=
  if calls.length = 0 then ⟨0, 0⟩
  else
    let total := calls.foldl (fun sum c => sum + number (c.get "cost_estimate_usd")) 0
    ⟨total, total / calls.length⟩

def latencySummary : LatencySummary :=
  let latencies := (calls.map fun c => number (c.get "latency_ms")).insertionSort (· ≤ ·)
  match latencies with
  | [] => ⟨0, 0⟩
  | first :: _ =>
      ⟨latencies.foldl (· + ·) 0 / latencies.length,
        if 1 < latencies.length then (latencies[p95Index latencies.length]?).getD 0 else first⟩

end DashboardTs

end SentinelAI
