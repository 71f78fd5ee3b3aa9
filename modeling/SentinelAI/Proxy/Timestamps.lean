import SentinelAI.Proxy.Reports
import SentinelAI.Support.DateTime

/-!
# Proxy — Timestamps

`UTCDateTime` of `proxy/db/models.py`, and the queries that filter by a column of this type, as the
database runs them: on the stored texts, with bounds that are date-times of any offset.

A row of the model has the instant of its column (`column` is the text that stands for it there);
the queries are `query_events`, `_in_period`, `_latest_run` and `findings_delta`.
-/

namespace SentinelAI
open Support

/-- `UTCDateTime.process_bind_param`, or nothing where the conversion overflows. -/
def processBindParam : Option DateTime → Option (Option DateTime)
  | none => some none
  | some value =>
      match value.offset with
      | none => some (some value)
      | some _ => value.toUtc.map fun utc => some (.naive utc.wall)

/-- `UTCDateTime.process_result_value` -/
def processResultValue : Option DateTime → Option DateTime
  | none => none
  | some value =>
      match value.offset with
      | none => some (.utc value.wall)
      | some _ => some value

/-- The text that the database keeps of a value. -/
def stored (value : DateTime) : Option Str :=
  (processBindParam (some value)).bind fun bound => bound.map (·.wall.text)

example : stored ⟨⟨⟨2024, 2, 29, by decide, by decide, by decide, by decide, by decide, by decide⟩,
    23, 30, 0, 5, by decide, by decide, by decide, by decide⟩, some (-18000000000),
    fun o h => by obtain rfl := Option.mem_some.mp h; decide⟩ =
    some "2024-03-01 04:30:00.000005".toList := by decide +kernel

/-- The text of a column that holds an instant. -/
def column (t : Time) : Str := ((DateTime.wallAt t).map WallTime.text).getD []

/-! ### Queries -/

/-- A bound of a query, as the database gets it. -/
def boundParam : Option DateTime → Option (Option Str)
  | none => some none
  | some value => (stored value).map some

/-- `ORDER BY` a column, newest first. -/
def columnDesc {ρ : Type} (instant : ρ → Time) (rows : List ρ) : List ρ :=
  rows.insertionSort fun r s => column (instant s) ≤ column (instant r)

/-- `_in_period`, on the rows of a query. -/
def inPeriodStored {ρ : Type} (instant : ρ → Time) (rows : List ρ)
    (since until' : Option DateTime) : Option (List ρ) := do
  let since ← boundParam since
  let until' ← boundParam until'
  return rows.filter fun r =>
    given since (· ≤ column (instant r)) && given until' (column (instant r) ≤ ·)

/-- `_latest_run`, on the rows of one project. -/
def latestRunStored (rows : List TestRunResult) (since until' : Option DateTime) :
    Option (List TestRunResult) := do
  let inPeriod ← inPeriodStored (·.executedAt) rows since until'
  return match (columnDesc (·.executedAt) inPeriod).head? with
    | none => []
    | some newest => rows.filter (·.runId == newest.runId)

/-- `query_events` on the events of one project; the bounds of `q` itself are not read. -/
def queryEventsStored (events : List SecurityEvent) (q : EventQuery)
    (since until' : Option DateTime) : Option (List SecurityEvent) := do
  let rows ← inPeriodStored (·.createdAt) events since until'
  let others := { q with since := none, until' := none }
  return limit q.limit (columnDesc (·.createdAt) (rows.filter others.keeps))

/-- What `findings_delta` returns for the new and the resolved findings. -/
def findingsDeltaToDict (new resolved : List Finding) : Json :=
  let brief (f : Finding) : Json :=
    .obj [("id", .int f.id), ("test_id", .str f.testId), ("severity", .str f.severity.value),
      ("title", .str f.title)]
  .obj [("new_findings", .arr (new.map brief)), ("resolved_findings", .arr (resolved.map brief))]

/-- `findings_delta`, on the findings of one project. -/
def findingsDeltaStored (findings : List Finding) (since : DateTime) : Option Json := do
  let since ← stored since
  return findingsDeltaToDict (findings.filter fun f => since < column f.createdAt)
    (findings.filter fun f => f.status == .RESOLVED && since < column f.updatedAt)

end SentinelAI
