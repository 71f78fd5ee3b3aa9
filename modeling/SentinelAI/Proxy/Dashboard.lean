import SentinelAI.Proxy.Regression

/-!
# Proxy — Dashboard

`proxy/dashboard.py`: counts of what is stored for a project, and its recent activity.
-/

namespace SentinelAI
open Support

/-- `_RECENT_ACTIVITY_LIMIT` -/
def RECENT_ACTIVITY_LIMIT : Int := 20

/-- `Counter(l)`, in the order of first occurrence. -/
def counter (l : List Str) : List (Str × Json) := l.eraseDups.map fun k => (k, .int (l.count k))

/-- What the dashboard shows of a row. -/
def activityToDict (r : TestRunResult) : Json :=
  .obj [("test_id", .str r.testId), ("category", .str r.category),
    ("severity", .str r.severity.value), ("status", .str r.status.value),
    ("provider", .str r.provider), ("model", .str r.model), ("executed_at", .time r.executedAt),
    ("execution_source", .str r.executionSource)]

/-- `build_dashboard_summary` for a project with the rows `rows` and the findings `findings`, from
the rows `latest` of its latest run. -/
def dashboardSummary (rows latest : List TestRunResult) (findings : List Finding) : Json :=
  let count (s : TestStatus) : Json := .int (latest.countP (·.status == s))
  let openFindings := findings.filter (·.live)
  .obj [("last_run_at", .opt .time (latest.head?.map (·.executedAt))),
    ("total_tests", .int latest.length), ("passed", count .PASS), ("failed", count .FAIL),
    ("errors", count .ERROR), ("not_run", count .NOT_RUN), ("inconclusive", count .INCONCLUSIVE),
    ("open_findings", .int openFindings.length),
    ("severity_distribution", .obj (counter (openFindings.map (·.severity.value)))),
    ("recent_activity",
      .arr ((limit RECENT_ACTIVITY_LIMIT (orderDesc (·.executedAt) rows)).map activityToDict)),
    ("affected_models", configToJson (sortedPairs (rows.map fun r => (r.provider, r.model))))]

/-- The rows of the latest run of a project, looked up by the id of the run. -/
def latestRows (t : Table TestRunResult) (projectId : Int) : List TestRunResult :=
  match latestRunId (of t projectId) with
  | none => []
  | some runId => if runId = [] then [] else runRows t runId

def buildDashboardSummary (db : Db) (projectId : Int) : Json :=
  dashboardSummary (of db.testRunResults projectId) (latestRows db.testRunResults projectId)
    (of db.findings projectId)

end SentinelAI
