import SentinelAI.Proxy.Findings

/-!
# Proxy — Regression

`proxy/regression.py`: baselines, each of which pins the id of a run, and the comparison of a later
run with one.  The rows of a run are looked up by the id of the run alone.
-/

namespace SentinelAI
open Support

structure Snapshot where
  testId : Str
  category : Str
  severity : Severity
  status : TestStatus
  provider : Str
  model : Str

/-- `row_to_snapshot` -/
def TestRunResult.snapshot (r : TestRunResult) : Snapshot :=
  ⟨r.testId, r.category, r.severity, r.status, r.provider, r.model⟩

structure DiffEntry where
  testId : Str
  category : Str
  baselineStatus : Option TestStatus
  currentStatus : TestStatus
  baselineSeverity : Option Severity
  currentSeverity : Severity

structure RunDiff where
  regressions : List DiffEntry
  newFailures : List DiffEntry
  fixed : List DiffEntry
  unchanged : List DiffEntry
  otherChanges : List DiffEntry
  severityChanges : List DiffEntry
  addedTests : List Str
  removedTests : List Str
  baselineConfig : List (Str × Str)
  currentConfig : List (Str × Str)
  perTest : List DiffEntry

/-- `{r["test_id"]: r for r in rows}`: a later row replaces an earlier one in its place. -/
def byTestId (rows : List Snapshot) : List Snapshot :=
  (rows.map (·.testId)).eraseDups.filterMap fun id => rows.reverse.find? (·.testId == id)

/-- The pairs of a set, sorted. -/
def sortedPairs (l : List (Str × Str)) : List (Str × Str) :=
  l.dedup.insertionSort fun a b => a.1 < b.1 ∨ (a.1 = b.1 ∧ a.2 ≤ b.2)

/-- How a test of the current run stands to the baseline's. -/
def diffEntry (base : List Snapshot) (curr : Snapshot) : DiffEntry :=
  let old := base.find? (·.testId == curr.testId)
  ⟨curr.testId, curr.category, old.map (·.status), curr.status, old.map (·.severity), curr.severity⟩

def compareRuns (baseline current : List Snapshot) : RunDiff :=
  let base := byTestId baseline
  let curr := byTestId current
  let perTest := curr.map (diffEntry base)
  let known := perTest.filter (·.baselineStatus.isSome)
  let changed := known.filter fun e => e.baselineStatus ≠ some e.currentStatus
  let turned (old new : TestStatus) (e : DiffEntry) : Bool :=
    e.baselineStatus == some old && e.currentStatus == new
  { regressions := changed.filter (turned .PASS .FAIL)
    newFailures := perTest.filter fun e => e.baselineStatus.isNone && e.currentStatus == .FAIL
    fixed := changed.filter (turned .FAIL .PASS)
    unchanged := known.filter fun e => e.baselineStatus == some e.currentStatus
    otherChanges := changed.filter fun e => !turned .PASS .FAIL e && !turned .FAIL .PASS e
    severityChanges := known.filter fun e => e.baselineSeverity ≠ some e.currentSeverity
    addedTests := sortedSet ((curr.map (·.testId)).filter (· ∉ base.map (·.testId)))
    removedTests := sortedSet ((base.map (·.testId)).filter (· ∉ curr.map (·.testId)))
    baselineConfig := sortedPairs (baseline.map fun r => (r.provider, r.model))
    currentConfig := sortedPairs (current.map fun r => (r.provider, r.model))
    perTest := perTest.insertionSort fun a b => a.testId ≤ b.testId }

def DiffEntry.toJson (e : DiffEntry) : Json :=
  .obj [("test_id", .str e.testId), ("category", .str e.category),
    ("baseline_status", .opt (fun s => .str s.value) e.baselineStatus),
    ("current_status", .str e.currentStatus.value),
    ("baseline_severity", .opt (fun s => .str s.value) e.baselineSeverity),
    ("current_severity", .str e.currentSeverity.value)]

/-- `[{"provider": p, "model": m} for p, m in pairs]` -/
def configToJson (pairs : List (Str × Str)) : Json :=
  .arr (pairs.map fun p => .obj [("provider", .str p.1), ("model", .str p.2)])

def RunDiff.toDict (d : RunDiff) : List (Str × Json) :=
  let entries (l : List DiffEntry) : Json := .arr (l.map (·.toJson))
  [("regressions", entries d.regressions), ("new_failures", entries d.newFailures),
    ("fixed", entries d.fixed), ("unchanged", entries d.unchanged),
    ("other_changes", entries d.otherChanges), ("severity_changes", entries d.severityChanges),
    ("added_tests", .strs d.addedTests), ("removed_tests", .strs d.removedTests),
    ("provider_config_changed", .bool (d.baselineConfig != d.currentConfig)),
    ("baseline_config", configToJson d.baselineConfig),
    ("current_config", configToJson d.currentConfig), ("per_test", entries d.perTest)]

/-- `findings_delta`, on the findings of one project. -/
def findingsDelta (findings : List Finding) (since : Time) : Json :=
  let brief (f : Finding) : Json :=
    .obj [("id", .int f.id), ("test_id", .str f.testId), ("severity", .str f.severity.value),
      ("title", .str f.title)]
  .obj [("new_findings", .arr ((findings.filter fun f => since < f.createdAt).map brief)),
    ("resolved_findings", .arr ((findings.filter fun f =>
      f.status == .RESOLVED && since < f.updatedAt).map brief))]

/-- `latest_run_id`, on the rows of one project. -/
def latestRunId (rows : List TestRunResult) : Option Str :=
  (orderDesc (·.executedAt) rows).head?.map (·.runId)

/-- The rows of a run, whatever project they belong to. -/
def runRows (t : Table TestRunResult) (runId : Str) : List TestRunResult :=
  t.rows.filter (·.runId == runId)

def runSnapshot (t : Table TestRunResult) (runId : Str) : List Snapshot :=
  (runRows t runId).map (·.snapshot)

/-- `create_baseline`: the run to pin, if the project has one. -/
def baselineRun (rows : List TestRunResult) (runId : Option Str) : Option Str :=
  match (runId.filter (· ≠ [])).or (latestRunId rows) with
  | none => none
  | some target => if rows.any (·.runId == target) then some target else none

def baselineToDict (b : Baseline) : Json :=
  .obj [("id", .int b.id), ("name", .str b.name), ("run_id", .str b.runId),
    ("project_id", .opt .int b.projectId), ("created_at", .time b.createdAt)]

/-- `build_regression_report`, with the findings of the baseline's project. -/
def buildRegressionReport (t : Table TestRunResult) (findings : List Finding) (baseline : Baseline)
    (runId : Str) : Json :=
  .obj ((compareRuns (runSnapshot t baseline.runId) (runSnapshot t runId)).toDict ++
    [(("baseline" : String).toList, baselineToDict baseline),
      (("current_run_id" : String).toList, .str runId),
      (("findings" : String).toList, findingsDelta findings baseline.createdAt)])

/-! ### The latest run -/

/-- Rows that are newer than those before them are of the latest run. -/
theorem latestRunId_append {old new : List TestRunResult} (hn : new ≠ []) {runId : Str}
    (hid : ∀ r ∈ new, r.runId = runId)
    (hnew : ∀ r ∈ new, ∀ s ∈ old, s.executedAt < r.executedAt) :
    latestRunId (old ++ new) = some runId := by
  unfold latestRunId
  cases hh : (orderDesc (·.executedAt) (old ++ new)).head? with
  | none => exact (hn (List.append_eq_nil_iff.mp (head?_orderDesc_eq_none.mp hh)).2).elim
  | some r =>
      have newest := le_of_head?_orderDesc hh
      rcases List.mem_append.mp (mem_orderDesc.mp (List.mem_of_head? hh)) with hr | hr
      · obtain ⟨s, hs⟩ := List.exists_mem_of_ne_nil new hn
        exact absurd (newest s (List.mem_append_right _ hs)) (not_le.mpr (hnew s hs r hr))
      · exact congrArg some (hid r hr)

end SentinelAI
