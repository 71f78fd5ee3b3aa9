import SentinelAI.Proxy.Engine
import SentinelAI.Proxy.Remediation

/-!
# Proxy — Findings

`proxy/findings.py`: a failed test opens a finding, unless one is open; every result is logged under
the id of its run.  A session flushes what was added before each query, so that a finding opened for
one result is seen when the next one is looked at.
-/

namespace SentinelAI
open Support

/-- `OPEN_LIKE_STATUSES` -/
def OPEN_LIKE_STATUSES : List FindingStatus := [.OPEN, .ACKNOWLEDGED, .RETEST_REQUIRED]

/-- A finding that still stands. -/
def Finding.live (f : Finding) : Bool := f.status ∈ OPEN_LIKE_STATUSES

/-- The row of a new finding, before the table gives it its key. -/
def findingRow (result : TestResult) (projectId : Option Int) (now : Time) : Finding where
  id := 0
  projectId
  testId := result.testId
  category := result.category
  severity := result.severity
  title := result.name ++ " — guardrail bypassed".toList
  description := result.detail
  affectedTarget := "SentinelAI"
  evidence := .obj [("raw_input", .str result.evidence.rawInput),
    ("raw_output", result.evidence.rawOutput), ("provider", .str result.evidence.provider),
    ("model", .str result.evidence.model), ("status_code", .opt .int result.evidence.statusCode)]
  reproduction := result.reproduction
  provider := result.evidence.provider
  model := result.evidence.model
  status := .OPEN
  createdAt := now
  updatedAt := now

def findingToDict (f : Finding) (project : Option Project) : Json :=
  .obj [("id", .int f.id), ("project_id", .opt .int f.projectId), ("test_id", .str f.testId),
    ("category", .str f.category), ("severity", .str f.severity.value), ("title", .str f.title),
    ("description", .str f.description), ("affected_target", .str f.affectedTarget),
    ("evidence", f.evidence), ("reproduction", f.reproduction), ("provider", .str f.provider),
    ("model", .str f.model), ("status", .str f.status.value),
    ("remediation", remediationFor f.category project), ("created_at", .time f.createdAt),
    ("updated_at", .time f.updatedAt)]

/-- A finding of the project is live for the test. -/
def hasLive (t : Table Finding) (testId : Str) (projectId : Option Int) : Bool :=
  t.rows.any fun f => f.testId == testId && f.live && f.projectId == projectId

/-- One result of `sync_findings`: the findings created so far, and the table. -/
def syncOne (projectId : Option Int) (clock : Nat → Time)
    (acc : List Finding × Table Finding) (result : TestResult) : List Finding × Table Finding :=
  if result.status ≠ .FAIL ∨ hasLive acc.2 result.testId projectId then acc
  else
    let row := findingRow result projectId (clock acc.1.length)
    (acc.1 ++ [acc.2.stored row], acc.2.insert row)

/-- `sync_findings`: the findings created, and the table after it. -/
def syncFindings (t : Table Finding) (results : List TestResult) (projectId : Option Int)
    (clock : Nat → Time) : List Finding × Table Finding :=
  results.foldl (syncOne projectId clock) ([], t)

def EXECUTION_SOURCES : List Str := ["dashboard", "local_sdk", "cli", "api", "ci_cd", "gateway"]

/-- The row of a result of run `runId`, before the table gives it its key. -/
def runRow (projectId : Option Int) (executionSource runId : Str) (result : TestResult) :
    TestRunResult where
  id := 0
  projectId
  runId
  testId := result.testId
  category := result.category
  severity := result.severity
  status := result.status
  provider := result.evidence.provider
  model := result.evidence.model
  executionSource := if executionSource ∈ EXECUTION_SOURCES then executionSource else "dashboard"
  executedAt := result.executedAt

/-- `record_test_run`, with the run id that was drawn. -/
def recordTestRun (t : Table TestRunResult) (results : List TestResult) (projectId : Option Int)
    (executionSource runId : Str) : Table TestRunResult :=
  results.foldl (fun t r => t.insert (runRow projectId executionSource runId r)) t

/-! ### What a sync adds -/

/-- The rows after a sync are those before it and the findings created. -/
theorem rows_syncFindings (t : Table Finding) (results : List TestResult) (projectId : Option Int)
    (clock : Nat → Time) :
    (syncFindings t results projectId clock).2.rows =
      t.rows ++ (syncFindings t results projectId clock).1 := by
  have rows : ∀ (results : List TestResult) (acc : List Finding × Table Finding),
      acc.2.rows = t.rows ++ acc.1 →
      (results.foldl (syncOne projectId clock) acc).2.rows =
        t.rows ++ (results.foldl (syncOne projectId clock) acc).1 := by
    intro results
    induction results with
    | nil => exact fun acc h => h
    | cons result results ih =>
        refine fun acc h => ih _ ?_
        unfold syncOne
        split
        · exact h
        · rw [Table.rows_insert, h, List.append_assoc]
  exact rows results ([], t) (List.append_nil _).symm

/-- A finding that was created is found under its key. -/
theorem find?_syncFindings {t : Table Finding} {results : List TestResult} {projectId : Option Int}
    {clock : Nat → Time} {f : Finding} (h : f ∈ (syncFindings t results projectId clock).1) :
    (syncFindings t results projectId clock).2.find? f.id = some f := by
  refine Table.find?_eq_some_iff.mpr ⟨?_, rfl⟩
  rw [rows_syncFindings]
  exact List.mem_append_right _ h

/-- The rows after a run is recorded are those before it and one for each result. -/
theorem rows_recordTestRun (t : Table TestRunResult) (results : List TestResult)
    (projectId : Option Int) (executionSource runId : Str) :
    ∃ new, (recordTestRun t results projectId executionSource runId).rows = t.rows ++ new ∧
      new.map (Row.setKey 0) = results.map (runRow projectId executionSource runId) := by
  obtain ⟨new, hrows, hnew⟩ := Table.rows_insertAll (f := Row.setKey 0) (fun _ _ => rfl)
    (results.map (runRow projectId executionSource runId)) t
  refine ⟨new, ?_, hnew.trans ?_⟩
  · rw [← hrows, List.foldl_map]
    rfl
  · rw [List.map_map]
    rfl

/-- The row of a result that is added with its run. -/
theorem mem_recordTestRun {results : List TestResult} {projectId : Option Int}
    {executionSource runId : Str} {new : List TestRunResult}
    (h : new.map (Row.setKey 0) = results.map (runRow projectId executionSource runId))
    {r : TestRunResult} (hr : r ∈ new) :
    r.runId = runId ∧ r.projectId = projectId ∧
      ∃ result ∈ results, r.executedAt = result.executedAt := by
  obtain ⟨result, hresult, he⟩ := List.mem_map.mp (h ▸ List.mem_map_of_mem hr)
  exact ⟨(congrArg TestRunResult.runId he).symm, (congrArg TestRunResult.projectId he).symm,
    result, hresult, (congrArg TestRunResult.executedAt he).symm⟩

end SentinelAI
