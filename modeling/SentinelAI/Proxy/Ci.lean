import SentinelAI.Support.Json
import Mathlib.Data.Finset.Basic

/-!
# Proxy — Ci

`proxy/ci.py`, the failure policy of a CI run, and `scripts/sentinel_ci.py`, which fetches what the
policy is about and exits with the verdict.

What the script is given by its surroundings (a running proxy, the files it writes) may raise at any
point; an exception that leaves `main` ends the process with status 1.
-/

namespace SentinelAI.CI
open Support

structure CIPolicy where
  failOnStatuses : Finset Str := {"FAIL".toList}
  /-- `none` is any severity. -/
  failOnSeverities : Option (Finset Str) := none
  maxFailures : Int := 0
  maxRegressions : Int := 0

/-- A result of a run of the tests. -/
structure CIResult where
  testId : Str
  category : Str
  severity : Str
  status : Str
  detail : Str

/-- What is read of a regression report. -/
structure RegressionReport where
  regressions : Option (List Json)

/-- `len(regression_report.get("regressions", []))` -/
def RegressionReport.count (report : RegressionReport) : Nat := (report.regressions.getD []).length

/-- The body of the loop of `matching_results`: whether it appends the result. -/
def CIPolicy.appends (policy : CIPolicy) (r : CIResult) : Bool :=
  if r.status ∉ policy.failOnStatuses then false
  else
    match policy.failOnSeverities with
    | some severities => r.severity ∈ severities
    | none => true

def matchingResults (results : List CIResult) (policy : CIPolicy) : List CIResult :=
  results.filter policy.appends

/-- `should_fail` and `reasons`, as `evaluate` goes. -/
structure Gate where
  shouldFail : Bool := false
  reasons : List Str := []

/-- One of the two checks of `evaluate`: `n` of a kind, where at most `max` are allowed. -/
def Gate.check (g : Gate) (n : Nat) (kind : Str) (max : Int) : Gate :=
  if (n : Int) > max then
    ⟨true, g.reasons ++ [strInt n ++ kind ++ " (max allowed: ".toList ++ strInt max ++ ")".toList]⟩
  else g

structure CIVerdict where
  shouldFail : Bool
  reasons : List Str
  matchingResults : List CIResult
  regressionCount : Nat
  totalResults : Nat

def evaluate (results : List CIResult) (policy : CIPolicy)
    (regressionReport : Option RegressionReport) : CIVerdict :=
  let matching := matchingResults results policy
  let gate : Gate := Gate.check {} matching.length " result(s) matched the failure policy"
    policy.maxFailures
  match regressionReport with
  | none => ⟨gate.shouldFail, gate.reasons, matching, 0, results.length⟩
  | some report =>
      let gate := gate.check report.count " regression(s) detected" policy.maxRegressions
      ⟨gate.shouldFail, gate.reasons, matching, report.count, results.length⟩

def formatHumanSummary (results : List CIResult) (verdict : CIVerdict) (target : Str) : Str :=
  let statuses := results.map (·.status)
  let head : List Str :=
    ["# SentinelAI CI Security Report".toList, [], "Target: `".toList ++ target ++ "`".toList,
      "Total tests: ".toList ++ strInt results.length, []]
  let counts := (sortedSet statuses).map fun status =>
    "- ".toList ++ status ++ ": ".toList ++ strInt (statuses.count status)
  let verdictLines := [[], "## Result: ".toList ++
    if verdict.shouldFail then "FAIL".toList else "PASS".toList] ++
    verdict.reasons.map ("- ".toList ++ ·)
  let matching := if verdict.matchingResults.isEmpty then []
    else [[], "## Tests matching the failure policy".toList] ++ verdict.matchingResults.map fun r =>
      "- `".toList ++ r.testId ++ "` (".toList ++ r.category ++ ", ".toList ++ r.severity ++
        "): ".toList ++ r.status ++ " — ".toList ++ r.detail
  let regressions := if verdict.regressionCount = 0 then []
    else [[], "## Regressions detected: ".toList ++ strInt verdict.regressionCount]
  join "\n" (head ++ counts ++ verdictLines ++ matching ++ regressions)

/-! ### The script -/

/-- What `_resolve_auth` returns. -/
structure Auth where
  authorization : Str
  projectId : Int

/-- The answer of `GET /v1/regression-report`; reading its body may raise. -/
structure ReportReply where
  statusCode : Int
  report : Except Str RegressionReport
  /-- `detail.get('message', resp.text)` -/
  message : Except Str Str

/-- What the script is given by its surroundings.  A call that raises gives the text of what it
raises. -/
structure CIEnv where
  bootstrapAuth : Str → Except Str Auth
  fetchResults : Str → Option Str → Auth → Except Str (List CIResult)
  getReport : Str → Auth → Except Str ReportReply
  /-- `print`, to either stream. -/
  print : Str → Except Str Unit
  /-- `json.dumps({"results": results, "verdict": verdict}, indent=2, default=str)` -/
  dumps : List CIResult → CIVerdict → Str
  /-- `Path(path).write_text(text)` -/
  writeText : Str → Str → Except Str Unit

/-- The parsed arguments. -/
structure CIArgs where
  target : Str
  apiKey : Option Str := none
  projectId : Option Int := none
  category : Option Str := none
  failOnStatus : Str := "FAIL"
  failOnSeverity : Option Str := none
  maxFailures : Int := 0
  checkRegression : Bool := false
  maxRegressions : Int := 0
  jsonOut : Option Str := none
  mdOut : Option Str := none

/-- `frozenset(s.strip() for s in value.split(",") if s.strip())` -/
def stripped (value : Str) : Finset Str :=
  (((value.splitOn ',').map strip).filter (· ≠ [])).toFinset

/-- The policy that the arguments ask for. -/
def CIArgs.policy (args : CIArgs) : CIPolicy where
  failOnStatuses := stripped args.failOnStatus
  failOnSeverities := (args.failOnSeverity.filter (· ≠ [])).map stripped
  maxFailures := args.maxFailures
  maxRegressions := args.maxRegressions

variable (env : CIEnv)

/-- `_resolve_auth` -/
def resolveAuth (target : Str) (apiKey : Option Str) (projectId : Option Int) : Except Str Auth :=
  match apiKey.filter (· ≠ []), projectId.filter (· ≠ 0) with
  | some apiKey, some projectId => .ok ⟨"ApiKey ".toList ++ apiKey, projectId⟩
  | none, none => env.bootstrapAuth target
  | _, _ =>
      .error ("--api-key and --project-id must be given together ".toList ++
        "(or neither, to bootstrap a throwaway project).".toList)

/-- `_fetch_regression_report` -/
def fetchRegressionReport (target : Str) (auth : Auth) : Except Str (Option RegressionReport) := do
  let resp ← env.getReport target auth
  if resp.statusCode = 200 then return some (← resp.report)
  else if resp.statusCode = 404 ∨ resp.statusCode = 409 then
    env.print ("Regression check skipped: ".toList ++ (← resp.message))
    return none
  -- `raise_for_status`
  else if 400 ≤ resp.statusCode ∧ resp.statusCode < 600 then .error (strInt resp.statusCode)
  else return none

/-- The first part of `main`: the results, and the report where one is asked for. -/
def fetch (args : CIArgs) : Except Str (List CIResult × Option RegressionReport) := do
  let auth ← resolveAuth env args.target args.apiKey args.projectId
  let results ← env.fetchResults args.target args.category auth
  let report ← if args.checkRegression then fetchRegressionReport env args.target auth else .ok none
  return (results, report)

/-- `Path(path).write_text(text)`, where a path is given. -/
def writeOut (path : Option Str) (text : Str) : Except Str Unit :=
  match path.filter (· ≠ []) with
  | none => .ok ()
  | some path => env.writeText path text

/-- The last part of `main`: what is printed and written. -/
def report (args : CIArgs) (results : List CIResult) (verdict : CIVerdict) : Except Str Unit := do
  let summary := formatHumanSummary results verdict args.target
  env.print summary
  writeOut env args.jsonOut (env.dumps results verdict)
  writeOut env args.mdOut summary

/-- `main`, or the text of an exception that leaves it. -/
def main (args : CIArgs) : Except Str Int := do
  let (results, regressionReport) ← fetch env args
  let verdict := evaluate results args.policy regressionReport
  report env args results verdict
  return if verdict.shouldFail then 1 else 0

/-- The status with which the process ends. -/
def exitStatus (args : CIArgs) : Int :=
  match main env args with
  | .ok code => code
  | .error _ => 1

end SentinelAI.CI
