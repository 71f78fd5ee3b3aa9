import SentinelAI.Proxy.Dashboard
import SentinelAI.Proxy.Events

/-!
# Proxy — Reports

`proxy/reports.py`: the executive and the technical report of a project, and the formats they are
rendered in.  A report is built from what is stored, scrubbed, and then rendered.
-/

namespace SentinelAI
open Support

variable (cfg : Config)

/-! ### Secret hygiene -/

/-- `_configured_secrets` -/
def configuredSecrets (settings : Settings) : List Str :=
  [settings.groqApiKey, settings.geminiApiKey].filter fun k => 8 ≤ k.length

/-- `_ID_KEYS` -/
def ID_KEYS : List Str := ["run_id", "latest_run_id"]

/-- What `scrub` makes of a string that is not an id. -/
def scrubText (value : Str) : Str :=
  (redactPii cfg.U cfg.analyzer ((configuredSecrets cfg.settings).foldl
    (fun v secret => replaceFrom secret "[REDACTED_CONFIGURED_KEY]" 0 v) value)).1

mutual

/-- `scrub`, of the value under `key`. -/
def scrub (key : Option Str) : Json → Json
  | .str s => .str (if key.any (· ∈ ID_KEYS) then s else scrubText cfg s)
  | .obj items => .obj (scrubItems items)
  | .arr xs => .arr (scrubElems xs)
  | v => v

def scrubElems : List Json → List Json
  | [] => []
  | v :: vs => scrub none v :: scrubElems vs

def scrubItems : List (Str × Json) → List (Str × Json)
  | [] => []
  | (k, v) :: items => (k, scrub (some k) v) :: scrubItems items

end

/-! ### Periods -/

/-- `_latest_run`, on the rows of one project. -/
def latestRun (rows : List TestRunResult) (since until' : Option Time) : List TestRunResult :=
  match (orderDesc (·.executedAt)
    (rows.filter fun r => inPeriod since until' r.executedAt)).head? with
  | none => []
  | some newest => rows.filter (·.runId == newest.runId)

/-- `_period`, on the rows of one project. -/
def periodToDict (rows : List TestRunResult) (since until' : Option Time) : Json :=
  let runs := rows.filter fun r => inPeriod since until' r.executedAt
  let first := (orderDesc (fun r : TestRunResult => -r.executedAt) runs).head?
  let last := (orderDesc (·.executedAt) runs).head?
  .obj [("requested_since", .opt .time since), ("requested_until", .opt .time until'),
    ("first_test_activity", .opt .time (first.map (·.executedAt))),
    ("last_test_activity", .opt .time (last.map (·.executedAt))),
    ("test_runs", .int (runs.map (·.runId)).dedup.length)]

/-! ### The executive report -/

/-- `_SEVERITY_RANK` -/
def Severity.rank : Severity → Nat
  | .critical => 4
  | .high => 3
  | .medium => 2
  | .low => 1

/-- `_KEY_FINDINGS_LIMIT` -/
def KEY_FINDINGS_LIMIT : Nat := 10

/-- The open findings in the order of the report: severe ones first, then old ones. -/
def keyFindings (openFindings : List Finding) : List Finding :=
  (openFindings.insertionSort fun f g => g.severity.rank < f.severity.rank ∨
    (g.severity.rank = f.severity.rank ∧ f.createdAt ≤ g.createdAt)).take KEY_FINDINGS_LIMIT

/-- What the executive report shows of a finding. -/
def keyFindingToDict (project : Option Project) (f : Finding) : Json :=
  .obj [("id", .int f.id), ("title", .str f.title), ("severity", .str f.severity.value),
    ("category", .str f.category), ("status", .str f.status.value),
    ("remediation", remediationFor f.category project)]

/-- `report["major_changes"]`: the latest run against the baseline, if both are there and differ. -/
def majorChanges (t : Table TestRunResult) (baseline : Option Baseline)
    (latest : List TestRunResult) (opened resolved : Nat) : Json :=
  let tail : List (Str × Json) :=
    [("findings_opened_in_period", .int opened), ("findings_resolved_in_period", .int resolved)]
  let compared : List (Str × Json) :=
    match baseline, latest with
    | some b, r :: _ =>
        if b.runId = r.runId then []
        else
          let diff := compareRuns (runSnapshot t b.runId) (runSnapshot t r.runId)
          [("baseline", .str b.name), ("regressions", .strs (diff.regressions.map (·.testId))),
            ("fixed", .strs (diff.fixed.map (·.testId))),
            ("provider_config_changed", .bool (diff.baselineConfig != diff.currentConfig))]
    | _, _ => []
  let nothing : List (Str × Json) := [("baseline", .null), ("regressions", .strs []),
    ("fixed", .strs []), ("provider_config_changed", .null)]
  .obj ((if compared.isEmpty then nothing else compared) ++ tail)

def limitations (latest : List TestRunResult) : List Str :=
  let count (s : TestStatus) : Nat := latest.countP (·.status == s)
  ["Passing tests show these specific attacks were caught — they do not prove the system is " ++
    "secure.".toList] ++
  (if count .INCONCLUSIVE = 0 then []
    else [strInt (count .INCONCLUSIVE) ++ " test(s) INCONCLUSIVE: no automated classifier " ++
      "exists for that category.".toList]) ++
  (if count .ERROR = 0 then []
    else [strInt (count .ERROR) ++ " test(s) ERROR: the test itself failed to run; results " ++
      "for those are unknown.".toList]) ++
  if latest.isEmpty then ["No recorded test runs in this period.".toList] else []

/-- The rows of one project that a report reads. -/
structure ReportRows where
  project : Option Project
  runs : List TestRunResult
  findings : List Finding
  events : List SecurityEvent
  baselines : List Baseline

def reportRows (db : Db) (projectId : Int) : ReportRows where
  project := db.projects.find? projectId
  runs := of db.testRunResults projectId
  findings := of db.findings projectId
  events := of db.securityEvents projectId
  baselines := of db.baselines projectId

/-- The newest baseline. -/
def newestBaseline (baselines : List Baseline) : Option Baseline :=
  (orderDesc (·.createdAt) baselines).head?

section Executive

variable (rows : ReportRows) (since until' : Option Time)

def executiveScope (latest : List TestRunResult) (agents : List AgentProfile) : Json :=
  let events := rows.events.filter fun e => inPeriod since until' e.createdAt
  .obj [("tests_in_latest_run", .int latest.length),
    ("categories", .strs (sortedSet (latest.map (·.category)))),
    ("providers_models",
      .strs (sortedSet (latest.map fun r => r.provider ++ "/".toList ++ r.model))),
    ("agents_configured", .strs (sortedSet (agents.map (·.agentId)))),
    ("applications_observed",
      .strs (sortedSet ((events.filterMap (·.application)).filter (· ≠ []))))]

/-- The executive report before it is scrubbed. -/
def executiveReport (t : Table TestRunResult) (agents : List AgentProfile) (now : Time) : Json :=
  let latest := latestRun rows.runs since until'
  let openFindings := rows.findings.filter (·.live)
  let opened := rows.findings.countP fun f => inPeriod since until' f.createdAt
  let resolved := rows.findings.countP fun f =>
    f.status == .RESOLVED && inPeriod since until' f.updatedAt
  let events := rows.events.filter fun e => inPeriod since until' e.createdAt
  .obj [("report_type", .str "executive"), ("generated_at", .time now),
    ("period", periodToDict rows.runs since until'),
    ("scope", executiveScope rows since until' latest agents),
    ("latest_run", .opt (fun r : TestRunResult => .obj [("run_id", .str r.runId),
      ("executed_at", .time r.executedAt),
      ("status_counts", .obj (counter (latest.map (·.status.value))))]) latest.head?),
    ("key_findings", .arr ((keyFindings openFindings).map (keyFindingToDict rows.project))),
    ("severity_distribution", .obj (counter (openFindings.map (·.severity.value)))),
    ("major_changes", majorChanges t (newestBaseline rows.baselines) latest opened resolved),
    ("remediation_status", .obj (counter (rows.findings.map (·.status.value)))),
    ("security_events", .obj (counter (events.map (·.eventType.value)))),
    ("limitations", .strs (limitations latest))]

end Executive

def buildExecutiveReport (db : Db) (since until' : Option Time) (projectId : Int) (now : Time) :
    Except Raised Json :=
  match loadProfiles cfg.U cfg.profiles with
  | none => .error .unhandled
  | some agents =>
      .ok (scrub cfg none
        (executiveReport (reportRows db projectId) since until' db.testRunResults agents now))

/-! ### The technical report -/

def testCaseToDict (project : Option Project) (r : TestRunResult) : Json :=
  let d := cfg.tests.reverse.find? (·.id == r.testId)
  .obj [("test_id", .str r.testId), ("name", .opt (fun d => .str d.name) d),
    ("category", .str r.category), ("severity", .str r.severity.value),
    ("description", .opt (fun d => .str d.description) d),
    ("attack_input", .opt (fun d => .str d.attackInput) d),
    ("expected_behavior", .opt (fun d => .str d.expectedBehavior) d),
    ("result", .str r.status.value), ("provider", .str r.provider), ("model", .str r.model),
    ("executed_at", .time r.executedAt), ("execution_source", .str r.executionSource),
    ("reproduction", .obj [("run_id", .str r.runId),
      ("command", .str ("POST /v1/security-tests/run?category=".toList ++ r.category)),
      ("definition_available", .bool d.isSome)]),
    ("remediation", remediationFor r.category project)]

/-- What the technical report shows of a finding. -/
def reportedFindingToDict (project : Option Project) (f : Finding) : Json :=
  .obj [("id", .int f.id), ("test_id", .str f.testId), ("title", .str f.title),
    ("category", .str f.category), ("severity", .str f.severity.value),
    ("status", .str f.status.value), ("description", .str f.description),
    ("affected_target", .str f.affectedTarget), ("evidence", f.evidence),
    ("reproduction", f.reproduction), ("provider", .str f.provider), ("model", .str f.model),
    ("created_at", .time f.createdAt), ("updated_at", .time f.updatedAt),
    ("remediation", remediationFor f.category project)]

/-- The technical report before it is scrubbed. -/
def technicalReport (rows : ReportRows) (since until' : Option Time) (now : Time) : Json :=
  let latest := latestRun rows.runs since until'
  let cases := latest.insertionSort fun r s =>
    r.category < s.category ∨ (r.category = s.category ∧ r.testId ≤ s.testId)
  let findings := orderDesc (·.createdAt)
    (rows.findings.filter fun f => inPeriod since until' f.createdAt)
  .obj [("report_type", .str "technical"), ("generated_at", .time now),
    ("period", periodToDict rows.runs since until'),
    ("latest_run_id", .opt (fun r : TestRunResult => .str r.runId) latest.head?),
    ("test_cases", .arr (cases.map (testCaseToDict cfg rows.project))),
    ("findings", .arr (findings.map (reportedFindingToDict rows.project))),
    ("notes", .strs (if latest.isEmpty then ["No recorded test runs in this period."] else []))]

def buildTechnicalReport (db : Db) (since until' : Option Time) (projectId : Int) (now : Time) :
    Json :=
  scrub cfg none (technicalReport cfg (reportRows db projectId) since until' now)

/-! ### Markdown -/

/-- `f"{v}"` -/
def fmt (v : Json) : Str := v.format cfg.pyStr

/-- `s or default` -/
def orElse (s default : Str) : Str := if s = [] then default else s

/-- `sep.join(v)` -/
def joinJson (sep : Str) (v : Json) : Str := join sep (v.elems.map (fmt cfg))

/-- `_ts` -/
def ts : Json → Str
  | .time t => isoformat t
  | v => if v.truthy then fmt cfg v else "—"

/-- `[…] or [default]` -/
def linesOr (lines : List Str) (default : Str) : List Str :=
  if lines.isEmpty then [default] else lines

/-- `[f"- {k}: {v}" for k, v in sorted(d.items())]` -/
def countLines (d : Json) : List Str :=
  (d.items.insertionSort fun a b => a.1 ≤ b.1).map fun kv =>
    "- ".toList ++ kv.1 ++ ": ".toList ++ fmt cfg kv.2

def executiveHead (r : Json) : List Str :=
  let p := r.get "period"
  let scope (key : Str) : Str := orElse (joinJson cfg ", " ((r.get "scope").get key)) "—"
  ["# SentinelAI Security Report — Executive Summary", "",
    "Generated: ".toList ++ ts cfg (r.get "generated_at"),
    "Testing period: ".toList ++ ts cfg (p.get "first_test_activity") ++ " → ".toList ++
      ts cfg (p.get "last_test_activity") ++ " (".toList ++ fmt cfg (p.get "test_runs") ++
      " recorded run(s))".toList,
    "", "## Assessment scope",
    "- Tests in latest run: ".toList ++ fmt cfg ((r.get "scope").get "tests_in_latest_run"),
    "- Categories: ".toList ++ scope "categories",
    "- Providers/models: ".toList ++ scope "providers_models",
    "- Agents configured: ".toList ++ scope "agents_configured", "", "## Latest run"]

def keyFindingLine (f : Json) : Str :=
  let rem := f.get "remediation"
  "- [".toList ++ fmt cfg (f.get "severity") ++ "] ".toList ++ fmt cfg (f.get "title") ++
    " (".toList ++ fmt cfg (f.get "status") ++ ") — ".toList ++ fmt cfg (rem.get "expected_fix") ++
    " [".toList ++ fmt cfg (rem.get "confidence") ++ "]".toList

def changeLines (mc : Json) : List Str :=
  let changed := mc.get "provider_config_changed"
  ["", "## Major changes",
    "- Baseline: ".toList ++
      (if (mc.get "baseline").truthy then fmt cfg (mc.get "baseline") else "none"),
    "- Regressions: ".toList ++ orElse (joinJson cfg ", " (mc.get "regressions")) "none",
    "- Fixed: ".toList ++ orElse (joinJson cfg ", " (mc.get "fixed")) "none",
    "- Provider/model config changed: ".toList ++
      (match changed with
        | .null => "n/a".toList
        | v => fmt cfg v),
    "- Findings opened / resolved in period: ".toList ++
      fmt cfg (mc.get "findings_opened_in_period") ++ " / ".toList ++
      fmt cfg (mc.get "findings_resolved_in_period"),
    "", "## Remediation status"]

def executiveMarkdown (r : Json) : Str :=
  join "\n"
    (executiveHead cfg r ++
      (if (r.get "latest_run").truthy then countLines cfg ((r.get "latest_run").get "status_counts")
        else ["- No recorded test runs in this period."]) ++
      ["".toList, "## Key findings".toList] ++
      linesOr ((r.get "key_findings").elems.map (keyFindingLine cfg)) "- No open findings." ++
      ["".toList, "## Severity distribution (open findings)".toList] ++
      linesOr (countLines cfg (r.get "severity_distribution")) "- None." ++
      changeLines cfg (r.get "major_changes") ++
      linesOr (countLines cfg (r.get "remediation_status")) "- No findings recorded." ++
      ["".toList, "## Security events in period".toList] ++
      linesOr (countLines cfg (r.get "security_events")) "- None." ++
      ["".toList, "## Limitations".toList] ++
      (r.get "limitations").elems.map fun x => "- ".toList ++ fmt cfg x)

def testCaseLines (t : Json) : List Str :=
  let rem := t.get "remediation"
  ["", "### ".toList ++ fmt cfg (t.get "test_id") ++ " — ".toList ++ fmt cfg (t.get "result"),
    "- Category / severity: ".toList ++ fmt cfg (t.get "category") ++ " / ".toList ++
      fmt cfg (t.get "severity"),
    (if (t.get "attack_input").truthy then
      "- Attack input: `".toList ++ fmt cfg (t.get "attack_input") ++ "`".toList
    else "- Attack input: definition no longer registered"),
    "- Expected: ".toList ++
      (if (t.get "expected_behavior").truthy then fmt cfg (t.get "expected_behavior") else "—"),
    "- Provider/model: ".toList ++ fmt cfg (t.get "provider") ++ " / ".toList ++
      fmt cfg (t.get "model"),
    "- Executed: ".toList ++ ts cfg (t.get "executed_at"),
    "- Reproduce: `".toList ++ fmt cfg ((t.get "reproduction").get "command") ++
      "` (run ".toList ++ fmt cfg ((t.get "reproduction").get "run_id") ++ ")".toList,
    "- Remediation: ".toList ++ fmt cfg (rem.get "expected_fix") ++ " [".toList ++
      fmt cfg (rem.get "confidence") ++ "]".toList]

def findingLines (f : Json) : List Str :=
  let rem := f.get "remediation"
  let context := rem.get "project_context"
  let lines : List Str := ["",
    "### #".toList ++ fmt cfg (f.get "id") ++ " ".toList ++ fmt cfg (f.get "title") ++
      " [".toList ++ fmt cfg (f.get "severity") ++ ", ".toList ++ fmt cfg (f.get "status") ++
      "]".toList,
    "- Test: ".toList ++ fmt cfg (f.get "test_id") ++ " (".toList ++ fmt cfg (f.get "category") ++
      ") on ".toList ++ fmt cfg (f.get "affected_target"),
    "- Evidence: input `".toList ++ fmt cfg ((f.get "evidence").get "raw_input") ++
      "` → output `".toList ++ fmt cfg ((f.get "evidence").get "raw_output") ++ "`".toList,
    "- Provider/model: ".toList ++ fmt cfg (f.get "provider") ++ " / ".toList ++
      fmt cfg (f.get "model"),
    "- Opened / updated: ".toList ++ ts cfg (f.get "created_at") ++ " / ".toList ++
      ts cfg (f.get "updated_at"),
    "- Reproduction: ".toList ++ fmt cfg (f.get "reproduction"),
    "- Observed: ".toList ++ fmt cfg (rem.get "observed"),
    "- Analysis: ".toList ++ fmt cfg (rem.get "analysis"),
    "- Security impact: ".toList ++ fmt cfg (rem.get "security_impact"),
    "- Recommendation: ".toList ++ fmt cfg (rem.get "expected_fix"),
    "- Why this addresses it: ".toList ++ fmt cfg (rem.get "why_it_addresses"),
    "- Components to review: ".toList ++
      orElse (joinJson cfg ", " (rem.get "components_to_review")) "—",
    "- Additional controls: ".toList ++
      orElse (joinJson cfg ", " (rem.get "additional_controls")) "—",
    "- Verification: ".toList ++ fmt cfg (rem.get "verification_guidance"),
    "- Confidence: ".toList ++ fmt cfg (rem.get "confidence")]
  lines ++ if context.truthy then ["- Project context: ".toList ++ joinJson cfg " " context] else []

def technicalMarkdown (r : Json) : Str :=
  let p := r.get "period"
  let cases := (r.get "test_cases").elems
  let findings := (r.get "findings").elems
  join "\n"
    (["# SentinelAI Security Report — Technical".toList, [],
        "Generated: ".toList ++ ts cfg (r.get "generated_at"),
        "Testing period: ".toList ++ ts cfg (p.get "first_test_activity") ++ " → ".toList ++
          ts cfg (p.get "last_test_activity"),
        "Latest run: ".toList ++
          (if (r.get "latest_run_id").truthy then fmt cfg (r.get "latest_run_id") else "—"),
        [], "## Test cases".toList] ++
      (if cases.isEmpty then ["No recorded test runs in this period.".toList] else []) ++
      cases.flatMap (testCaseLines cfg) ++ [[], "## Findings".toList] ++
      (if findings.isEmpty then ["No findings opened in this period.".toList] else []) ++
      findings.flatMap (findingLines cfg))

/-! ### CSV -/

/-- One field as `csv.writer` writes it. -/
def csvField (s : Str) : Str :=
  if s.any (· ∈ (",\"\r\n" : String).toList) then
    '"' :: s.flatMap (fun c => if c = '"' then ['"', '"'] else [c]) ++ ['"']
  else s

def csvRow (fields : List Str) : Str := join "," (fields.map csvField) ++ "\r\n".toList

def technicalCsv (r : Json) : Str :=
  let head : List Str := ["id", "test_id", "title", "category", "severity", "status",
    "affected_target", "created_at", "updated_at", "expected_fix", "confidence"]
  let row (f : Json) : List Str :=
    [fmt cfg (f.get "id"), fmt cfg (f.get "test_id"), fmt cfg (f.get "title"),
      fmt cfg (f.get "category"), fmt cfg (f.get "severity"), fmt cfg (f.get "status"),
      fmt cfg (f.get "affected_target"), ts cfg (f.get "created_at"), ts cfg (f.get "updated_at"),
      fmt cfg ((f.get "remediation").get "expected_fix"),
      fmt cfg ((f.get "remediation").get "confidence")]
  (csvRow head) ++ (r.get "findings").elems.flatMap fun f => csvRow (row f)

end SentinelAI
