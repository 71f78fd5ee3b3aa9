import SentinelAI.Proxy.AgentActions
import SentinelAI.Proxy.ApiKeys
import SentinelAI.Proxy.Generate
import SentinelAI.Proxy.Reports

/-!
# Proxy — Routes

The functions of `proxy/main.py`, behind the middleware and the dependencies.  They fall into four
groups, by what their dependency hands them: nothing, the user, a project that `require_project` let
through, or one that `require_project_or_api_key` did.

* `openBody_frame`, `userBody_frame`, `projectBody_frame`, `keyBody_frame`: the tables that the
  functions of each group may change.
-/

namespace SentinelAI
open Support

/-- The state of the process: the database, and the counters it keeps in memory. -/
structure World where
  db : Db
  counts : SessionCounts
  windows : WindowCounts

/-- Before the first request. -/
def World.empty : World := ⟨.empty, fun _ => 0, fun _ => none⟩

variable (cfg : Config) (tick : Tick)

/-! ### Routes without a dependency -/

inductive OpenRoute where
  | health
  | signup (body : Credentials)
  | login (body : Credentials)
  | quota
  | run_security_tests (category : Option Str)
  | list_agents
  | approve_agent_action (logId : Int) (approver : Str)
  | reject_agent_action (logId : Int) (approver : Str)
  | get_events_config
  | apply_event_retention

/-- `_auth_rate_limit_or_429`: whether the attempt is allowed, and the windows after it. -/
def authAttempt (w : World) (client : Option Str) : Bool × World :=
  let r := checkAuthRateLimit w.windows (client.getD "unknown") 10 60000000 tick.monotonic
  (r.1, { w with windows := r.2 })

def tooManyAttempts : Raised :=
  .http 429 "rate_limit_exceeded" "Too many attempts. Try again shortly."

/-- What `signup` does with an email that is not taken. -/
def signedUp (db : Db) (email passwordHash : Str) : Answer × Db :=
  let user := db.users.stored ⟨0, email, passwordHash, tick.now⟩
  (.ok (.ok (authResponse (cfg.jwtEncode tick.now user.id) user.id user.email)),
    { db with
      users := db.users.insert ⟨0, email, passwordHash, tick.now⟩
      workspaces := createWorkspaceForUser db.workspaces user.id tick.now })

def signup (w : World) (client : Option Str) (body : Credentials) : Answer × World :=
  if signupErrors body ≠ [] then (.error (.validation (signupErrors body)), w)
  else
    let (allowed, w) := authAttempt tick w client
    let email := cfg.U.lower body.email
    if !allowed then (.error tooManyAttempts, w)
    else if w.db.users.rows.any (·.email == email) then
      (.error (.http 409 "email_taken" "An account with this email already exists."), w)
    else match cfg.hashpw tick.salt body.password with
    | none => (.error .unhandled, w)
    | some passwordHash =>
        let r := signedUp cfg tick w.db email passwordHash
        (r.1, { w with db := r.2 })

def login (w : World) (client : Option Str) (body : Credentials) : Answer × World :=
  let (allowed, w) := authAttempt tick w client
  let refused : Raised := .http 401 "invalid_credentials" "Incorrect email or password."
  if !allowed then (.error tooManyAttempts, w)
  else match w.db.users.rows.find? (·.email == cfg.U.lower body.email) with
  | none => (.error refused, w)
  | some user =>
      if verifyPassword cfg body.password user.passwordHash then
        (.ok (.ok (authResponse (cfg.jwtEncode tick.now user.id) user.id user.email)), w)
      else (.error refused, w)

/-- `_select_tests` -/
def selectTests (category : Option Str) : List SecurityTest :=
  match category.filter (· ≠ []) with
  | none => cfg.tests
  | some c =>
      let wanted := ((c.splitOn ',').map strip).filter (· ≠ [])
      cfg.tests.filter (·.category ∈ wanted)

def resultsToJson (results : List TestResult) : Json := .arr (results.map (·.toJson))

/-- The event of a refused resolution, where the refusal is suspicious: an agent resolving its own
action, or a denial being approved. -/
def bypassEvent (t : Table AgentActionLog) (logId : Int) (e : ApprovalError) :
    List EventFields :=
  match t.find? logId with
  | none => []
  | some row =>
      if e.code = .self_approval_forbidden ∨ (e.code = .not_pending ∧ row.decision = .DENY) then
        [{ eventType := .suspicious_tool_activity
           severity := "high"
           category := "agent_policy"
           source := "agent_policy"
           application := some row.agentId
           summary := "Approval bypass attempt on action #".toList ++ strInt row.id ++
            " (".toList ++ e.code.value ++ ").".toList
           details := .obj [("action_log_id", .int row.id), ("code", .str e.code.value)]
           projectId := row.projectId }]
      else []

/-- `_resolve` -/
def resolveAction (db : Db) (logId : Int) (approver : Str) (approve : Bool) : Answer × Db :=
  match resolveApproval cfg.U db.agentActionLogs logId approver approve tick.now with
  | (.ok row, t) => (.ok (.ok (actionLogToDict row)), { db with agentActionLogs := t })
  | (.error e, _) =>
      (.error (.http e.statusCode e.code.value e.message),
        db.recordEvents cfg tick 0 (bypassEvent db.agentActionLogs logId e))

/-- `replace(hour=0, minute=0, second=0, microsecond=0)` -/
def dayStart (now : Time) : Time := now - now.fmod day

def openBody (w : World) (client : Option Str) : OpenRoute → Answer × World
  | .health => (.ok (.ok (.obj [("status", .str "ok")])), w)
  | .signup body => signup cfg tick w client body
  | .login body => login cfg tick w client body
  | .quota =>
      (.ok (.ok (.obj [("calls_today",
        .int (w.db.callLogs.rows.countP fun r => dayStart tick.now ≤ r.createdAt))])), w)
  | .run_security_tests category =>
      (.ok (.ok (resultsToJson (runSuite (selectTests cfg category) tick.testTime))), w)
  | .list_agents =>
      (match loadProfiles cfg.U cfg.profiles with
        | none => .error .unhandled
        | some profiles => .ok (.ok (.arr (profiles.map profileToDict))), w)
  | .approve_agent_action logId approver =>
      let r := resolveAction cfg tick w.db logId approver true
      (r.1, { w with db := r.2 })
  | .reject_agent_action logId approver =>
      let r := resolveAction cfg tick w.db logId approver false
      (r.1, { w with db := r.2 })
  | .get_events_config => (.ok (.ok (eventsConfig cfg.settings)), w)
  | .apply_event_retention =>
      match purgeExpired w.db.securityEvents cfg.settings.eventsRetentionDays tick.now with
      | none => (.error .unhandled, w)
      | some (deleted, events) =>
          (.ok (.ok (.obj [("deleted", .int deleted),
            ("retention_days", .int cfg.settings.eventsRetentionDays)])),
            { w with db := { w.db with securityEvents := events } })

/-! ### Routes of a user -/

inductive UserRoute where
  | get_me
  | create_project (body : ProjectCreate)
  | list_projects
  | evaluate_agent_action (agentId : Str) (body : ActionRequest) (projectId : Option Int)
  | list_agent_actions (agentId : Option Str) (limit : Int) (projectId : Option Int)
  | get_finding (findingId : Int)
  | update_finding_status (findingId : Int) (status : FindingStatus)
  | generate (req : GenerateRequest)

variable (user : User)

/-- The workspace of a user. -/
def workspaceOf (db : Db) (userId : Int) : Option Workspace :=
  db.workspaces.rows.find? (·.ownerUserId == userId)

/-- The projects of a workspace. -/
def projectsIn (db : Db) (workspaceId : Int) : List Project :=
  db.projects.rows.filter (·.workspaceId == workspaceId)

def newProject (workspaceId : Int) (body : ProjectCreate) : Project :=
  ⟨0, workspaceId, body.name, body.targetType, body.repoUrl, body.description, tick.now⟩

/-- The database with a workspace for the user, and the id of the workspace. -/
def ensureWorkspace (db : Db) : Int × Db :=
  match workspaceOf db user.id with
  | some workspace => (workspace.id, db)
  | none =>
      (Table.nextKey db.workspaces.rows,
        { db with workspaces := createWorkspaceForUser db.workspaces user.id tick.now })

def createProject (db : Db) (body : ProjectCreate) : Answer × Db :=
  let (workspaceId, db) := ensureWorkspace tick user db
  let project := newProject tick workspaceId body
  (.ok (.ok (projectToDict (db.projects.stored project))),
    { db with projects := db.projects.insert project })

def listProjects (db : Db) : Json :=
  match workspaceOf db user.id with
  | none => .arr []
  | some workspace =>
      .arr ((orderDesc (·.createdAt) (projectsIn db workspace.id)).map projectToDict)

/-- The check of an optional `project_id`. -/
def ownedIfGiven (db : Db) (projectId : Option Int) : Except Raised Unit :=
  match projectId with
  | none => .ok ()
  | some p => (ownedProject db p user.id).map fun _ => ()

/-- The event of a denial: reaching outside of what the agent has registered is suspicious. -/
def denialEvent (profile : AgentProfile) (decision : PolicyDecision) (row : AgentActionLog) :
    List EventFields :=
  if decision.decision = .DENY then
    let suspicious := decision.code ∈ outOfBoundsCodes
    [{ eventType := if suspicious then .suspicious_tool_activity else .policy_violation
       severity := if suspicious then "high" else "medium"
       category := "agent_policy"
       source := "agent_policy"
       application := some profile.agentId
       model := some profile.model
       summary := row.tool ++ ".".toList ++ row.action ++ " denied (".toList ++
        decision.code.value ++ ").".toList
       details := .obj [("action_log_id", .int row.id), ("code", .str decision.code.value),
        ("tool", .str row.tool), ("action", .str row.action)]
       projectId := row.projectId }]
  else []

/-- `evaluate_agent_action`: the row recorded, and the database after it. -/
def evaluateAction (db : Db) (agentId : Str) (body : ActionRequest) (projectId : Option Int) :
    Except Raised AgentActionLog × Db :=
  match loadProfiles cfg.U cfg.profiles with
  | none => (.error .unhandled, db)
  | some profiles =>
      match profiles.find? (·.agentId == cfg.U.canon agentId) with
      | none => (.error (.http 404 "agent_not_found" "No such agent profile."), db)
      | some profile =>
          match ownedIfGiven user db projectId with
          | .error e => (.error e, db)
          | .ok () =>
              let r := evaluateAndRecord cfg.U db.agentActionLogs profile body projectId tick.now
              (.ok r.2.1, Db.recordEvents { db with agentActionLogs := r.2.2 } cfg tick 0
                (denialEvent profile r.1 r.2.1))

/-- The rows that match the filters of `GET /v1/agent-actions`. -/
def matchingActions (db : Db) (agentId : Option Str) (projectId : Option Int) :
    List AgentActionLog :=
  db.agentActionLogs.rows.filter fun r =>
    given (agentId.filter (· ≠ [])) (fun a => r.agentId == cfg.U.canon a) &&
    given projectId (fun p => r.projectId == some p)

/-- `list_agent_actions` -/
def listActions (db : Db) (agentId : Option Str) (n : Int) (projectId : Option Int) :
    Except Raised (List AgentActionLog) :=
  (ownedIfGiven user db projectId).map fun _ =>
    limit n (orderDesc (·.createdAt) (matchingActions cfg db agentId projectId))

/-- The same for a finding of someone else as for none. -/
def findingNotFound : Raised := .http 404 "finding_not_found" "No such finding."

/-- `_owned_finding` -/
def ownedFinding (db : Db) (findingId : Int) : Except Raised (Finding × Project) :=
  match db.findings.find? findingId with
  | none => .error findingNotFound
  | some finding =>
      match finding.projectId with
      | none => .error findingNotFound
      | some p =>
          match ownedProject db p user.id with
          | .error _ => .error findingNotFound
          | .ok project => .ok (finding, project)

/-- The row after `finding.status = status`; setting the value it has changes nothing. -/
def Finding.patched (f : Finding) (status : FindingStatus) (now : Time) : Finding :=
  if f.status = status then f else { f with status, updatedAt := now }

def updateFindingStatus (db : Db) (findingId : Int) (status : FindingStatus) : Answer × Db :=
  match ownedFinding user db findingId with
  | .error e => (.error e, db)
  | .ok (finding, project) =>
      (.ok (.ok (findingToDict (finding.patched status tick.now) (some project))),
        { db with findings := db.findings.modify findingId (·.patched status tick.now) })

def userBody (w : World) : UserRoute → Answer × World
  | .get_me =>
      (.ok (.ok (.obj [("id", .int user.id), ("email", .str user.email),
        ("created_at", .time user.createdAt)])), w)
  | .create_project body =>
      let r := createProject tick user w.db body
      (r.1, { w with db := r.2 })
  | .list_projects => (.ok (.ok (listProjects user w.db)), w)
  | .evaluate_agent_action agentId body projectId =>
      let r := evaluateAction cfg tick user w.db agentId body projectId
      (r.1.map fun row => .ok (actionLogToDict row), { w with db := r.2 })
  | .list_agent_actions agentId n projectId =>
      ((listActions cfg user w.db agentId n projectId).map fun rows =>
        .ok (.arr (rows.map actionLogToDict)), w)
  | .get_finding findingId =>
      ((ownedFinding user w.db findingId).map fun f => .ok (findingToDict f.1 (some f.2)), w)
  | .update_finding_status findingId status =>
      let r := updateFindingStatus tick user w.db findingId status
      (r.1, { w with db := r.2 })
  | .generate req =>
      let g := SentinelAI.generate cfg tick req (getProvider tick.sdks) w.db w.counts user
      (g.answer, { w with db := g.db, counts := g.counts })

/-! ### Routes of a project -/

inductive ProjectRoute where
  | get_project
  | update_project (body : ProjectUpdate)
  | create_project_api_key (name : Str)
  | list_project_api_keys
  | revoke_project_api_key (keyId : Int)
  | create_security_baseline (name : Str) (runId : Option Str)
  | list_baselines
  | list_events (query : EventQuery)
  | get_executive_report (since until' : Option Time) (format : Str)
  | get_technical_report (since until' : Option Time) (format : Str)
  | security_dashboard
  | list_findings (status : Option Str)
  | list_calls (limit : Int)

variable (project : Project)

/-- The row after the assignments of `update_project`. -/
def Project.updated (p : Project) (body : ProjectUpdate) : Project :=
  { p with
    name := body.name.getD p.name
    repoUrl := body.repoUrl.or p.repoUrl
    description := body.description.or p.description }

def updateProject (db : Db) (body : ProjectUpdate) : Answer × Db :=
  let projects := db.projects.modify project.id (·.updated body)
  (match projects.find? project.id with
    | none => .error .unhandled
    | some row => .ok (.ok (projectToDict row)), { db with projects })

def createProjectApiKey (db : Db) (name : Str) : Answer × Db :=
  match createApiKey cfg tick db.apiKeys project.id name with
  | none => (.error .unhandled, db)
  | some (row, rawKey, apiKeys) =>
      (.ok (.ok (.obj (apiKeyToDict row ++ [(("key" : String).toList, .str rawKey)]))),
        { db with apiKeys })

def listProjectApiKeys (db : Db) : Json :=
  .arr ((orderDesc (·.createdAt) (of db.apiKeys project.id)).map fun k => .obj (apiKeyToDict k))

def revokeProjectApiKey (db : Db) (keyId : Int) : Answer × Db :=
  match revokeApiKey db.apiKeys project.id keyId tick.now with
  | none => (.error (.http 404 "api_key_not_found" "No such API key."), db)
  | some apiKeys => (.ok (.ok (.obj [("revoked", .bool true)])), { db with apiKeys })

def createSecurityBaseline (db : Db) (name : Str) (runId : Option Str) : Answer × Db :=
  match baselineRun (of db.testRunResults project.id) runId with
  | none =>
      (.error (.http 409 "no_run_to_baseline"
        "No recorded test run to baseline. Run POST /v1/findings/sync first."), db)
  | some target =>
      let baseline : Baseline := ⟨0, some project.id, name, target, tick.now⟩
      (.ok (.ok (baselineToDict (db.baselines.stored baseline))),
        { db with baselines := db.baselines.insert baseline })

def listBaselines (db : Db) : Json :=
  .arr ((orderDesc (·.createdAt) (of db.baselines project.id)).map baselineToDict)

/-- `limit=min(max(limit, 1), 1000)` -/
def EventQuery.clamped (q : EventQuery) : EventQuery := { q with limit := min (max q.limit 1) 1000 }

def listEvents (db : Db) (query : EventQuery) : Json :=
  .arr ((queryEvents (of db.securityEvents project.id) query.clamped).map eventToDict)

/-- `PlainTextResponse(body, media_type)` -/
def plainText (mediaType body : Str) : Response := ⟨200, .text mediaType body⟩

def getExecutiveReport (db : Db) (since until' : Option Time) (format : Str) : Answer :=
  (buildExecutiveReport cfg db since until' project.id tick.now).map fun report =>
    if format = "md".toList then plainText "text/plain" (executiveMarkdown cfg report)
    else .ok report

def getTechnicalReport (db : Db) (since until' : Option Time) (format : Str) : Answer :=
  let report := buildTechnicalReport cfg db since until' project.id tick.now
  .ok (if format = "md".toList then plainText "text/plain" (technicalMarkdown cfg report)
    else if format = "csv".toList then plainText "text/csv" (technicalCsv cfg report)
    else .ok report)

def listFindings (db : Db) (status : Option Str) : Json :=
  .arr ((orderDesc (·.createdAt) ((of db.findings project.id).filter fun f =>
    given (status.filter (· ≠ [])) (f.status.value == ·))).map fun f =>
      findingToDict f (some project))

def callToDict (r : CallLog) : Json :=
  .obj [("id", .int r.id), ("session_id", .str r.sessionId), ("operation", .str r.operation),
    ("provider", .str r.provider), ("model", .str r.model), ("latency_ms", .int r.latencyMs),
    ("tokens_in", .int r.tokensIn), ("tokens_out", .int r.tokensOut),
    ("cost_estimate_usd", .num r.costEstimateUsd), ("guardrails", r.guardrails),
    ("error_code", .opt (fun c => .str c.value) r.errorCode), ("created_at", .time r.createdAt)]

def listCalls (db : Db) (n : Int) : Json :=
  .arr ((limit n (orderDesc (·.createdAt) (of db.callLogs project.id))).map callToDict)

def projectBody (db : Db) : ProjectRoute → Answer × Db
  | .get_project => (.ok (.ok (projectToDict project)), db)
  | .update_project body => updateProject project db body
  | .create_project_api_key name => createProjectApiKey cfg tick project db name
  | .list_project_api_keys => (.ok (.ok (listProjectApiKeys project db)), db)
  | .revoke_project_api_key keyId => revokeProjectApiKey tick project db keyId
  | .create_security_baseline name runId => createSecurityBaseline tick project db name runId
  | .list_baselines => (.ok (.ok (listBaselines project db)), db)
  | .list_events query => (.ok (.ok (listEvents project db query)), db)
  | .get_executive_report since until' format =>
      (getExecutiveReport cfg tick project db since until' format, db)
  | .get_technical_report since until' format =>
      (getTechnicalReport cfg tick project db since until' format, db)
  | .security_dashboard => (.ok (.ok (buildDashboardSummary db project.id)), db)
  | .list_findings status => (.ok (.ok (listFindings project db status)), db)
  | .list_calls n => (.ok (.ok (listCalls project db n)), db)

/-! ### Routes of a project that take its API key -/

inductive KeyRoute where
  | sync_security_findings (category : Option Str) (source : Str)
  | regression_report (baselineId : Option Int) (runId : Option Str)

/-- The events of a sync: one for each finding opened, one for each regression. -/
def openedEvent (f : Finding) : EventFields where
  eventType := .finding_opened
  severity := f.severity.value
  category := f.category
  source := "findings"
  model := some f.model
  summary := "Finding #".toList ++ strInt f.id ++ " opened: ".toList ++ f.testId ++ ".".toList
  details := .obj [("finding_id", .int f.id), ("test_id", .str f.testId)]
  projectId := some project.id

def regressedEvent (baseline : Baseline) (runId : Str) (r : DiffEntry) : EventFields where
  eventType := .regression_detected
  severity := r.currentSeverity.value
  category := r.category
  source := "regression"
  summary := r.testId ++ " regressed PASS -> FAIL vs baseline '".toList ++ baseline.name ++
    "'.".toList
  details := .obj [("test_id", .str r.testId), ("baseline_id", .int baseline.id),
    ("run_id", .str runId)]
  projectId := some project.id

/-- The regressions of the run that was just recorded, against the newest baseline. -/
def regressedEvents (db : Db) (runId : Str) : List EventFields :=
  match newestBaseline (of db.baselines project.id) with
  | none => []
  | some baseline =>
      if baseline.runId = runId then []
      else
        (compareRuns (runSnapshot db.testRunResults baseline.runId)
          (runSnapshot db.testRunResults runId)).regressions.map
          (regressedEvent project baseline runId)

def syncSecurityFindings (db : Db) (category : Option Str) (source : Str) : Answer × Db :=
  let results := runSuite (selectTests cfg category) tick.testTime
  let synced := syncFindings db.findings results (some project.id) tick.findingTime
  let recorded : Db :=
    { db with
      findings := synced.2
      testRunResults :=
        recordTestRun db.testRunResults results (some project.id) source tick.runId }
  (.ok (.ok (.obj [("results", resultsToJson results),
      ("findings_created", .arr (synced.1.map fun f => findingToDict f (some project)))])),
    recorded.recordEvents cfg tick 0
      (synced.1.map (openedEvent project) ++ regressedEvents project recorded tick.runId))

/-- The findings of a baseline's project. -/
def findingsOf (db : Db) (baseline : Baseline) : List Finding :=
  match baseline.projectId with
  | none => db.findings.rows
  | some p => of db.findings p

/-- The run that `regression_report` compares. -/
def targetRun (db : Db) (runId : Option Str) : Option Str :=
  match runId with
  | none => latestRunId (of db.testRunResults project.id)
  | some id => if (of db.testRunResults project.id).any (·.runId == id) then some id else none

def regressionReport (db : Db) (baselineId : Option Int) (runId : Option Str) : Answer :=
  let baselines := of db.baselines project.id
  let baseline := match baselineId with
    | none => newestBaseline baselines
    | some id => baselines.find? (·.id == id)
  match baseline with
  | none => .error (.http 404 "baseline_not_found" "No baseline exists yet. Create one first.")
  | some baseline =>
      match targetRun project db runId with
      | none => .error (.http 409 "no_run_to_compare" "No recorded test run to compare against.")
      | some target =>
          .ok (.ok (buildRegressionReport db.testRunResults (findingsOf db baseline) baseline
            target))

def keyBody (db : Db) : KeyRoute → Answer × Db
  | .sync_security_findings category source =>
      syncSecurityFindings cfg tick project db category source
  | .regression_report baselineId runId => (regressionReport project db baselineId runId, db)

/-! ### The tables that a function changes -/

section Frames

variable {cfg tick} {w : World} {user : User} {project : Project} {db : Db}

theorem resolveAction_frame (logId : Int) (approver : Str) (approve : Bool) :
    ∃ agentActionLogs securityEvents, (resolveAction cfg tick db logId approver approve).2 =
      { db with agentActionLogs, securityEvents } := by
  unfold resolveAction
  split
  · exact ⟨_, _, rfl⟩
  · rw [Db.recordEvents_eq]
    exact ⟨_, _, rfl⟩

/-- Without a dependency, accounts are added and none goes. -/
theorem openBody_frame (client : Option Str) (route : OpenRoute) :
    ∃ users workspaces agentActionLogs securityEvents,
      (openBody cfg tick w client route).2.db =
        { w.db with users, workspaces, agentActionLogs, securityEvents } ∧
      w.db.users.rows <+: users.rows := by
  have same : ∃ users workspaces agentActionLogs securityEvents,
      w.db = { w.db with users, workspaces, agentActionLogs, securityEvents } ∧
        w.db.users.rows <+: users.rows := ⟨_, _, _, _, rfl, List.prefix_rfl⟩
  cases route with
  | signup body =>
      unfold openBody signup
      dsimp only
      split
      · exact same
      · split
        · exact same
        · split
          · exact same
          · split
            · exact same
            · exact ⟨_, _, _, _, rfl, List.prefix_append _ _⟩
  | login body =>
      unfold openBody login
      dsimp only
      split
      · exact same
      · split
        · exact same
        · split <;> exact same
  | approve_agent_action logId approver =>
      obtain ⟨actions, events, h⟩ := resolveAction_frame logId approver true
      exact ⟨_, _, actions, events, h, List.prefix_rfl⟩
  | reject_agent_action logId approver =>
      obtain ⟨actions, events, h⟩ := resolveAction_frame logId approver false
      exact ⟨_, _, actions, events, h, List.prefix_rfl⟩
  | apply_event_retention =>
      unfold openBody
      dsimp only
      split
      · exact same
      · exact ⟨_, _, _, _, rfl, List.prefix_rfl⟩
  | _ => exact same

/-- The events of the regressions of a run are made of a baseline and an entry each. -/
theorem exists_of_mem_regressedEvents {runId : Str} {e : EventFields}
    (he : e ∈ regressedEvents project db runId) :
    ∃ baseline entry, e = regressedEvent project baseline runId entry := by
  unfold regressedEvents at he
  split at he
  · cases he
  · split at he
    · cases he
    · obtain ⟨entry, -, rfl⟩ := List.mem_map.mp he
      exact ⟨_, entry, rfl⟩

theorem createProject_frame (body : ProjectCreate) :
    ∃ workspaces projects, (createProject tick user db body).2 =
      { db with workspaces, projects } := by
  unfold createProject ensureWorkspace
  cases workspaceOf db user.id <;> exact ⟨_, _, rfl⟩

theorem evaluateAction_frame (agentId : Str) (body : ActionRequest) (projectId : Option Int) :
    ∃ agentActionLogs securityEvents,
      (evaluateAction cfg tick user db agentId body projectId).2 =
        { db with agentActionLogs, securityEvents } := by
  unfold evaluateAction
  split
  · exact ⟨_, _, rfl⟩
  · split
    · exact ⟨_, _, rfl⟩
    · split
      · exact ⟨_, _, rfl⟩
      · dsimp only
        rw [Db.recordEvents_eq]
        exact ⟨_, _, rfl⟩

theorem updateFindingStatus_frame (findingId : Int) (status : FindingStatus) :
    ∃ findings, (updateFindingStatus tick user db findingId status).2 = { db with findings } := by
  unfold updateFindingStatus
  split <;> exact ⟨_, rfl⟩

/-- A user's requests leave the accounts, the runs, the baselines and the keys. -/
theorem userBody_frame (route : UserRoute) :
    ∃ workspaces projects callLogs findings agentActionLogs securityEvents,
      (userBody cfg tick user w route).2.db =
        { w.db with
          workspaces, projects, callLogs, findings, agentActionLogs, securityEvents } := by
  cases route with
  | create_project body =>
      obtain ⟨_, _, h⟩ := @createProject_frame tick user w.db body
      exact ⟨_, _, _, _, _, _, h⟩
  | evaluate_agent_action agentId body projectId =>
      obtain ⟨_, _, h⟩ := evaluateAction_frame agentId body projectId
      exact ⟨_, _, _, _, _, _, h⟩
  | update_finding_status findingId status =>
      obtain ⟨_, h⟩ := updateFindingStatus_frame findingId status
      exact ⟨_, _, _, _, _, _, h⟩
  | generate req => exact ⟨_, _, _, _, _, _, onlyLogs_generate _ _ user⟩
  | _ => exact ⟨_, _, _, _, _, _, rfl⟩

/-- A project's requests change its settings, its keys and its baselines, and no baseline goes. -/
theorem projectBody_frame (route : ProjectRoute) :
    ∃ projects apiKeys baselines, (projectBody cfg tick project db route).2 =
        { db with projects, apiKeys, baselines } ∧ db.baselines.rows <+: baselines.rows := by
  cases route with
  | create_project_api_key name =>
      unfold projectBody createProjectApiKey
      dsimp only
      split <;> exact ⟨_, _, _, rfl, List.prefix_rfl⟩
  | revoke_project_api_key keyId =>
      unfold projectBody revokeProjectApiKey
      dsimp only
      split <;> exact ⟨_, _, _, rfl, List.prefix_rfl⟩
  | create_security_baseline name runId =>
      unfold projectBody createSecurityBaseline
      dsimp only
      split
      · exact ⟨_, _, _, rfl, List.prefix_rfl⟩
      · exact ⟨_, _, _, rfl, List.prefix_append _ _⟩
  | _ => exact ⟨_, _, _, rfl, List.prefix_rfl⟩

theorem keyBody_frame (route : KeyRoute) :
    ∃ findings testRunResults securityEvents, (keyBody cfg tick project db route).2 =
      { db with findings, testRunResults, securityEvents } := by
  cases route with
  | sync_security_findings category source => exact ⟨_, _, _, Db.recordEvents_eq _ _ _ _ _⟩
  | regression_report baselineId runId => exact ⟨_, _, _, rfl⟩

end Frames

end SentinelAI
