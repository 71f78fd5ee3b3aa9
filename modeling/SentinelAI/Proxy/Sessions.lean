import SentinelAI.Proxy.Api
import SentinelAI.Support.Session

/-!
# Proxy — Sessions

The handlers that record events, with the session that each of them uses: what is added, where it is
committed, and what is read again.  `record_event` commits the session it is given and rolls it back
where it fails, and both expire the rows that were read from it: a row is its key here, and its
columns are read again where they are used.

* `handleIn`: a request is served, with the records that fail.
-/

namespace SentinelAI
open Support

/-- What the handlers read: every table but the events'. -/
def Db.business (d : Db) : Db := { d with securityEvents := .empty }

abbrev DbProg := Prog Db Db

namespace InSession

variable (cfg : Config) (tick : Tick)

/-- `record_event`, for event `i` of a request. -/
def recordEvent (i : Nat) (e : EventFields) : DbProg Unit :=
  if !cfg.settings.eventsEnabled then pure ()
  else if severityRank e.severity < cfg.settings.eventsMinSeverity.rank then pure ()
  else Prog.log i fun d =>
    { d with securityEvents := d.securityEvents.insert (e.row (tick.eventTime i)) }

/-- Events of a request from the `i`-th on, in order. -/
def recordEvents : Nat → List EventFields → DbProg Unit
  | _, [] => pure ()
  | i, e :: es => do
      recordEvent cfg tick i e
      recordEvents (i + 1) es

/-- A row that was read before. -/
def reload {α : Type} (find : Db → Option α) : DbProg α := do
  let db ← Prog.get
  Prog.orRaise (find db)

/-! ### `generate` -/

section Generate

variable (req : GenerateRequest)

/-- `_log` -/
def logCall (usage : Usage) (guardrails : Guardrails) (errorCode : Option GenerateError) :
    DbProg Unit := do
  Prog.put (SentinelAI.logCall tick req usage guardrails errorCode)
  Prog.save 0

abbrev Outcome := Except Raised (Nat × GenerateResponse)

def refuse (statusCode : Nat) (code : GenerateError) (message : Str) (usage : Usage)
    (guardrails : Guardrails) (event : Option EventFields) : DbProg Outcome := do
  logCall tick req usage guardrails (some code)
  match event with
  | none => pure ()
  | some e => recordEvent cfg tick 1 e
  return .ok (statusCode, { guardrails, usage, error := some ⟨code, message⟩ })

def inspected : DbProg Unit :=
  let pii := (inspection cfg req).pii
  if pii.found then
    recordEvent cfg tick 0
      (requestEvent req .policy_violation "medium" "sensitive_data_inbound"
        ("Inbound content contained: ".toList ++ join ", " pii.types ++ ".".toList)
        [("types", .strs pii.types)])
  else pure ()

def scanned (llm : LLMResponse) : DbProg Unit :=
  let pii := checkPii cfg.U cfg.analyzer llm.text
  if pii.found then
    recordEvent cfg tick 1
      { requestEvent req .policy_violation
          (if "api_key".toList ∈ pii.types then "high" else "medium")
          "sensitive_information_disclosure"
          ("Model output contained: ".toList ++ join ", " pii.types ++ ".".toList)
          [("types", .strs pii.types), ("provider", .str llm.provider)] with
        model := some llm.model }
  else pure ()

def succeed (output : Json) (usage : Usage) (guardrails : Guardrails) : DbProg Outcome := do
  logCall tick req usage guardrails none
  return .ok (200, { output, guardrails, usage })

def answered (llm : LLMResponse) : DbProg Outcome := do
  scanned cfg tick req llm
  let guardrails := answeredGuardrails cfg req llm
  let usage := answeredUsage tick llm
  match req.schemaName.filter (· ≠ []) with
  | none => succeed tick req (.str llm.text) usage guardrails
  | some name =>
      match validateStructuredOutput cfg.modelValidateJson name fun _ => llm.text with
      | .ok (value, retried) =>
          succeed tick req value usage { guardrails with schemaValid := true, retried }
      | .error .SchemaValidationFailed =>
          refuse cfg tick req 422 .schema_validation_failed
            "Structured output failed validation after retry." usage
            { guardrails with schemaValid := false } none
      | .error .KeyError => return .error .unhandled

def called (provider : Provider) : DbProg Outcome :=
  match activeProvider tick req provider req.messages with
  | .ok llm => answered cfg tick req llm
  | .error (.missing_credentials message) =>
      refuse cfg tick req 400 .provider_credentials_missing message noUsage (inspection cfg req)
        none
  | .error (.failed message) =>
      refuse cfg tick req 502 .provider_failed message noUsage (inspection cfg req) none

/-- What becomes of the call, and the counters after it. -/
def generateFor (provider : Provider) (counts : SessionCounts) (user : User) :
    DbProg (Outcome × SessionCounts) := do
  let injection := (inspection cfg req).injection
  if (inboundText req).length > MAX_INPUT_CHARS then
    let out ← refuse cfg tick req 413 .input_too_large "Input exceeds 50000 character limit."
      noUsage {}
      (some (requestEvent req .request_blocked "low" "input_size" "Input over 50000 chars rejected."
        [("length", .int (inboundText req).length)]))
    return (out, counts)
  else
    inspected cfg tick req
    if injection.flagged then
      let out ← refuse cfg tick req 400 .injection_detected
        "Inbound content matched a known attack pattern." noUsage (inspection cfg req)
        (some (requestEvent req .attack_attempt "high" "prompt_injection"
          ("Blocked; matched: ".toList ++ join ", " injection.matchedPatterns ++ ".".toList)
          [("matched_patterns", .strs injection.matchedPatterns), ("blocked", .bool true)]))
      return (out, counts)
    else
      let (allowed, counts) :=
        checkAndIncrement counts (quotaKey user) cfg.settings.rateLimitPerSession
      if allowed then
        let out ← called cfg tick req provider
        return (out, counts)
      else
        let out ← refuse cfg tick req 429 .rate_limit_exceeded "Per-session call limit reached."
          noUsage (inspection cfg req)
          (some (requestEvent req .request_blocked "low" "rate_limit"
            "Per-session call limit reached." []))
        return (out, counts)

def generate (provider : Provider) (counts : SessionCounts) (user : User) :
    DbProg (Outcome × SessionCounts) := do
  let db ← Prog.get
  match ownedProject db req.projectId user.id with
  | .error e => return (.error e, counts)
  | .ok _ => generateFor cfg tick req provider counts user

end Generate

/-! ### `sync_security_findings` -/

section Sync

variable (project : Project)

/-- The commits of a sync. -/
def findingsCommit : Nat := 0

def runCommit : Nat := 1

/-- `sync_findings`: the keys of the findings created. -/
def syncFindings (results : List TestResult) : DbProg (List Int) := do
  let db ← Prog.get
  let created :=
    (SentinelAI.syncFindings db.findings results (some project.id) tick.findingTime).1
  Prog.put fun d =>
    { d with
      findings :=
        (SentinelAI.syncFindings d.findings results (some project.id) tick.findingTime).2 }
  if created.isEmpty then return []
  else
    Prog.save findingsCommit
    return created.map (·.id)

def recordTestRun (results : List TestResult) (source : Str) : DbProg Unit := do
  Prog.put fun d =>
    { d with
      testRunResults :=
        SentinelAI.recordTestRun d.testRunResults results (some project.id) source tick.runId }
  Prog.save runCommit

/-- The events of the findings with these keys. -/
def recordOpened : Nat → List Int → DbProg Unit
  | _, [] => pure ()
  | i, key :: keys => do
      let f ← reload fun db => db.findings.find? key
      recordEvent cfg tick i (openedEvent project f)
      recordOpened (i + 1) keys

/-- The events of the regressions against the baseline with this key. -/
def recordRegressed (key : Int) : Nat → List DiffEntry → DbProg Unit
  | _, [] => pure ()
  | i, r :: rs => do
      let baseline ← reload fun db => db.baselines.find? key
      recordEvent cfg tick i (regressedEvent project baseline tick.runId r)
      recordRegressed key (i + 1) rs

def recordRegressions (i : Nat) : DbProg Unit := do
  let db ← Prog.get
  match newestBaseline (of db.baselines project.id) with
  | none => pure ()
  | some baseline =>
      if baseline.runId = tick.runId then pure ()
      else
        recordRegressed cfg tick project baseline.id i
          (compareRuns (runSnapshot db.testRunResults baseline.runId)
            (runSnapshot db.testRunResults tick.runId)).regressions

/-- The findings with these keys. -/
def reloadFindings : List Int → DbProg (List Finding)
  | [] => pure []
  | key :: keys => do
      let f ← reload fun db => db.findings.find? key
      let fs ← reloadFindings keys
      return f :: fs

def syncSecurityFindings (category : Option Str) (source : Str) : DbProg Answer := do
  let results := runSuite (selectTests cfg category) tick.testTime
  let created ← syncFindings tick project results
  recordTestRun tick project results source
  recordOpened cfg tick project 0 created
  recordRegressions cfg tick project created.length
  let findings ← reloadFindings created
  return .ok (.ok (.obj [("results", resultsToJson results),
    ("findings_created", .arr (findings.map fun f => findingToDict f (some project)))]))

end Sync

/-! ### `evaluate_agent_action` and `_resolve` -/

/-- `evaluate_and_record`: the key of the row. -/
def evaluateAndRecord (profile : AgentProfile) (body : ActionRequest) (projectId : Option Int) :
    DbProg Int := do
  let db ← Prog.get
  Prog.put fun d =>
    { d with
      agentActionLogs :=
        d.agentActionLogs.insert (decisionRow cfg.U profile body projectId tick.now) }
  Prog.save 0
  return Table.nextKey db.agentActionLogs.rows

def evaluateAction (user : User) (agentId : Str) (body : ActionRequest) (projectId : Option Int) :
    DbProg (Except Raised AgentActionLog) :=
  match loadProfiles cfg.U cfg.profiles with
  | none => return .error .unhandled
  | some profiles =>
      match profiles.find? (·.agentId == cfg.U.canon agentId) with
      | none => return .error (.http 404 "agent_not_found" "No such agent profile.")
      | some profile => do
          let db ← Prog.get
          match ownedIfGiven user db projectId with
          | .error e => return .error e
          | .ok () =>
              let key ← evaluateAndRecord cfg tick profile body projectId
              let row ← reload fun db => db.agentActionLogs.find? key
              recordEvents cfg tick 0 (denialEvent profile (evaluate cfg.U profile body) row)
              let row ← reload fun db => db.agentActionLogs.find? key
              return .ok row

def resolveApproval (logId : Int) (approver : Str) (approve : Bool) :
    DbProg (Except ApprovalError AgentActionLog) := do
  let db ← Prog.get
  match checkApproval cfg.U db.agentActionLogs logId approver with
  | .error e => return .error e
  | .ok who =>
      Prog.put fun d =>
        { d with agentActionLogs := commitApproval d.agentActionLogs logId who approve tick.now }
      Prog.save 0
      let row ← reload fun db => db.agentActionLogs.find? logId
      return .ok row

/-- `_resolve` -/
def resolveAction (logId : Int) (approver : Str) (approve : Bool) : DbProg Answer := do
  match ← resolveApproval cfg tick logId approver approve with
  | .ok row => return .ok (.ok (actionLogToDict row))
  | .error e =>
      let db ← Prog.get
      recordEvents cfg tick 0 (bypassEvent db.agentActionLogs logId e)
      return .error (.http e.statusCode e.code.value e.message)

end InSession

/-! ### Requests -/

section Requests

variable (cfg : Config) (tick : Tick) (record : Nat → Option RecordFault)

/-- The result of a program, or an exception, and the database after it.  No commit of the program
itself fails. -/
def inSession {α : Type} (p : DbProg (Except Raised α)) (db : Db) : Except Raised α × Db :=
  let r := p.run Db.business ⟨fun _ => false, record⟩ db
  (r.1.getD (.error .unhandled), r.2)

def openBodyIn (w : World) (client : Option Str) : OpenRoute → Answer × World
  | .approve_agent_action logId approver =>
      let r := inSession record (InSession.resolveAction cfg tick logId approver true) w.db
      (r.1, { w with db := r.2 })
  | .reject_agent_action logId approver =>
      let r := inSession record (InSession.resolveAction cfg tick logId approver false) w.db
      (r.1, { w with db := r.2 })
  | route => openBody cfg tick w client route

def userBodyIn (user : User) (w : World) : UserRoute → Answer × World
  | .evaluate_agent_action agentId body projectId =>
      let r := inSession record (InSession.evaluateAction cfg tick user agentId body projectId) w.db
      (r.1.map fun row => .ok (actionLogToDict row), { w with db := r.2 })
  | .generate req =>
      let r := (InSession.generate cfg tick req (getProvider tick.sdks) w.counts user).run
        Db.business ⟨fun _ => false, record⟩ w.db
      let (out, counts) := r.1.getD (.error .unhandled, w.counts)
      (out.map fun g => ⟨g.1, .json g.2.toJson⟩, { w with db := r.2, counts })
  | route => userBody cfg tick user w route

def keyBodyIn (project : Project) (db : Db) : KeyRoute → Answer × Db
  | .sync_security_findings category source =>
      inSession record (InSession.syncSecurityFindings cfg tick project category source) db
  | route => keyBody cfg tick project db route

def Request.dispatchIn (r : Request) (w : World) : Answer × World :=
  match r.endpoint with
  | .unguarded route => openBodyIn cfg tick record w r.client route
  | .ofUser route =>
      match getCurrentUser cfg tick.now w.db r.authorization with
      | .error e => (.error e, w)
      | .ok user => userBodyIn cfg tick record user w route
  | .ofProject _ _ => r.dispatch cfg tick w
  | .ofKey projectId route =>
      match requireProjectOrApiKey cfg tick w.db r.authorization projectId with
      | (.error e, db) => (.error e, { w with db })
      | (.ok project, db) =>
          let a := keyBodyIn cfg tick record project db route
          (a.1, { w with db := a.2 })

/-- A request is served, and the writes of events fail as `record` says. -/
def handleIn (w : World) (r : Request) : Response × World :=
  match r.gate cfg tick with
  | .error e => (e.response, w)
  | .ok () =>
      let a := r.dispatchIn cfg tick record w
      (a.1.response, a.2)

end Requests

end SentinelAI
