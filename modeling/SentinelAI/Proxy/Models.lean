import SentinelAI.Support.Json
import SentinelAI.Support.Table
import SentinelAI.Proxy.AgentPolicy

/-!
# Proxy — Models

`proxy/db/models.py`: the rows of the ten tables, and the database.  A column with a fixed set of
values has an enumeration for its type; the value the column stores is its `value`.
-/

namespace SentinelAI
open Support

/-- `proxy/engine/models.py` -/
inductive Severity where
  | low
  | medium
  | high
  | critical
deriving DecidableEq, Repr

def Severity.value : Severity → Str
  | .low => "low"
  | .medium => "medium"
  | .high => "high"
  | .critical => "critical"

/-- `proxy/engine/models.py` -/
inductive TestStatus where
  | PASS
  | FAIL
  | ERROR
  | NOT_RUN
  | INCONCLUSIVE
deriving DecidableEq, Repr

def TestStatus.value : TestStatus → Str
  | .PASS => "PASS"
  | .FAIL => "FAIL"
  | .ERROR => "ERROR"
  | .NOT_RUN => "NOT_RUN"
  | .INCONCLUSIVE => "INCONCLUSIVE"

/-- `proxy/findings.py` -/
inductive FindingStatus where
  | OPEN
  | ACKNOWLEDGED
  | RESOLVED
  | RETEST_REQUIRED
deriving DecidableEq, Repr

def FindingStatus.value : FindingStatus → Str
  | .OPEN => "OPEN"
  | .ACKNOWLEDGED => "ACKNOWLEDGED"
  | .RESOLVED => "RESOLVED"
  | .RETEST_REQUIRED => "RETEST_REQUIRED"

/-- What the policy layer made of an action. -/
inductive ExecutionResult where
  | blocked
  | allowed_not_executed
  | pending_approval
  | approved_not_executed
  | rejected
deriving DecidableEq, Repr

def ExecutionResult.value : ExecutionResult → Str
  | .blocked => "blocked"
  | .allowed_not_executed => "allowed_not_executed"
  | .pending_approval => "pending_approval"
  | .approved_not_executed => "approved_not_executed"
  | .rejected => "rejected"

/-- `proxy/events.py`: the types of event. -/
inductive EventType where
  | attack_attempt
  | request_blocked
  | policy_violation
  | finding_opened
  | regression_detected
  | suspicious_tool_activity
deriving DecidableEq, Repr

def EventType.value : EventType → Str
  | .attack_attempt => "attack_attempt"
  | .request_blocked => "request_blocked"
  | .policy_violation => "policy_violation"
  | .finding_opened => "finding_opened"
  | .regression_detected => "regression_detected"
  | .suspicious_tool_activity => "suspicious_tool_activity"

/-- The error codes of `POST /v1/generate`. -/
inductive GenerateError where
  | input_too_large
  | injection_detected
  | rate_limit_exceeded
  | provider_credentials_missing
  | provider_failed
  | schema_validation_failed
deriving DecidableEq, Repr

def GenerateError.value : GenerateError → Str
  | .input_too_large => "input_too_large"
  | .injection_detected => "injection_detected"
  | .rate_limit_exceeded => "rate_limit_exceeded"
  | .provider_credentials_missing => "provider_credentials_missing"
  | .provider_failed => "provider_failed"
  | .schema_validation_failed => "schema_validation_failed"

/-! ### Rows -/

structure User where
  id : Int
  email : Str
  passwordHash : Str
  createdAt : Time

structure Workspace where
  id : Int
  ownerUserId : Int
  name : Str
  createdAt : Time

structure Project where
  id : Int
  workspaceId : Int
  name : Str
  targetType : Str
  repoUrl : Option Str
  description : Option Str
  createdAt : Time

structure CallLog where
  id : Int
  projectId : Option Int
  sessionId : Str
  operation : Str
  provider : Str
  model : Str
  latencyMs : Int
  tokensIn : Int
  tokensOut : Int
  costEstimateUsd : Rat
  guardrails : Json
  errorCode : Option GenerateError
  createdAt : Time

structure Finding where
  id : Int
  projectId : Option Int
  testId : Str
  category : Str
  severity : Severity
  title : Str
  description : Str
  affectedTarget : Str
  evidence : Json
  reproduction : Json
  provider : Str
  model : Str
  status : FindingStatus
  createdAt : Time
  updatedAt : Time

structure TestRunResult where
  id : Int
  projectId : Option Int
  runId : Str
  testId : Str
  category : Str
  severity : Severity
  status : TestStatus
  provider : Str
  model : Str
  executionSource : Str
  executedAt : Time

structure AgentActionLog where
  id : Int
  projectId : Option Int
  agentId : Str
  tool : Str
  action : Str
  dataSource : Option Str
  decision : Decision
  reason : Str
  executionResult : ExecutionResult
  approvedBy : Option Str
  createdAt : Time
  updatedAt : Time
deriving DecidableEq

structure SecurityEvent where
  id : Int
  projectId : Option Int
  eventType : EventType
  severity : Str
  category : Str
  source : Str
  application : Option Str
  model : Option Str
  summary : Str
  details : Json
  createdAt : Time

structure ProjectAPIKey where
  id : Int
  projectId : Int
  name : Str
  keyHash : Str
  keyPrefix : Str
  createdAt : Time
  lastUsedAt : Option Time
  revokedAt : Option Time

structure Baseline where
  id : Int
  projectId : Option Int
  name : Str
  runId : Str
  createdAt : Time

instance : Row User := ⟨(·.id), fun i r => { r with id := i }, fun _ _ => rfl⟩
instance : Row Workspace := ⟨(·.id), fun i r => { r with id := i }, fun _ _ => rfl⟩
instance : Row Project := ⟨(·.id), fun i r => { r with id := i }, fun _ _ => rfl⟩
instance : Row CallLog := ⟨(·.id), fun i r => { r with id := i }, fun _ _ => rfl⟩
instance : Row Finding := ⟨(·.id), fun i r => { r with id := i }, fun _ _ => rfl⟩
instance : Row TestRunResult := ⟨(·.id), fun i r => { r with id := i }, fun _ _ => rfl⟩
instance : Row AgentActionLog := ⟨(·.id), fun i r => { r with id := i }, fun _ _ => rfl⟩
instance : Row SecurityEvent := ⟨(·.id), fun i r => { r with id := i }, fun _ _ => rfl⟩
instance : Row ProjectAPIKey := ⟨(·.id), fun i r => { r with id := i }, fun _ _ => rfl⟩
instance : Row Baseline := ⟨(·.id), fun i r => { r with id := i }, fun _ _ => rfl⟩

/-! ### Rows of a project -/

/-- Rows that may belong to a project. -/
class InProject (ρ : Type*) [Row ρ] where
  projectId : ρ → Option Int
  projectId_setKey : ∀ i r, projectId (Row.setKey i r) = projectId r

attribute [simp] InProject.projectId_setKey

instance : InProject CallLog := ⟨(·.projectId), fun _ _ => rfl⟩
instance : InProject Finding := ⟨(·.projectId), fun _ _ => rfl⟩
instance : InProject TestRunResult := ⟨(·.projectId), fun _ _ => rfl⟩
instance : InProject AgentActionLog := ⟨(·.projectId), fun _ _ => rfl⟩
instance : InProject SecurityEvent := ⟨(·.projectId), fun _ _ => rfl⟩
instance : InProject ProjectAPIKey := ⟨fun k => some k.projectId, fun _ _ => rfl⟩
instance : InProject Baseline := ⟨(·.projectId), fun _ _ => rfl⟩

section Of

variable {ρ : Type*} [Row ρ] [InProject ρ] {t : Table ρ} {r : ρ} {p : Int}

/-- `WHERE project_id = p` -/
def of (t : Table ρ) (p : Int) : List ρ :=
  t.rows.filter fun r => InProject.projectId r == some p

theorem mem_of : r ∈ of t p ↔ r ∈ t.rows ∧ InProject.projectId r = some p := by
  simp [of]

/-- A row of another project is not seen. -/
theorem of_insert (h : InProject.projectId r ≠ some p) : of (t.insert r) p = of t p :=
  Table.filter_insert (by simpa [Table.stored] using h)

/-- Nor is a change to a row of another project that leaves it there. -/
theorem of_modify {i : Int} {f : ρ → ρ}
    (h : ∀ r ∈ t.rows, Row.key r = i → InProject.projectId r ≠ some p)
    (hf : ∀ r, InProject.projectId (f r) = InProject.projectId r) :
    of (t.modify i f) p = of t p := by
  refine Table.filter_modify fun r hr hk => ?_
  have := h r hr hk
  simp [hf, this]

end Of

/-! ### The database -/

@[ext] structure Db where
  users : Table User
  workspaces : Table Workspace
  projects : Table Project
  callLogs : Table CallLog
  findings : Table Finding
  testRunResults : Table TestRunResult
  agentActionLogs : Table AgentActionLog
  securityEvents : Table SecurityEvent
  apiKeys : Table ProjectAPIKey
  baselines : Table Baseline

/-- The database before the first request. -/
def Db.empty : Db where
  users := .empty
  workspaces := .empty
  projects := .empty
  callLogs := .empty
  findings := .empty
  testRunResults := .empty
  agentActionLogs := .empty
  securityEvents := .empty
  apiKeys := .empty
  baselines := .empty

end SentinelAI
