import SentinelAI.Proxy.Models

/-!
# Proxy — Agent actions

`proxy/agent_actions.py`: recording a policy decision, and the human step on a pending one.
`resolve_approval` reads the row and runs its checks, then updates the row and commits: these are
`checkApproval` and `commitApproval`, which `resolveApproval` runs one after the other.
-/

namespace SentinelAI
open Support

def resultByDecision : Decision → ExecutionResult
  | .ALLOW => .allowed_not_executed
  | .DENY => .blocked
  | .REQUIRE_APPROVAL => .pending_approval

inductive ApprovalCode where
  | action_not_found
  | not_pending
  | approver_required
  | self_approval_forbidden
deriving DecidableEq, Repr

def ApprovalCode.value : ApprovalCode → Str
  | .action_not_found => "action_not_found"
  | .not_pending => "not_pending"
  | .approver_required => "approver_required"
  | .self_approval_forbidden => "self_approval_forbidden"

structure ApprovalError where
  statusCode : Nat
  code : ApprovalCode
  message : Str
deriving DecidableEq

variable (U : Ucd)

/-- The row that records the evaluation of `request`, before the table gives it its key. -/
def decisionRow (profile : AgentProfile) (request : ActionRequest) (projectId : Option Int)
    (now : Time) : AgentActionLog :=
  let decision := evaluate U profile request
  { id := 0
    projectId
    agentId := profile.agentId
    tool := U.canon request.tool
    action := U.canon request.action
    -- an empty data source is recorded as none
    dataSource := (request.dataSource.filter (· ≠ [])).map U.canon
    decision := decision.decision
    reason := decision.reason
    executionResult := resultByDecision decision.decision
    approvedBy := none
    createdAt := now
    updatedAt := now }

def evaluateAndRecord (t : Table AgentActionLog) (profile : AgentProfile) (request : ActionRequest)
    (projectId : Option Int) (now : Time) :
    PolicyDecision × AgentActionLog × Table AgentActionLog :=
  let row := decisionRow U profile request projectId now
  (evaluate U profile request, t.stored row, t.insert row)

/-- The read step: the row and the checks on it.  Returns the approver's canonical name. -/
def checkApproval (t : Table AgentActionLog) (logId : Int) (approver : Str) :
    Except ApprovalError Str :=
  match t.find? logId with
  | none => .error ⟨404, .action_not_found, "No such agent action."⟩
  | some row =>
      if row.executionResult ≠ .pending_approval then
        .error ⟨409, .not_pending,
          "Action is '" ++ row.executionResult.value ++ "', not pending approval."⟩
      else
        let who := U.canon approver
        if who = [] then
          .error ⟨422, .approver_required, "An approver identity is required."⟩
        else if who = row.agentId then
          .error ⟨403, .self_approval_forbidden, "An agent cannot approve its own action."⟩
        else .ok who

/-- The outcome of an approval or a rejection. -/
def resolution (approve : Bool) : ExecutionResult :=
  if approve then .approved_not_executed else .rejected

/-- The row with the three columns that the update sets. -/
def AgentActionLog.resolved (row : AgentActionLog) (who : Str) (approve : Bool) (now : Time) :
    AgentActionLog :=
  { row with approvedBy := some who, executionResult := resolution approve, updatedAt := now }

/-- The commit step: `UPDATE … WHERE id = logId`. -/
def commitApproval (t : Table AgentActionLog) (logId : Int) (who : Str) (approve : Bool)
    (now : Time) : Table AgentActionLog :=
  t.modify logId fun row => row.resolved who approve now

def resolveApproval (t : Table AgentActionLog) (logId : Int) (approver : Str) (approve : Bool)
    (now : Time) : Except ApprovalError AgentActionLog × Table AgentActionLog :=
  match checkApproval U t logId approver with
  | .error e => (.error e, t)
  | .ok who =>
      let t' := commitApproval t logId who approve now
      -- the row is read back after the commit
      match t'.find? logId with
      | some row => (.ok row, t')
      | none => (.error ⟨404, .action_not_found, "No such agent action."⟩, t')

def actionLogToDict (r : AgentActionLog) : Json :=
  .obj [("id", .int r.id), ("project_id", .opt .int r.projectId), ("agent_id", .str r.agentId),
    ("tool", .str r.tool), ("action", .str r.action), ("data_source", .opt .str r.dataSource),
    ("decision", .str r.decision.value), ("reason", .str r.reason),
    ("execution_result", .str r.executionResult.value), ("approved_by", .opt .str r.approvedBy),
    ("created_at", .time r.createdAt), ("updated_at", .time r.updatedAt)]

/-! ### What the two steps do -/

/-- Resolved by a person. -/
def ExecutionResult.Resolved (r : ExecutionResult) : Prop :=
  r = .approved_not_executed ∨ r = .rejected

theorem resolved_resolution (approve : Bool) : (resolution approve).Resolved := by
  cases approve
  · exact .inr rfl
  · exact .inl rfl

theorem ExecutionResult.Resolved.ne_pending {r : ExecutionResult} (h : r.Resolved) :
    r ≠ .pending_approval := by
  rcases h with rfl | rfl <;> decide

variable {U}

/-- The read step lets through a pending row and an approver that is a name and not its agent. -/
theorem checkApproval_eq_ok {t : Table AgentActionLog} {logId : Int} {approver who : Str} :
    checkApproval U t logId approver = .ok who ↔
      ∃ row, t.find? logId = some row ∧ row.executionResult = .pending_approval ∧
        who = U.canon approver ∧ who ≠ [] ∧ who ≠ row.agentId := by
  unfold checkApproval
  cases hf : t.find? logId with
  | none => simp
  | some row =>
      by_cases hp : row.executionResult = .pending_approval
      · by_cases hw : U.canon approver = []
        · simp only [hp, hw, ne_eq, not_true_eq_false, if_false, if_true, reduceCtorEq, false_iff,
            not_exists]
          rintro r ⟨-, -, rfl, h, -⟩
          exact h rfl
        · by_cases ha : U.canon approver = row.agentId
          · simp only [hp, ha, ne_eq, not_true_eq_false, if_false, ha ▸ hw, if_true, reduceCtorEq,
              false_iff, not_exists]
            rintro r ⟨h, -, rfl, -, h'⟩
            cases h
            exact h' rfl
          · simp only [hp, hw, ha, ne_eq, not_true_eq_false, if_false, Except.ok.injEq,
              Option.some.injEq]
            constructor
            · rintro rfl; exact ⟨row, rfl, hp, rfl, hw, ha⟩
            · rintro ⟨_, -, -, rfl, -⟩; rfl
      · simp only [hp, ne_eq, not_false_eq_true, if_true, reduceCtorEq, Option.some.injEq,
          false_iff, not_exists]
        rintro r ⟨rfl, h, -⟩
        exact hp h

theorem mem_commitApproval {t : Table AgentActionLog} {logId : Int} {who : Str} {approve : Bool}
    {now : Time} {s : AgentActionLog} :
    s ∈ (commitApproval t logId who approve now).rows ↔ (s ∈ t.rows ∧ s.id ≠ logId) ∨
      ∃ r ∈ t.rows, r.id = logId ∧ s = r.resolved who approve now := by
  rw [commitApproval, Table.mem_modify]
  refine or_congr Iff.rfl (exists_congr fun r => and_congr_right fun _ => ?_)
  constructor
  · rintro ⟨rfl, h⟩; exact ⟨rfl, h⟩
  · rintro ⟨rfl, h⟩; exact ⟨rfl, h⟩

/-- `resolve_approval` either reports an error and changes nothing, or commits what the read step
let through. -/
theorem resolveApproval_cases (U : Ucd) (t : Table AgentActionLog) (logId : Int) (approver : Str)
    (approve : Bool) (now : Time) :
    (∃ e, checkApproval U t logId approver = .error e ∧
      resolveApproval U t logId approver approve now = (.error e, t)) ∨
    ∃ row who, t.find? logId = some row ∧ checkApproval U t logId approver = .ok who ∧
      resolveApproval U t logId approver approve now =
        (.ok (row.resolved who approve now), commitApproval t logId who approve now) := by
  unfold resolveApproval
  cases hc : checkApproval U t logId approver with
  | error e => exact .inl ⟨e, rfl, rfl⟩
  | ok who =>
      obtain ⟨row, hf, -⟩ := checkApproval_eq_ok.mp hc
      obtain ⟨hr, hk⟩ := Table.find?_eq_some_iff.mp hf
      have hf' : (commitApproval t logId who approve now).find? logId =
          some (row.resolved who approve now) :=
        Table.find?_eq_some_iff.mpr ⟨mem_commitApproval.mpr (.inr ⟨row, hr, hk, rfl⟩), hk⟩
      exact .inr ⟨row, who, hf, rfl, by simp only [hf']⟩

end SentinelAI
