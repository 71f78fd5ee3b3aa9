import SentinelAI.Support.Runs
import SentinelAI.Proxy.AgentActions

/-!
# Properties — Approval

The table of agent actions as a machine.  Its two operations are those of `agent_actions.py`,
`evaluate_and_record` and `resolve_approval`, each taken as one step; the rows come from nowhere
else.

* `approval_machine`: along every run the outcome of a row is one its decision admits, an approver
  is recorded exactly on a resolved row, a row that is not pending stays as it is, and a refused
  resolution changes nothing.
-/

namespace SentinelAI
open Support

/-- A call of the two operations, with the time it is made at. -/
inductive ActionCall where
  | evaluate (profile : AgentProfile) (request : ActionRequest) (projectId : Option Int)
      (now : Time)
  | resolve (logId : Int) (approver : Str) (approve : Bool) (now : Time)

variable (U : Ucd)

def ActionCall.run (t : Table AgentActionLog) : ActionCall → Table AgentActionLog
  | .evaluate profile request projectId now =>
      (evaluateAndRecord U t profile request projectId now).2.2
  | .resolve logId approver approve now => (resolveApproval U t logId approver approve now).2

/-- One call made on the table. -/
def ActionStep (t : Table AgentActionLog) (c : ActionCall) (t' : Table AgentActionLog) : Prop :=
  t' = c.run U t

/-- What holds of a row at every time. -/
structure RowOk (row : AgentActionLog) : Prop where
  allow : row.decision = .ALLOW → row.executionResult = .allowed_not_executed
  deny : row.decision = .DENY → row.executionResult = .blocked
  approval : row.decision = .REQUIRE_APPROVAL →
    row.executionResult = .pending_approval ∨ row.executionResult.Resolved
  resolved : (∃ who, row.approvedBy = some who) ↔ row.executionResult.Resolved
  approver : ∀ who, row.approvedBy = some who → who ≠ [] ∧ U.canon who = who ∧ who ≠ row.agentId

variable {U}

/-! ### One call -/

theorem resultByDecision_not_resolved (d : Decision) : ¬ (resultByDecision d).Resolved := by
  cases d <;> simp [ExecutionResult.Resolved, resultByDecision]

/-- A row as it is first recorded. -/
theorem rowOk_decisionRow (profile : AgentProfile) (request : ActionRequest)
    (projectId : Option Int) (now : Time) (id : Int) :
    RowOk U { decisionRow U profile request projectId now with id := id } where
  allow h := congrArg resultByDecision h
  deny h := congrArg resultByDecision h
  approval h := .inl (congrArg resultByDecision h)
  resolved := by
    refine iff_of_false ?_ (resultByDecision_not_resolved _)
    rintro ⟨who, h⟩
    cases h
  approver _ h := nomatch h

/-- Only a row that requires approval is ever pending. -/
theorem RowOk.decision_of_pending {row : AgentActionLog} (h : RowOk U row)
    (hp : row.executionResult = .pending_approval) : row.decision = .REQUIRE_APPROVAL := by
  cases hd : row.decision with
  | ALLOW => exact absurd (hp.symm.trans (h.allow hd)) (by decide)
  | DENY => exact absurd (hp.symm.trans (h.deny hd)) (by decide)
  | REQUIRE_APPROVAL => rfl

/-- The update of a pending row, for an approver that the read step let through. -/
theorem RowOk.resolve {row : AgentActionLog} (h : RowOk U row)
    (hp : row.executionResult = .pending_approval) {approver : Str} (hw : U.canon approver ≠ [])
    (ha : U.canon approver ≠ row.agentId) (approve : Bool) (now : Time) :
    RowOk U (row.resolved (U.canon approver) approve now) where
  allow hd := absurd ((h.decision_of_pending hp).symm.trans hd) (by decide)
  deny hd := absurd ((h.decision_of_pending hp).symm.trans hd) (by decide)
  approval _ := .inr (resolved_resolution approve)
  resolved := iff_of_true ⟨_, rfl⟩ (resolved_resolution approve)
  approver := by
    rintro who ⟨⟩
    exact ⟨hw, U.canon_canon approver, ha⟩

/-- A row after a call is one from before, a new one, or a pending one resolved. -/
theorem mem_run {t : Table AgentActionLog} {c : ActionCall} {s : AgentActionLog}
    (h : s ∈ (c.run U t).rows) :
    s ∈ t.rows ∨
    (∃ profile request projectId now id,
      s = { decisionRow U profile request projectId now with id := id }) ∨
    ∃ row ∈ t.rows, ∃ approver approve now, row.executionResult = .pending_approval ∧
      U.canon approver ≠ [] ∧ U.canon approver ≠ row.agentId ∧
      s = row.resolved (U.canon approver) approve now := by
  cases c with
  | evaluate profile request projectId now =>
      rcases Table.mem_insert.mp h with h | h
      · exact .inl h
      · exact .inr (.inl ⟨profile, request, projectId, now, _, h⟩)
  | resolve logId approver approve now =>
      rw [ActionCall.run] at h
      rcases resolveApproval_cases U t logId approver approve now with
        ⟨e, -, he⟩ | ⟨row, who, hf, hc, he⟩
      · rw [he] at h
        exact .inl h
      · rw [he] at h
        rcases mem_commitApproval.mp h with ⟨h, -⟩ | ⟨r, hr, hk, rfl⟩
        · exact .inl h
        · obtain ⟨row', hf', hp, rfl, hw, ha⟩ := checkApproval_eq_ok.mp hc
          have : row' = r := Table.eq_of_key (Table.find?_eq_some_iff.mp hf').1 hr
            ((Table.find?_eq_some_iff.mp hf').2.trans hk.symm)
          subst this
          exact .inr (.inr ⟨_, hr, approver, approve, now, hp, hw, ha, rfl⟩)

/-- A call keeps every row that is not pending. -/
theorem mem_run_of_not_pending {t : Table AgentActionLog} (c : ActionCall) {row : AgentActionLog}
    (h : row ∈ t.rows) (hp : row.executionResult ≠ .pending_approval) :
    row ∈ (c.run U t).rows := by
  cases c with
  | evaluate profile request projectId now => exact Table.mem_insert.mpr (.inl h)
  | resolve logId approver approve now =>
      rw [ActionCall.run]
      rcases resolveApproval_cases U t logId approver approve now with
        ⟨e, -, he⟩ | ⟨row', who, hf, hc, he⟩
      · rw [he]
        exact h
      · rw [he]
        refine mem_commitApproval.mpr (.inl ⟨h, fun hk => ?_⟩)
        obtain ⟨r, hf', hp', -⟩ := checkApproval_eq_ok.mp hc
        have : row = r := Table.eq_of_key h (Table.find?_eq_some_iff.mp hf').1
          (hk.trans (Table.find?_eq_some_iff.mp hf').2.symm)
        exact hp (this ▸ hp')

/-! ### Runs -/

/-- Every row satisfies `RowOk`. -/
def RowsOk (U : Ucd) (t : Table AgentActionLog) : Prop := ∀ row ∈ t.rows, RowOk U row

theorem rowsOk_step {t t' : Table AgentActionLog} {c : ActionCall} (h : ActionStep U t c t')
    (ht : RowsOk U t) : RowsOk U t' := by
  subst h
  intro s hs
  rcases mem_run hs with h | ⟨profile, request, projectId, now, id, rfl⟩ |
    ⟨row, hr, approver, approve, now, hp, hw, ha, rfl⟩
  · exact ht s h
  · exact rowOk_decisionRow profile request projectId now id
  · exact (ht row hr).resolve hp hw ha approve now

/-- **The approval machine.**  In every state `t` that calls lead to from the empty table, and
through every further run of calls from there to `t'`:
* each row is as `RowOk` says;
* the rows that are not pending are found in `t'` as they are in `t`;
* a resolution of `t` that is refused leaves `t`. -/
theorem approval_machine {cs ds : List ActionCall} {t t' : Table AgentActionLog}
    (h : Run (ActionStep U) .empty cs t) (h' : Run (ActionStep U) t ds t') :
    (∀ row ∈ t.rows, RowOk U row) ∧
    (∀ row ∈ t.rows, row.executionResult ≠ .pending_approval → t'.find? row.id = some row) ∧
    (∀ logId approver approve now e,
      (resolveApproval U t logId approver approve now).1 = .error e →
        (resolveApproval U t logId approver approve now).2 = t) := by
  refine ⟨?_, fun row hr hp => ?_, fun logId approver approve now e he => ?_⟩
  · exact h.invariant (I := RowsOk U) (fun _ _ _ hs => rowsOk_step hs) fun _ hr => (nomatch hr)
  · refine Table.find?_eq_some_iff.mpr ⟨?_, rfl⟩
    refine h'.invariant (I := fun t => row ∈ t.rows) (fun s c s' hs hr => ?_) hr
    subst hs
    exact mem_run_of_not_pending c hr hp
  · rcases resolveApproval_cases U t logId approver approve now with
      ⟨e', -, h⟩ | ⟨row, who, -, -, h⟩
    · rw [h]
    · rw [h] at he
      cases he

/-- An approved deletion that is then rejected stays approved. -/
theorem approval_machine_bot :
    let bot : AgentProfile := ⟨"bot", "m", {"tickets".toList}, ∅,
      [⟨"tickets", "delete", .REQUIRE_APPROVAL⟩]⟩
    let t₁ := ActionCall.run Ucd.ascii .empty (.evaluate bot ⟨"tickets", "delete", none⟩ none 0)
    let t₂ := ActionCall.run Ucd.ascii t₁ (.resolve 1 " Ann" true 5)
    let t₃ := ActionCall.run Ucd.ascii t₂ (.resolve 1 "bob" false 9)
    t₃.find? 1 =
      some ⟨1, none, "bot", "tickets", "delete", none, .REQUIRE_APPROVAL,
        "Matched REQUIRE_APPROVAL rule for tickets.delete.", .approved_not_executed, some "ann",
        0, 5⟩ := by
  intro bot t₁ t₂ t₃
  have h₁ : ActionStep Ucd.ascii .empty (.evaluate bot ⟨"tickets", "delete", none⟩ none 0) t₁ := rfl
  have h₂ : ActionStep Ucd.ascii t₁ (.resolve 1 " Ann" true 5) t₂ := rfl
  have h₃ : ActionStep Ucd.ascii t₂ (.resolve 1 "bob" false 9) t₃ := rfl
  have h := (Run.one h₁).append (.one h₂)
  exact (approval_machine h (.one h₃)).2.1
    ⟨1, none, "bot", "tickets", "delete", none, .REQUIRE_APPROVAL,
      "Matched REQUIRE_APPROVAL rule for tickets.delete.", .approved_not_executed, some "ann", 0, 5⟩
    (.head _) (by decide)

end SentinelAI
