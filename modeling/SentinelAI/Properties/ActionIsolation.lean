import SentinelAI.Proxy.Api

/-!
# Properties — Action isolation

Whose agent actions a user sees and resolves.  An evaluation and a listing that name a project go
through `owned_project`; a listing that names none, an approval and a rejection do not.

* `actions_isolated_iff`: along every run, each user's requests return and change only actions of no
  project or of the user's own, exactly when each listing without a project has a stranger's actions
  beyond its limit, and each resolution that succeeds is of such an action.
* `actions_exposed`: a user who has a stranger's action listed and approves it.
-/

namespace SentinelAI
open Support

/-- The four endpoints of agent actions. -/
def Endpoint.onActions : Endpoint → Bool
  | .ofUser (.evaluate_agent_action _ _ _) | .ofUser (.list_agent_actions _ _ _)
  | .unguarded (.approve_agent_action _ _) | .unguarded (.reject_agent_action _ _) => true
  | _ => false

/-- The rows behind the answer to a request of `user`. -/
def returnedActions (cfg : Config) (tick : Tick) (user : User) (db : Db) :
    Endpoint → List AgentActionLog
  | .ofUser (.evaluate_agent_action agentId body projectId) =>
      (evaluateAction cfg tick user db agentId body projectId).1.toOption.toList
  | .ofUser (.list_agent_actions agentId n projectId) =>
      ((listActions cfg user db agentId n projectId).toOption.toList).flatten
  | .unguarded (.approve_agent_action logId approver) =>
      (resolveApproval cfg.U db.agentActionLogs logId approver true tick.now).1.toOption.toList
  | .unguarded (.reject_agent_action logId approver) =>
      (resolveApproval cfg.U db.agentActionLogs logId approver false tick.now).1.toOption.toList
  | _ => []

/-- `user` makes the request: the middleware lets it through, and its token is the user's. -/
def MadeBy (cfg : Config) (tick : Tick) (db : Db) (r : Request) (user : User) : Prop :=
  r.gate cfg tick = .ok () ∧ getCurrentUser cfg tick.now db r.authorization = .ok user

/-- The row is returned by the request, or is in the table on one side of it only. -/
def Touched (cfg : Config) (tick : Tick) (w : World) (r : Request) (user : User)
    (row : AgentActionLog) : Prop :=
  let after := (handle cfg tick w r).2.db.agentActionLogs.rows
  row ∈ returnedActions cfg tick user w.db r.endpoint ∨
    (row ∈ after ∧ row ∉ w.db.agentActionLogs.rows) ∨
      (row ∈ w.db.agentActionLogs.rows ∧ row ∉ after)

/-- The row belongs to no project, or to one of the user's. -/
def MayTouch (db : Db) (user : User) (row : AgentActionLog) : Prop :=
  ∀ p, row.projectId = some p → Owns db user.id p

/-- What the step touches for its user, the user may touch. -/
def IsolatesActions (cfg : Config) (w : World) (h : Tick × Happening) : Prop :=
  ∀ r user, h.2 = .request r → r.endpoint.onActions = true → MadeBy cfg h.1 w.db r user →
    ∀ row, Touched cfg h.1 w r user row → MayTouch w.db user row

/-- The condition on a resolution: if its action is pending and the approver is a name and not the
agent's, the user may touch it. -/
def MayResolve (cfg : Config) (db : Db) (user : User) (logId : Int) (approver : Str) : Prop :=
  ∀ row, db.agentActionLogs.find? logId = some row → row.executionResult = .pending_approval →
    cfg.U.canon approver ≠ [] → cfg.U.canon approver ≠ row.agentId → MayTouch db user row

/-- The condition on a listing that names no project: of the rows that match the agent, each one of
a stranger's project has the limit's number of rows before it. -/
def HiddenBeyond (cfg : Config) (db : Db) (user : User) (agentId : Option Str) (n : Int) : Prop :=
  ∀ row ∈ matchingActions cfg db agentId none, ¬ MayTouch db user row →
    0 ≤ n ∧ n ≤ (matchingActions cfg db agentId none).countP (Before (·.createdAt) · row)

def Confined (cfg : Config) (db : Db) (user : User) : Endpoint → Prop
  | .ofUser (.list_agent_actions agentId n none) => HiddenBeyond cfg db user agentId n
  | .unguarded (.approve_agent_action logId approver)
  | .unguarded (.reject_agent_action logId approver) => MayResolve cfg db user logId approver
  | _ => True

/-- Every request that a user makes is confined. -/
def ConfinesActions (cfg : Config) (w : World) (h : Tick × Happening) : Prop :=
  ∀ r user, h.2 = .request r → MadeBy cfg h.1 w.db r user → Confined cfg w.db user r.endpoint

/-! ### The four endpoints -/

variable {cfg : Config} {tick : Tick} {w : World} {user : User}

theorem ownedIfGiven_eq_ok {db : Db} {projectId : Option Int}
    (h : ownedIfGiven user db projectId = .ok ()) :
    ∀ p, projectId = some p → Owns db user.id p := by
  rintro p rfl
  rw [ownedIfGiven] at h
  cases ho : ownedProject db p user.id with
  | error e => rw [ho] at h; cases h
  | ok project => exact (owns_of_ownedProject ho).1

/-- An evaluation changes nothing but events, or records the row it returns under the project it
was given, which the user owns. -/
theorem evaluateAction_cases (cfg : Config) (tick : Tick) (user : User) (db : Db) (agentId : Str)
    (body : ActionRequest) (projectId : Option Int) :
    ((∃ e, (evaluateAction cfg tick user db agentId body projectId).1 = .error e) ∧
      (evaluateAction cfg tick user db agentId body projectId).2 = db) ∨
    ∃ profile row, ownedIfGiven user db projectId = .ok () ∧
      row = db.agentActionLogs.stored (decisionRow cfg.U profile body projectId tick.now) ∧
      (evaluateAction cfg tick user db agentId body projectId).1 = .ok row ∧
      (evaluateAction cfg tick user db agentId body projectId).2 =
        Db.recordEvents
          { db with
            agentActionLogs := db.agentActionLogs.insert
              (decisionRow cfg.U profile body projectId tick.now) }
          cfg tick 0 (denialEvent profile (evaluate cfg.U profile body) row) := by
  unfold evaluateAction
  cases loadProfiles cfg.U cfg.profiles with
  | none => exact .inl ⟨⟨_, rfl⟩, rfl⟩
  | some profiles =>
      dsimp only
      cases profiles.find? (·.agentId == cfg.U.canon agentId) with
      | none => exact .inl ⟨⟨_, rfl⟩, rfl⟩
      | some profile =>
          dsimp only
          cases ho : ownedIfGiven user db projectId with
          | error e => exact .inl ⟨⟨_, rfl⟩, rfl⟩
          | ok u => exact .inr ⟨profile, _, rfl, rfl, rfl, rfl⟩

theorem mayTouch_of_evaluated {r : Request} {agentId : Str} {body : ActionRequest}
    {projectId : Option Int}
    (he : r.endpoint = .ofUser (.evaluate_agent_action agentId body projectId))
    (hm : MadeBy cfg tick w.db r user) {row : AgentActionLog} (ht : Touched cfg tick w r user row) :
    MayTouch w.db user row := by
  have hh : (handle cfg tick w r).2.db =
      (evaluateAction cfg tick user w.db agentId body projectId).2 := by
    rw [handle_of_gate hm.1, Request.dispatch, he]
    dsimp only
    rw [hm.2]
    rfl
  unfold Touched at ht
  rw [hh, he] at ht
  dsimp only [returnedActions] at ht
  rcases evaluateAction_cases cfg tick user w.db agentId body projectId with
    ⟨⟨e, h₁⟩, h₂⟩ | ⟨profile, row', ho, hrow, h₁, h₂⟩
  · rw [h₁, h₂] at ht
    rcases ht with ht | ⟨h, h'⟩ | ⟨h, h'⟩
    · cases ht
    · exact absurd h h'
    · exact absurd h h'
  · rw [h₁, h₂, Db.recordEvents_eq] at ht
    have eq_row : row = row' := by
      rcases ht with ht | ⟨h, h'⟩ | ⟨h, h'⟩
      · exact List.mem_singleton.mp ht
      · exact hrow ▸ (Table.mem_insert.mp h).resolve_left h'
      · exact absurd (Table.mem_insert.mpr (.inl h)) h'
    subst eq_row
    subst hrow
    exact ownedIfGiven_eq_ok ho

/-- A listing touches the rows it returns. -/
theorem touched_list_iff {r : Request} {agentId : Option Str} {n : Int} {projectId : Option Int}
    (he : r.endpoint = .ofUser (.list_agent_actions agentId n projectId))
    (hm : MadeBy cfg tick w.db r user) {row : AgentActionLog} :
    Touched cfg tick w r user row ↔
      ∃ rows, listActions cfg user w.db agentId n projectId = .ok rows ∧ row ∈ rows := by
  have hh : (handle cfg tick w r).2 = w := by
    rw [handle_of_gate hm.1, Request.dispatch, he]
    dsimp only
    rw [hm.2]
    rfl
  unfold Touched
  rw [hh, he]
  dsimp only [returnedActions]
  cases listActions cfg user w.db agentId n projectId with
  | error e => simp [Except.toOption]
  | ok rows => simp [Except.toOption]

theorem matchingActions_sorted (db : Db) (agentId : Option Str) (projectId : Option Int) :
    (matchingActions cfg db agentId projectId).Pairwise fun r s => Row.key r < Row.key s :=
  db.agentActionLogs.sorted.filter _

/-- A listing. -/
theorem isolates_list_iff {r : Request} {agentId : Option Str} {n : Int} {projectId : Option Int}
    (he : r.endpoint = .ofUser (.list_agent_actions agentId n projectId))
    (hm : MadeBy cfg tick w.db r user) :
    (∀ row, Touched cfg tick w r user row → MayTouch w.db user row) ↔
      Confined cfg w.db user r.endpoint := by
  simp only [touched_list_iff he hm]
  rw [he, listActions]
  cases projectId with
  | some p =>
      refine iff_of_true ?_ trivial
      rintro row ⟨rows, hl, hr⟩
      cases ho : ownedIfGiven user w.db (some p) with
      | error e => rw [ho] at hl; cases hl
      | ok u =>
          rw [ho] at hl
          cases hl
          have hrow := mem_orderDesc.mp (mem_of_mem_limit hr)
          have hp : row.projectId = some p := by
            have := (List.mem_filter.mp hrow).2
            simp only [given, Bool.and_eq_true, beq_iff_eq] at this
            exact this.2
          intro q hq
          cases hp.symm.trans hq
          exact ownedIfGiven_eq_ok ho p rfl
  | none =>
      change (∀ row, (∃ rows, Except.ok _ = Except.ok rows ∧ row ∈ rows) → _) ↔
        HiddenBeyond _ _ _ _ _
      -- what is returned are the rows with less than `n` rows before them
      simp only [Except.ok.injEq, exists_eq_left',
        mem_limit_orderDesc (matchingActions_sorted _ _ _)]
      refine forall_congr' fun row => ?_
      rw [and_imp]
      refine imp_congr_right fun _ => ⟨fun h hn => ?_, fun h hc => ?_⟩
      · have := mt h hn
        omega
      · by_contra hn
        have := h hn
        omega

/-- A resolution touches the row that it updates, before and after. -/
theorem isolates_resolve_iff {r : Request} {logId : Int} {approver : Str} (approve : Bool)
    (hr : returnedActions cfg tick user w.db r.endpoint =
      (resolveApproval cfg.U w.db.agentActionLogs logId approver approve
        tick.now).1.toOption.toList)
    (hh : (handle cfg tick w r).2.db = (resolveAction cfg tick w.db logId approver approve).2) :
    (∀ row, Touched cfg tick w r user row → MayTouch w.db user row) ↔
      MayResolve cfg w.db user logId approver := by
  unfold Touched
  rw [hr, hh, resolveAction]
  rcases resolveApproval_cases cfg.U w.db.agentActionLogs logId approver approve tick.now with
    ⟨e, hc, he⟩ | ⟨row', who, hf, hc, he⟩
  · rw [he]
    dsimp only
    rw [Db.recordEvents_eq]
    -- refused: nothing is returned and the table stays
    refine iff_of_true ?_ fun row hf hp hw ha => ?_
    · rintro row (h | ⟨h, h'⟩ | ⟨h, h'⟩)
      · cases h
      · exact absurd h h'
      · exact absurd h h'
    · rw [checkApproval_eq_ok.mpr ⟨row, hf, hp, rfl, hw, ha⟩] at hc
      cases hc
  · rw [he]
    -- resolved: what is touched is the one row, as it was and as it is
    obtain ⟨row, hf', hp, rfl, hw, ha⟩ := checkApproval_eq_ok.mp hc
    cases hf.symm.trans hf'
    obtain ⟨hmem, hk⟩ := Table.find?_eq_some_iff.mp hf
    constructor
    · intro h row hf'' _ _ _
      cases hf.symm.trans hf''
      exact h (row'.resolved (cfg.U.canon approver) approve tick.now)
        (.inl (List.mem_singleton.mpr rfl))
    · rintro h row (hr | ⟨hr, hn⟩ | ⟨hr, hn⟩)
      · cases List.mem_singleton.mp hr
        exact h row' hf hp hw ha
      · rcases mem_commitApproval.mp hr with ⟨hr, -⟩ | ⟨r', hr', hk', rfl⟩
        · exact absurd hr hn
        · cases Table.eq_of_key hr' hmem (hk'.trans hk.symm)
          exact h row' hf hp hw ha
      · by_cases hid : row.id = logId
        · cases Table.eq_of_key hr hmem (hid.trans hk.symm)
          exact h row' hf hp hw ha
        · exact absurd (mem_commitApproval.mpr (.inl ⟨hr, hid⟩)) hn

/-! ### Runs -/

/-- One request. -/
theorem isolatesActions_iff (w : World) (h : Tick × Happening) :
    IsolatesActions cfg w h ↔ ConfinesActions cfg w h := by
  refine forall_congr' fun r => forall_congr' fun user => imp_congr_right fun _ => ?_
  by_cases ho : r.endpoint.onActions = true
  · rw [imp_iff_right ho]
    refine imp_congr_right fun hm => ?_
    cases he : r.endpoint with
    | unguarded route =>
        cases route with
        | approve_agent_action logId approver =>
            refine isolates_resolve_iff true (by rw [he]; rfl) ?_
            rw [handle_of_gate hm.1, Request.dispatch, he]
            rfl
        | reject_agent_action logId approver =>
            refine isolates_resolve_iff false (by rw [he]; rfl) ?_
            rw [handle_of_gate hm.1, Request.dispatch, he]
            rfl
        | _ => rw [he] at ho; cases ho
    | ofUser route =>
        cases route with
        | evaluate_agent_action agentId body projectId =>
            exact iff_of_true (fun row => mayTouch_of_evaluated he hm) trivial
        | list_agent_actions agentId n projectId => exact he ▸ isolates_list_iff he hm
        | _ => rw [he] at ho; cases ho
    | ofProject p route => rw [he] at ho; cases ho
    | ofKey p route => rw [he] at ho; cases ho
  · refine iff_of_true (fun h => absurd h ho) fun _ => ?_
    unfold Confined
    split
    · rename_i he; rw [he] at ho; exact absurd rfl ho
    · rename_i he; rw [he] at ho; exact absurd rfl ho
    · rename_i he; rw [he] at ho; exact absurd rfl ho
    · trivial

/-- **Action isolation.**  Along every run of the process, the requests of each user to the
endpoints of agent actions return and change only rows of no project or of the user's own, exactly
when they are confined. -/
theorem actions_isolated_iff {w w' : World} {hs : List (Tick × Happening)} :
    Run.All (Step cfg) (fun w h _ => IsolatesActions cfg w h) w hs w' ↔
      Run.All (Step cfg) (fun w h _ => ConfinesActions cfg w h) w hs w' :=
  Run.All.congr fun w h _ _ => isolatesActions_iff w h

/-- Users 1 and 2 sign up, user 1 creates a project, and an action of the agent is left pending
there. -/
def ownedActionRequests : List Request :=
  [⟨"", none, .unguarded (.signup ⟨"a@x.co", "12345678"⟩)⟩,
    ⟨"", none, .unguarded (.signup ⟨"b@x.co", "12345678"⟩)⟩,
    ⟨"Bearer a", none, .ofUser (.create_project { name := "p" })⟩,
    ⟨"Bearer a", none,
      .ofUser (.evaluate_agent_action "bot" ⟨"tickets", "delete", none⟩ (some 1))⟩]

/-- User 2 has the action of user 1's project listed, and approves it. -/
theorem actions_exposed :
    let w := serveAll .demo .zero .empty ownedActionRequests
    let list : Request := ⟨"Bearer b", none, .ofUser (.list_agent_actions none 100 none)⟩
    let approve : Request := ⟨"Bearer b", none, .unguarded (.approve_agent_action 1 "ann")⟩
    Reachable (Step .demo) .empty w ∧ ¬ IsolatesActions .demo w (.zero, .request list) ∧
      ¬ IsolatesActions .demo w (.zero, .request approve) ∧
      ((handle .demo .zero w approve).2.db.agentActionLogs.find? 1).map (·.executionResult) =
        some .approved_not_executed := by
  intro w list approve
  have hu : ((getCurrentUser .demo 0 w.db "Bearer b").toOption.map (·.id)) = some 2 := by
    decide +kernel
  obtain ⟨user, hu, hid⟩ :
      ∃ user, getCurrentUser .demo 0 w.db "Bearer b" = .ok user ∧ user.id = 2 := by
    cases h : getCurrentUser .demo 0 w.db "Bearer b" with
    | error e => rw [h] at hu; cases hu
    | ok user => rw [h] at hu; exact ⟨user, rfl, Option.some.inj hu⟩
  have hp : (w.db.projects.find? 1).map (·.workspaceId) = some 1 := by decide +kernel
  have ho : (w.db.workspaces.find? 1).map (·.ownerUserId) = some 1 := by decide +kernel
  have hr : (w.db.agentActionLogs.find? 1).map
      (fun r => (r.projectId, r.executionResult, r.agentId)) =
        some (some 1, .pending_approval, "bot".toList) := by decide +kernel
  have hl : w.db.agentActionLogs.rows.length = 1 := by decide +kernel
  obtain ⟨row, hf, hrow⟩ := Option.map_eq_some_iff.mp hr
  obtain ⟨hpid, hpend, hagent⟩ : row.projectId = some 1 ∧ row.executionResult = .pending_approval ∧
      row.agentId = "bot".toList := by simpa using hrow
  have not_mine : ¬ MayTouch w.db user row := by
    intro h
    obtain ⟨project, workspace, h₁, h₂, h₃⟩ := h 1 hpid
    rw [h₁] at hp
    have hw : project.workspaceId = 1 := Option.some.inj hp
    rw [hw] at h₂
    rw [h₂] at ho
    have := (Option.some.inj ho).symm.trans (h₃.trans hid)
    omega
  refine ⟨⟨_, run_serveAll ownedActionRequests .empty⟩, ?_, ?_, by decide +kernel⟩
  · intro h
    have hc := (isolatesActions_iff _ _).mp h list user rfl ⟨rfl, hu⟩
    have hmem : row ∈ matchingActions .demo w.db none none :=
      List.mem_filter.mpr ⟨(Table.find?_eq_some_iff.mp hf).1, rfl⟩
    have hle := (hc row hmem not_mine).2
    have : (matchingActions .demo w.db none none).countP (Before (·.createdAt) · row) ≤ 1 :=
      hl ▸ List.countP_le_length.trans (List.length_filter_le _ _)
    omega
  · intro h
    have hc := (isolatesActions_iff _ _).mp h approve user rfl ⟨rfl, hu⟩
    exact not_mine (hc row hf hpend (by decide) (by rw [hagent]; decide))

end SentinelAI
