import SentinelAI.Support.Trail
import SentinelAI.Properties.KeyLifecycle
import SentinelAI.Properties.Writes

/-!
# Properties — AuditTrail

What has been recorded stays.  Along every run of the process, with restarts and the events of the
gateway, calls, test results and baselines are neither changed nor deleted; of a finding only the
status and the time of its update change, of an action only a pending one, once, by its resolution;
a key that is revoked stays so and is not used again.  Events are purged, never changed.

* `AuditTrail`: this, of two states of the database.
* `auditTrail_handle`: every request keeps the trail.
* `auditTrail_run`: so does every run.
-/

namespace SentinelAI
open Support

/-! ### How a row may change -/

/-- Only the status, and with it the time of the update. -/
def Finding.Stays (f f' : Finding) : Prop :=
  f' = { f with status := f'.status, updatedAt := f'.updatedAt }

/-- Only what its owner says of it. -/
def Project.Stays (p p' : Project) : Prop :=
  p' = { p with name := p'.name, repoUrl := p'.repoUrl, description := p'.description }

/-- Only by the resolution of a pending action, by someone other than the agent. -/
def AgentActionLog.Stays (r r' : AgentActionLog) : Prop :=
  r' = r ∨ (r.executionResult = .pending_approval ∧
    ∃ who approve now, who ≠ [] ∧ who ≠ r.agentId ∧ r' = r.resolved who approve now)

/-- Only the stamp of its use, as long as it is not revoked, and its revocation. -/
def ProjectAPIKey.Stays (k k' : ProjectAPIKey) : Prop :=
  k' = { k with lastUsedAt := k'.lastUsedAt, revokedAt := k'.revokedAt } ∧
    (k.revokedAt ≠ none → k'.revokedAt ≠ none ∧ k'.lastUsedAt = k.lastUsedAt)

theorem Finding.Stays.refl (f : Finding) : f.Stays f := rfl

theorem Finding.Stays.trans (f f' f'' : Finding) (h : f.Stays f') (h' : f'.Stays f'') :
    f.Stays f'' := by
  unfold Finding.Stays at *
  rw [h', h]

theorem Project.Stays.refl (p : Project) : p.Stays p := rfl

theorem Project.Stays.trans (p p' p'' : Project) (h : p.Stays p') (h' : p'.Stays p'') :
    p.Stays p'' := by
  unfold Project.Stays at *
  rw [h', h]

theorem AgentActionLog.Stays.refl (r : AgentActionLog) : r.Stays r := .inl rfl

theorem AgentActionLog.Stays.trans (r r' r'' : AgentActionLog) (h : r.Stays r')
    (h' : r'.Stays r'') : r.Stays r'' := by
  rcases h with rfl | ⟨hp, who, approve, now, hw, ha, rfl⟩
  · exact h'
  · -- a resolved action is pending no more
    rcases h' with rfl | ⟨hp', -⟩
    · exact .inr ⟨hp, who, approve, now, hw, ha, rfl⟩
    · cases approve <;> cases hp'

theorem ProjectAPIKey.Stays.refl (k : ProjectAPIKey) : k.Stays k := ⟨rfl, fun h => ⟨h, rfl⟩⟩

theorem ProjectAPIKey.Stays.trans (k k' k'' : ProjectAPIKey) (h : k.Stays k')
    (h' : k'.Stays k'') : k.Stays k'' := by
  obtain ⟨he, hr⟩ := h
  obtain ⟨he', hr'⟩ := h'
  refine ⟨by rw [he', he], fun hk => ?_⟩
  obtain ⟨hk', hu⟩ := hr hk
  obtain ⟨hk'', hu'⟩ := hr' hk'
  exact ⟨hk'', hu'.trans hu⟩

/-! ### The trail -/

/-- What `d` records is recorded in `d'`. -/
structure AuditTrail (d d' : Db) : Prop where
  users : Evolves Eq d.users d'.users
  workspaces : Evolves Eq d.workspaces d'.workspaces
  projects : Evolves Project.Stays d.projects d'.projects
  callLogs : Evolves Eq d.callLogs d'.callLogs
  findings : Evolves Finding.Stays d.findings d'.findings
  testRunResults : Evolves Eq d.testRunResults d'.testRunResults
  agentActionLogs : Evolves AgentActionLog.Stays d.agentActionLogs d'.agentActionLogs
  apiKeys : Evolves ProjectAPIKey.Stays d.apiKeys d'.apiKeys
  baselines : Evolves Eq d.baselines d'.baselines
  securityEvents : Retains d.securityEvents d'.securityEvents

namespace AuditTrail

theorem refl (d : Db) : AuditTrail d d where
  users := .refl (fun _ => rfl) _
  workspaces := .refl (fun _ => rfl) _
  projects := .refl Project.Stays.refl _
  callLogs := .refl (fun _ => rfl) _
  findings := .refl Finding.Stays.refl _
  testRunResults := .refl (fun _ => rfl) _
  agentActionLogs := .refl AgentActionLog.Stays.refl _
  apiKeys := .refl ProjectAPIKey.Stays.refl _
  baselines := .refl (fun _ => rfl) _
  securityEvents := .refl _

theorem trans {d₁ d₂ d₃ : Db} (h : AuditTrail d₁ d₂) (h' : AuditTrail d₂ d₃) :
    AuditTrail d₁ d₃ where
  users := h.users.trans (fun _ _ _ => Eq.trans) h'.users
  workspaces := h.workspaces.trans (fun _ _ _ => Eq.trans) h'.workspaces
  projects := h.projects.trans Project.Stays.trans h'.projects
  callLogs := h.callLogs.trans (fun _ _ _ => Eq.trans) h'.callLogs
  findings := h.findings.trans Finding.Stays.trans h'.findings
  testRunResults := h.testRunResults.trans (fun _ _ _ => Eq.trans) h'.testRunResults
  agentActionLogs := h.agentActionLogs.trans AgentActionLog.Stays.trans h'.agentActionLogs
  apiKeys := h.apiKeys.trans ProjectAPIKey.Stays.trans h'.apiKeys
  baselines := h.baselines.trans (fun _ _ _ => Eq.trans) h'.baselines
  securityEvents := h.securityEvents.trans h'.securityEvents

end AuditTrail

/-- A project stays its owner's where workspaces stay, and projects change only in what their owner
says. -/
theorem ownedProject_of_evolves {d d' : Db} (hw : Evolves Eq d.workspaces d'.workspaces)
    (hp : Evolves Project.Stays d.projects d'.projects) {projectId userId : Int} {project : Project}
    (h : ownedProject d projectId userId = .ok project) :
    ∃ project', ownedProject d' projectId userId = .ok project' ∧ project.Stays project' := by
  obtain ⟨hf, workspace, hwf, ho⟩ := ownedProject_eq_ok.mp h
  obtain ⟨hf, hid⟩ := Table.find?_eq_some_iff.mp hf
  obtain ⟨hwf, hwid⟩ := Table.find?_eq_some_iff.mp hwf
  obtain ⟨project', hp', hstays⟩ := hp.exists_of_mem hf
  obtain ⟨_, hw', rfl⟩ := hw.exists_of_mem hwf
  refine ⟨project', ownedProject_eq_ok.mpr ⟨Table.find?_eq_some_iff.mpr ⟨hp', ?_⟩, workspace,
    Table.find?_eq_some_iff.mpr ⟨hw', ?_⟩, ho⟩, hstays⟩
  · rw [hstays]
    exact hid
  · rw [hstays]
    exact hwid

theorem Owns.of_evolves {d d' : Db} (hw : Evolves Eq d.workspaces d'.workspaces)
    (hp : Evolves Project.Stays d.projects d'.projects) {userId p : Int} (h : Owns d userId p) :
    Owns d' userId p := by
  obtain ⟨project, workspace, hf, hwf, ho⟩ := h
  obtain ⟨project', h', -⟩ :=
    ownedProject_of_evolves hw hp (ownedProject_eq_ok.mpr ⟨hf, workspace, hwf, ho⟩)
  exact (owns_of_ownedProject h').1

/-- A project that is listed is its reader's. -/
theorem ownedProject_of_listed {db : Db} {user : User} {q : Json}
    (hq : q ∈ (listProjects user db).elems) :
    ∃ project, ownedProject db project.id user.id = .ok project ∧ q = projectToDict project := by
  unfold listProjects at hq
  cases hw : workspaceOf db user.id with
  | none =>
      rw [hw] at hq
      cases hq
  | some workspace =>
      rw [hw] at hq
      obtain ⟨project, hp, rfl⟩ := List.mem_map.mp hq
      obtain ⟨hp, hpw⟩ := List.mem_filter.mp (mem_orderDesc.mp hp)
      have owner := List.find?_some hw
      refine ⟨project, ownedProject_eq_ok.mpr ⟨Table.find?_eq_some_iff.mpr ⟨hp, rfl⟩, workspace,
        Table.find?_eq_some_iff.mpr ⟨List.mem_of_find?_eq_some hw, ?_⟩, ?_⟩, rfl⟩
      · exact (beq_iff_eq.mp hpw).symm
      · exact beq_iff_eq.mp owner

/-! ### What the functions do to it -/

section Functions

variable {cfg : Config} {tick : Tick} {db : Db} {w : World}

theorem auditTrail_recordEvent (i : Nat) (e : EventFields) :
    AuditTrail db (db.recordEvent cfg tick i e) := by
  refine { AuditTrail.refl db with securityEvents := ?_ }
  rcases recordEvent_snd cfg.settings db.securityEvents e (tick.eventTime i)
    (tick.eventFault i) with ht | ht
  · rw [Db.recordEvent, ht]
    exact .refl _
  · rw [Db.recordEvent, ht]
    exact .insert _ _

theorem auditTrail_recordEvents : ∀ (es : List EventFields) (db : Db) (i : Nat),
    AuditTrail db (db.recordEvents cfg tick i es)
  | [], db, _ => .refl db
  | e :: es, _, i => (auditTrail_recordEvent i e).trans (auditTrail_recordEvents es _ (i + 1))

/-! ### `generate` -/

section Generate

variable {req : GenerateRequest}

theorem auditTrail_logCall (usage : Usage) (guardrails : Guardrails)
    (code : Option GenerateError) : AuditTrail db (logCall tick req usage guardrails code db) :=
  { AuditTrail.refl db with callLogs := .insert (fun _ => rfl) _ _ }

theorem auditTrail_refuse {statusCode : Nat} {code : GenerateError} {message : Str} {usage : Usage}
    {guardrails : Guardrails} {event : Option EventFields} {counts : SessionCounts}
    {sent : Option (List Message)} :
    AuditTrail db
      (refuse cfg tick req statusCode code message usage guardrails event db counts sent).db := by
  unfold refuse
  cases event with
  | none => exact auditTrail_logCall usage guardrails (some code)
  | some e =>
      exact (auditTrail_logCall usage guardrails (some code)).trans (auditTrail_recordEvent 1 e)

theorem auditTrail_inspected (cfg : Config) (tick : Tick) (req : GenerateRequest) (db : Db) :
    AuditTrail db (inspected cfg tick req db) := by
  unfold inspected
  dsimp only
  split
  · exact auditTrail_recordEvent _ _
  · exact .refl db

theorem auditTrail_answered (llm : LLMResponse) (counts : SessionCounts) :
    AuditTrail db (answered cfg tick req llm db counts).db := by
  have inspected : AuditTrail db (scanned cfg tick req llm db) := by
    unfold scanned
    dsimp only
    split
    · exact auditTrail_recordEvent _ _
    · exact .refl db
  refine inspected.trans ?_
  unfold answered
  dsimp only
  split
  · exact auditTrail_logCall _ _ _
  · split
    · exact auditTrail_logCall _ _ _
    · exact auditTrail_refuse
    · exact .refl _

theorem auditTrail_generate (provider : Provider) (counts : SessionCounts) (user : User) :
    AuditTrail db (generate cfg tick req provider db counts user).db := by
  unfold generate
  split
  · exact .refl db
  · unfold generateFor
    dsimp only
    split
    · exact auditTrail_refuse
    · refine (auditTrail_inspected cfg tick req db).trans ?_
      split
      · exact auditTrail_refuse
      · split
        · unfold called
          split
          · exact auditTrail_answered _ _
          · exact auditTrail_refuse
          · exact auditTrail_refuse
        · exact auditTrail_refuse

end Generate

/-! ### The other functions -/

theorem auditTrail_resolveAction (logId : Int) (approver : Str) (approve : Bool) :
    AuditTrail db (resolveAction cfg tick db logId approver approve).2 := by
  unfold resolveAction
  rcases resolveApproval_cases cfg.U db.agentActionLogs logId approver approve tick.now with
    ⟨e, -, h⟩ | ⟨row, who, hf, hc, h⟩
  · rw [h]
    exact auditTrail_recordEvents _ _ _
  · rw [h]
    obtain ⟨hm, hk⟩ := Table.find?_eq_some_iff.mp hf
    refine { AuditTrail.refl db with agentActionLogs := ?_ }
    refine .modify AgentActionLog.Stays.refl fun r hr hi => ?_
    -- the row that is updated is the one that was checked
    rw [Table.eq_of_key hr hm (hi.trans hk.symm)]
    obtain ⟨row', hf', hp, -, hw, ha⟩ := checkApproval_eq_ok.mp hc
    cases hf.symm.trans hf'
    exact .inr ⟨hp, who, approve, tick.now, hw, ha, by rw [← hk]; rfl⟩

theorem auditTrail_purgeExpired {days : Int} {now : Time} {r : Int × Table SecurityEvent}
    (h : purgeExpired db.securityEvents days now = some r) :
    AuditTrail db { db with securityEvents := r.2 } := by
  refine { AuditTrail.refl db with securityEvents := ?_ }
  unfold purgeExpired at h
  split at h
  · cases h
    exact .refl _
  · obtain ⟨cutoff, -, rfl⟩ := Option.map_eq_some_iff.mp h
    exact .deleteWhere _ _

theorem auditTrail_openBody (client : Option Str) (route : OpenRoute) :
    AuditTrail w.db (openBody cfg tick w client route).2.db := by
  have same : AuditTrail w.db w.db := .refl w.db
  cases route with
  | signup body =>
      unfold openBody signup
      dsimp only
      split
      · exact same
      · split
        · exact same
        · split
          · exact same
          · split
            · exact same
            · exact { same with
                users := .insert (fun _ => rfl) _ _
                workspaces := .insert (fun _ => rfl) _ _ }
  | login body =>
      unfold openBody login
      dsimp only
      split
      · exact same
      · split
        · exact same
        · split <;> exact same
  | approve_agent_action logId approver => exact auditTrail_resolveAction logId approver true
  | reject_agent_action logId approver => exact auditTrail_resolveAction logId approver false
  | apply_event_retention =>
      unfold openBody
      dsimp only
      split
      · exact same
      · rename_i h
        exact auditTrail_purgeExpired h
  | _ => exact same

theorem auditTrail_createProject (user : User) (body : ProjectCreate) :
    AuditTrail db (createProject tick user db body).2 := by
  unfold createProject ensureWorkspace
  cases workspaceOf db user.id with
  | none =>
      exact { AuditTrail.refl db with
        workspaces := .insert (fun _ => rfl) _ _
        projects := .insert Project.Stays.refl _ _ }
  | some workspace =>
      exact { AuditTrail.refl db with projects := .insert Project.Stays.refl _ _ }

theorem auditTrail_evaluateAction (user : User) (agentId : Str) (body : ActionRequest)
    (projectId : Option Int) :
    AuditTrail db (evaluateAction cfg tick user db agentId body projectId).2 := by
  unfold evaluateAction
  split
  · exact .refl db
  · split
    · exact .refl db
    · split
      · exact .refl db
      · rename_i profile _ _ _
        have recorded : AuditTrail db { db with
            agentActionLogs := (evaluateAndRecord cfg.U db.agentActionLogs profile body projectId
              tick.now).2.2 } :=
          { AuditTrail.refl db with
            agentActionLogs := .insert AgentActionLog.Stays.refl _
              (decisionRow cfg.U profile body projectId tick.now) }
        exact recorded.trans (auditTrail_recordEvents _ _ _)

theorem auditTrail_updateFindingStatus (user : User) (findingId : Int) (status : FindingStatus) :
    AuditTrail db (updateFindingStatus tick user db findingId status).2 := by
  unfold updateFindingStatus
  split
  · exact .refl db
  · refine { AuditTrail.refl db with findings := ?_ }
    refine .modify Finding.Stays.refl fun f _ hi => ?_
    rw [← hi]
    unfold Finding.patched
    split <;> rfl

theorem auditTrail_userBody (user : User) (route : UserRoute) :
    AuditTrail w.db (userBody cfg tick user w route).2.db := by
  cases route with
  | create_project body => exact auditTrail_createProject user body
  | evaluate_agent_action agentId body projectId =>
      exact auditTrail_evaluateAction user agentId body projectId
  | update_finding_status findingId status =>
      exact auditTrail_updateFindingStatus user findingId status
  | generate req => exact auditTrail_generate _ _ user
  | _ => exact .refl w.db

theorem auditTrail_revokeProjectApiKey (project : Project) (keyId : Int) :
    AuditTrail db (revokeProjectApiKey tick project db keyId).2 := by
  unfold revokeProjectApiKey revokeApiKey
  cases db.apiKeys.find? keyId with
  | none => exact .refl db
  | some row =>
      dsimp only
      by_cases hp : row.projectId = project.id
      · rw [if_pos hp]
        refine { AuditTrail.refl db with apiKeys := ?_ }
        refine .modify ProjectAPIKey.Stays.refl fun k _ hi => ?_
        rw [← hi]
        exact ⟨rfl, fun _ => ⟨by simp, rfl⟩⟩
      · rw [if_neg hp]
        exact .refl db

theorem auditTrail_projectBody (project : Project) (route : ProjectRoute) :
    AuditTrail db (projectBody cfg tick project db route).2 := by
  cases route with
  | update_project body =>
      refine { AuditTrail.refl db with projects := ?_ }
      refine .modify Project.Stays.refl fun p _ hi => ?_
      rw [← hi]
      rfl
  | create_project_api_key name =>
      unfold projectBody createProjectApiKey createApiKey
      dsimp only
      split
      · exact .refl db
      · rename_i h
        split at h
        · cases h
        · cases h
          exact { AuditTrail.refl db with apiKeys := .insert ProjectAPIKey.Stays.refl _ _ }
  | revoke_project_api_key keyId => exact auditTrail_revokeProjectApiKey project keyId
  | create_security_baseline name runId =>
      unfold projectBody createSecurityBaseline
      dsimp only
      split
      · exact .refl db
      · exact { AuditTrail.refl db with baselines := .insert (fun _ => rfl) _ _ }
  | _ => exact .refl db

/-! ### Routes that take an API key -/

theorem auditTrail_keyBody (project : Project) (route : KeyRoute) :
    AuditTrail db (keyBody cfg tick project db route).2 := by
  cases route with
  | sync_security_findings category source =>
      refine AuditTrail.trans ?_ (auditTrail_recordEvents _ _ _)
      refine { AuditTrail.refl db with
        findings := .of_begins Finding.Stays.refl ?_
        testRunResults := .of_begins (fun _ => rfl) ?_ }
      · exact ⟨_, (rows_syncFindings _ _ _ _).symm⟩
      · obtain ⟨new, hnew, -⟩ := rows_recordTestRun db.testRunResults
          (runSuite (selectTests cfg category) tick.testTime) (some project.id) source tick.runId
        exact ⟨new, hnew.symm⟩
  | regression_report baselineId runId => exact .refl db

theorem auditTrail_verifyApiKey (rawKey : Str) :
    AuditTrail db (verifyApiKey cfg tick db rawKey).2 := by
  rcases verifyApiKey_snd cfg tick db rawKey with h | ⟨row, project, hr, h⟩
  · rw [h]
    exact .refl db
  · rw [h]
    refine { AuditTrail.refl db with apiKeys := ?_ }
    refine .modify ProjectAPIKey.Stays.refl fun k hk hi => ?_
    obtain ⟨-, hf, hv, -⟩ := resolveApiKey_eq_some.mp hr
    rw [Table.eq_of_key hk (List.mem_of_find?_eq_some hf) hi]
    exact ⟨rfl, fun h => absurd hv h⟩

end Functions

/-! ### Main results -/

variable {cfg : Config} {tick : Tick} {w : World}

/-- A request keeps the trail, however it is answered. -/
theorem auditTrail_handle (r : Request) : AuditTrail w.db (handle cfg tick w r).2.db := by
  have checked (p : Int) : AuditTrail w.db
      (requireProjectOrApiKey cfg tick w.db r.authorization p).2 := by
    rcases requireProjectOrApiKey_snd cfg tick w.db r.authorization p with h | ⟨rawKey, h⟩
    · rw [h]
      exact .refl w.db
    · rw [h]
      exact auditTrail_verifyApiKey rawKey
  have left := leaves_handle cfg tick w r
  generalize (handle cfg tick w r).2 = w' at left ⊢
  cases left with
  | refused => exact .refl w.db
  | stamped he hk => exact hk ▸ checked _
  | unguarded he => exact auditTrail_openBody _ _
  | ofUser hg he hu => exact auditTrail_userBody _ _
  | ofProject he hp => exact auditTrail_projectBody _ _
  | @ofKey p route project keys he hp =>
      have stamped := checked p
      rw [hp] at stamped
      exact stamped.trans (auditTrail_keyBody _ _)

theorem auditTrail_step {w w' : World} {h : Tick × Happening} (hs : Step cfg w h w') :
    AuditTrail w.db w'.db := by
  obtain ⟨tick, happening⟩ := h
  cases happening with
  | request r =>
      rw [show w' = (handle cfg tick w r).2 from hs]
      exact auditTrail_handle r
  | restart =>
      obtain ⟨_, hp, rfl⟩ := Option.map_eq_some_iff.mp (show restart cfg tick w = some w' from hs)
      exact auditTrail_purgeExpired hp
  | gatewayEvent e =>
      rw [show w' = _ from hs]
      exact auditTrail_recordEvent 0 _

/-- **Audit trail.**  Along every run, what was recorded stays recorded, and of it changes only what
may. -/
theorem auditTrail_run {w w' : World} {hs : List (Tick × Happening)}
    (run : Run (Step cfg) w hs w') : AuditTrail w.db w'.db :=
  run.relates (R := fun w w' => AuditTrail w.db w'.db) (fun w => .refl w.db)
    (fun _ _ _ => AuditTrail.trans) fun _ _ _ h => auditTrail_step h

/-- User 1 signs up, creates a project, and runs its suite, which opens a finding. -/
def firstSync : List Request :=
  [⟨"", none, .unguarded (.signup ⟨"a@b.co", "12345678"⟩)⟩,
    ⟨"Bearer t", none, .ofUser (.create_project ⟨"p", "model", none, none⟩)⟩,
    ⟨"Bearer t", none, .ofKey 1 (.sync_security_findings none "dashboard")⟩]

/-- The finding is resolved, and stays. -/
theorem auditTrail_run_resolving :
    let w := serveAll .demo .zero .empty firstSync
    let w' := serveAll .demo .zero w
      [⟨"Bearer t", none, .ofUser (.update_finding_status 1 .RESOLVED)⟩]
    AuditTrail w.db w'.db ∧ w.db.findings.rows.map (·.status) = [.OPEN] ∧
      w'.db.findings.rows.map (·.status) = [.RESOLVED] := by
  intro w w'
  exact ⟨auditTrail_run (run_serveAll _ w), by decide +kernel, by decide +kernel⟩

end SentinelAI
