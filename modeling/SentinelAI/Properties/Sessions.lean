import SentinelAI.Properties.Quota
import SentinelAI.Proxy.Sessions

/-!
# Properties — Sessions

Recording an event commits the session of the request, and rolls it back where it fails.  The
handlers are tidy: no change of theirs is pending where they record an event.

* `handleIn_congr`: so the response to a request, and every table but the events', do not depend on
  which writes of events fail.
* `handleIn_eq_handle`: the handlers do in their sessions what `handle` does.
-/

namespace SentinelAI
open Support

/-! ### Tidy handlers -/

/-- A write that does to the other tables what it does to all. -/
theorem stable_business {f : Db → Db} (h : ∀ d, (f d).business = f d.business) :
    Prog.Stable Db.business f := by
  intro d₁ d₂ e
  rw [h, h, e]

namespace InSession

variable {cfg : Config} {tick : Tick} {b : Bool}

theorem tidy_recordEvent (i : Nat) (e : EventFields) :
    (recordEvent cfg tick i e).Tidy Db.business false false := by
  unfold recordEvent
  split
  · exact .pure _
  · split
    · exact .pure _
    · exact .log i fun _ => rfl

theorem tidy_recordEvents : ∀ (es : List EventFields) (i : Nat),
    (recordEvents cfg tick i es).Tidy Db.business false false
  | [], _ => .pure _
  | e :: es, i => (tidy_recordEvent i e).bind fun _ => tidy_recordEvents es (i + 1)

theorem tidy_reload {α : Type} (find : Db → Option α) : (reload find).Tidy Db.business b b :=
  Prog.Tidy.get.bind fun db => .orRaise (find db)

section Generate

variable {req : GenerateRequest}

theorem tidy_logCall (usage : Usage) (guardrails : Guardrails) (errorCode : Option GenerateError) :
    (logCall tick req usage guardrails errorCode).Tidy Db.business b false := by
  refine Prog.Tidy.bind (.put (stable_business ?_)) fun _ => .save 0
  exact fun _ => rfl

theorem tidy_refuse (statusCode : Nat) (code : GenerateError) (message : Str) (usage : Usage)
    (guardrails : Guardrails) : ∀ event : Option EventFields,
    (refuse cfg tick req statusCode code message usage guardrails event).Tidy Db.business
      false false
  | none => (tidy_logCall usage guardrails (some code)).bind fun _ => .pure _
  | some e => (tidy_logCall usage guardrails (some code)).bind fun _ =>
      (tidy_recordEvent 1 e).bind fun _ => .pure _

theorem tidy_inspected : (inspected cfg tick req).Tidy Db.business false false := by
  unfold inspected
  dsimp only
  split
  · exact tidy_recordEvent 0 _
  · exact .pure _

theorem tidy_scanned (llm : LLMResponse) :
    (scanned cfg tick req llm).Tidy Db.business false false := by
  unfold scanned
  dsimp only
  split
  · exact tidy_recordEvent 1 _
  · exact .pure _

theorem tidy_succeed (output : Json) (usage : Usage) (guardrails : Guardrails) :
    (succeed tick req output usage guardrails).Tidy Db.business false false :=
  (tidy_logCall usage guardrails none).bind fun _ => .pure _

theorem tidy_answered (llm : LLMResponse) :
    (answered cfg tick req llm).Tidy Db.business false false := by
  refine (tidy_scanned llm).bind fun _ => ?_
  dsimp only
  split
  · exact tidy_succeed _ _ _
  · split
    · exact tidy_succeed _ _ _
    · exact tidy_refuse _ _ _ _ _ _
    · exact .pure _

theorem tidy_called (provider : Provider) :
    (called cfg tick req provider).Tidy Db.business false false := by
  unfold called
  split
  · exact tidy_answered _
  · exact tidy_refuse _ _ _ _ _ _
  · exact tidy_refuse _ _ _ _ _ _

theorem tidy_generate (cfg : Config) (tick : Tick) (req : GenerateRequest) (provider : Provider)
    (counts : SessionCounts) (user : User) :
    (generate cfg tick req provider counts user).Tidy Db.business false false := by
  refine Prog.Tidy.get.bind fun db => ?_
  split
  · exact .pure _
  · unfold generateFor
    dsimp only
    split
    · exact (tidy_refuse _ _ _ _ _ _).bind fun _ => .pure _
    · refine tidy_inspected.bind fun _ => ?_
      split
      · exact (tidy_refuse _ _ _ _ _ _).bind fun _ => .pure _
      · split
        · exact (tidy_called provider).bind fun _ => .pure _
        · exact (tidy_refuse _ _ _ _ _ _).bind fun _ => .pure _

end Generate

section Sync

variable {project : Project}

theorem tidy_recordTestRun (results : List TestResult) (source : Str) :
    (recordTestRun tick project results source).Tidy Db.business b false := by
  refine Prog.Tidy.bind (.put (stable_business ?_)) fun _ => .save runCommit
  exact fun _ => rfl

theorem tidy_recordOpened : ∀ (keys : List Int) (i : Nat),
    (recordOpened cfg tick project i keys).Tidy Db.business false false
  | [], _ => .pure _
  | _ :: keys, i => (tidy_reload _).bind fun _ => (tidy_recordEvent i _).bind fun _ =>
      tidy_recordOpened keys (i + 1)

theorem tidy_recordRegressed (key : Int) : ∀ (rs : List DiffEntry) (i : Nat),
    (recordRegressed cfg tick project key i rs).Tidy Db.business false false
  | [], _ => .pure _
  | _ :: rs, i => (tidy_reload _).bind fun _ => (tidy_recordEvent i _).bind fun _ =>
      tidy_recordRegressed key rs (i + 1)

theorem tidy_recordRegressions (i : Nat) :
    (recordRegressions cfg tick project i).Tidy Db.business false false := by
  refine Prog.Tidy.get.bind fun db => ?_
  split
  · exact .pure _
  · split
    · exact .pure _
    · exact tidy_recordRegressed _ _ i

theorem tidy_reloadFindings : ∀ keys : List Int,
    (reloadFindings keys).Tidy Db.business false false
  | [] => .pure _
  | _ :: keys => (tidy_reload _).bind fun _ => (tidy_reloadFindings keys).bind fun _ => .pure _

/-- The findings of a sync may be pending when its run is added, and are committed with it. -/
theorem tidy_syncSecurityFindings (cfg : Config) (tick : Tick) (project : Project)
    (category : Option Str) (source : Str) :
    (syncSecurityFindings cfg tick project category source).Tidy Db.business false false := by
  have tidy_syncFindings (results : List TestResult) :
      (syncFindings tick project results).Tidy Db.business false true := by
    refine Prog.Tidy.get.bind fun db => Prog.Tidy.bind (.put (stable_business ?_)) fun _ => ?_
    · exact fun _ => rfl
    · split
      · exact .pure _
      · exact Prog.Tidy.bind (.save findingsCommit) fun _ _ => rfl
  exact (tidy_syncFindings _).bind fun created => (tidy_recordTestRun _ source).bind fun _ =>
    (tidy_recordOpened created 0).bind fun _ => (tidy_recordRegressions _).bind fun _ =>
      (tidy_reloadFindings created).bind fun _ => .pure _

end Sync

section Actions

variable {user : User}

theorem tidy_evaluateAndRecord (profile : AgentProfile) (body : ActionRequest)
    (projectId : Option Int) :
    (evaluateAndRecord cfg tick profile body projectId).Tidy Db.business false false := by
  refine Prog.Tidy.get.bind fun db => Prog.Tidy.bind (.put (stable_business ?_)) fun _ =>
    Prog.Tidy.bind (.save 0) fun _ => .pure _
  exact fun _ => rfl

theorem tidy_evaluateAction (cfg : Config) (tick : Tick) (user : User) (agentId : Str)
    (body : ActionRequest) (projectId : Option Int) :
    (evaluateAction cfg tick user agentId body projectId).Tidy Db.business false false := by
  unfold evaluateAction
  split
  · exact .pure _
  · split
    · exact .pure _
    · refine Prog.Tidy.get.bind fun db => ?_
      split
      · exact .pure _
      · exact (tidy_evaluateAndRecord _ body projectId).bind fun key =>
          (tidy_reload _).bind fun row =>
            (tidy_recordEvents _ 0).bind fun _ => (tidy_reload _).bind fun _ => .pure _

theorem tidy_resolveApproval (logId : Int) (approver : Str) (approve : Bool) :
    (resolveApproval cfg tick logId approver approve).Tidy Db.business false false := by
  refine Prog.Tidy.get.bind fun db => ?_
  split
  · exact .pure _
  · refine Prog.Tidy.bind (.put (stable_business ?_)) fun _ => Prog.Tidy.bind (.save 0) fun _ =>
      (tidy_reload _).bind fun _ => .pure _
    exact fun _ => rfl

theorem tidy_resolveAction (cfg : Config) (tick : Tick) (logId : Int) (approver : Str)
    (approve : Bool) :
    (resolveAction cfg tick logId approver approve).Tidy Db.business false false := by
  refine (tidy_resolveApproval logId approver approve).bind fun r => ?_
  split
  · exact .pure _
  · exact Prog.Tidy.get.bind fun db => (tidy_recordEvents _ 0).bind fun _ => .pure _

end Actions

end InSession

/-! ### Requests whose events fail -/

section Requests

variable {cfg : Config} {tick : Tick} {w : World} {r₁ r₂ : Nat → Option RecordFault}

/-- Two states differ at most in the events. -/
structure SameButEvents (w₁ w₂ : World) : Prop where
  db : w₁.db.business = w₂.db.business
  counts : w₁.counts = w₂.counts
  windows : w₁.windows = w₂.windows

theorem SameButEvents.refl (w : World) : SameButEvents w w := ⟨rfl, rfl, rfl⟩

/-- In both runs no commit of the handler fails. -/
theorem commits_go_through (r₁ r₂ : Nat → Option RecordFault) :
    (⟨fun _ => false, r₁⟩ : Faults).commit = (⟨fun _ => false, r₂⟩ : Faults).commit := rfl

theorem inSession_congr (r₁ r₂ : Nat → Option RecordFault) {α : Type}
    {p : DbProg (Except Raised α)} (hp : p.Tidy Db.business false false) (db : Db) :
    (inSession r₁ p db).1 = (inSession r₂ p db).1 ∧
      (inSession r₁ p db).2.business = (inSession r₂ p db).2.business := by
  have ran := hp.run_congr (commits_go_through r₁ r₂) db
  exact ⟨congrArg (·.getD (.error .unhandled)) ran.1, ran.2⟩

/-- Two functions answer the same, and leave states that differ at most in the events. -/
structure SameServed (a₁ a₂ : Answer × World) : Prop where
  answer : a₁.1 = a₂.1
  state : SameButEvents a₁.2 a₂.2

theorem SameServed.refl (a : Answer × World) : SameServed a a := ⟨rfl, .refl a.2⟩

theorem openBodyIn_congr (client : Option Str) (route : OpenRoute) :
    SameServed (openBodyIn cfg tick r₁ w client route) (openBodyIn cfg tick r₂ w client route) := by
  cases route with
  | approve_agent_action logId approver =>
      have ran := inSession_congr r₁ r₂
        (InSession.tidy_resolveAction cfg tick logId approver true) w.db
      exact ⟨ran.1, ran.2, rfl, rfl⟩
  | reject_agent_action logId approver =>
      have ran := inSession_congr r₁ r₂
        (InSession.tidy_resolveAction cfg tick logId approver false) w.db
      exact ⟨ran.1, ran.2, rfl, rfl⟩
  | _ => exact .refl _

theorem userBodyIn_congr (user : User) (route : UserRoute) :
    SameServed (userBodyIn cfg tick r₁ user w route) (userBodyIn cfg tick r₂ user w route) := by
  cases route with
  | evaluate_agent_action agentId body projectId =>
      have ran := inSession_congr r₁ r₂
        (InSession.tidy_evaluateAction cfg tick user agentId body projectId) w.db
      exact ⟨congrArg (Except.map _) ran.1, ran.2, rfl, rfl⟩
  | generate req =>
      have ran := (InSession.tidy_generate cfg tick req (getProvider tick.sdks) w.counts
        user).run_congr (commits_go_through r₁ r₂) w.db
      refine ⟨?_, ran.2, ?_, rfl⟩ <;> simp only [userBodyIn, ran.1]
  | _ => exact .refl _

theorem keyBodyIn_congr (r₁ r₂ : Nat → Option RecordFault) (project : Project) (db : Db)
    (route : KeyRoute) :
    (keyBodyIn cfg tick r₁ project db route).1 = (keyBodyIn cfg tick r₂ project db route).1 ∧
      (keyBodyIn cfg tick r₁ project db route).2.business =
        (keyBodyIn cfg tick r₂ project db route).2.business := by
  cases route with
  | sync_security_findings category source =>
      exact inSession_congr r₁ r₂
        (InSession.tidy_syncSecurityFindings cfg tick project category source) db
  | regression_report baselineId runId => exact ⟨rfl, rfl⟩

theorem dispatchIn_congr (r₁ r₂ : Nat → Option RecordFault) (r : Request) :
    SameServed (r.dispatchIn cfg tick r₁ w) (r.dispatchIn cfg tick r₂ w) := by
  unfold Request.dispatchIn
  split
  · exact openBodyIn_congr _ _
  · split
    · exact .refl _
    · exact userBodyIn_congr _ _
  · exact .refl _
  · split
    · exact .refl _
    · exact ⟨(keyBodyIn_congr r₁ r₂ _ _ _).1, (keyBodyIn_congr r₁ r₂ _ _ _).2, rfl, rfl⟩

/-- **Recording events never interferes.**  Whatever writes of events fail, a request is answered as
it is where none fails, and leaves the same, but for the events. -/
theorem handleIn_congr (cfg : Config) (tick : Tick) (record : Nat → Option RecordFault) (w : World)
    (r : Request) :
    (handleIn cfg tick record w r).1 = (handleIn cfg tick (fun _ => none) w r).1 ∧
      SameButEvents (handleIn cfg tick record w r).2 (handleIn cfg tick (fun _ => none) w r).2 := by
  unfold handleIn
  split
  · exact ⟨rfl, .refl w⟩
  · have served : SameServed (r.dispatchIn cfg tick record w) _ :=
      dispatchIn_congr record (fun _ => none) r
    exact ⟨congrArg (fun a : Answer => a.response) served.answer, served.state⟩

end Requests

/-! ### What the sessions leave -/

namespace InSession

variable {cfg : Config} {tick : Tick} {drops : Nat → Bool} {d : Db}

/-- The request, with the events that are dropped. -/
def dropping (tick : Tick) (drops : Nat → Bool) : Tick := { tick with eventFault := drops }

theorem direct_recordEvent (i : Nat) (e : EventFields) :
    (recordEvent cfg tick i e).direct Db.business drops d =
      (some (), d.recordEvent cfg (dropping tick drops) i e) := by
  unfold recordEvent Db.recordEvent SentinelAI.recordEvent dropping
  dsimp only
  split
  · rfl
  · split
    · rfl
    · rw [Prog.direct_log]
      split <;> rfl

theorem direct_recordEvents : ∀ (es : List EventFields) (i : Nat) (d : Db),
    (recordEvents cfg tick i es).direct Db.business drops d =
      (some (), d.recordEvents cfg (dropping tick drops) i es)
  | [], _, _ => rfl
  | e :: es, i, d => by
      rw [recordEvents, Prog.direct_bind (direct_recordEvent i e), direct_recordEvents es]
      rfl

theorem direct_reload {α : Type} {find : Db → Option α} {a : α} (h : find d.business = some a) :
    (reload find).direct Db.business drops d = (some a, d) := by
  rw [reload, Prog.direct_bind Prog.direct_get, h]
  rfl

section Generate

variable {req : GenerateRequest}

theorem direct_logCall (usage : Usage) (guardrails : Guardrails)
    (errorCode : Option GenerateError) :
    (logCall tick req usage guardrails errorCode).direct Db.business drops d =
      (some (), SentinelAI.logCall tick req usage guardrails errorCode d) := rfl

/-- A program does what a function of the model does. -/
def Does (p : DbProg Outcome) (drops : Nat → Bool) (d : Db) (g : Generated) : Prop :=
  p.direct Db.business drops d = (some g.result, g.db)

theorem Does.bind {p : DbProg Unit} {k : Unit → DbProg Outcome} {d' : Db} {g : Generated}
    (hp : p.direct Db.business drops d = (some (), d')) (hk : Does (k ()) drops d' g) :
    Does (p >>= k) drops d g :=
  (Prog.direct_bind hp).trans hk

theorem does_refuse (statusCode : Nat) (code : GenerateError) (message : Str) (usage : Usage)
    (guardrails : Guardrails) (event : Option EventFields) (counts : SessionCounts)
    (sent : Option (List Message)) :
    Does (refuse cfg tick req statusCode code message usage guardrails event) drops d
      (SentinelAI.refuse cfg (dropping tick drops) req statusCode code message usage guardrails
        event d counts sent) := by
  unfold Does refuse
  rw [Prog.direct_bind (direct_logCall usage guardrails (some code))]
  cases event with
  | none => rfl
  | some e =>
      rw [Prog.direct_bind (direct_recordEvent 1 e)]
      rfl

theorem direct_inspected : (inspected cfg tick req).direct Db.business drops d =
    (some (), SentinelAI.inspected cfg (dropping tick drops) req d) := by
  unfold inspected SentinelAI.inspected
  dsimp only
  split
  · exact direct_recordEvent 0 _
  · rfl

theorem direct_scanned (llm : LLMResponse) : (scanned cfg tick req llm).direct Db.business drops d =
    (some (), SentinelAI.scanned cfg (dropping tick drops) req llm d) := by
  unfold scanned SentinelAI.scanned
  dsimp only
  split
  · exact direct_recordEvent 1 _
  · rfl

theorem does_succeed (output : Json) (usage : Usage) (guardrails : Guardrails)
    (counts : SessionCounts) : Does (succeed tick req output usage guardrails) drops d
      (SentinelAI.succeed (dropping tick drops) req output usage guardrails d counts) := rfl

theorem does_answered (llm : LLMResponse) (counts : SessionCounts) :
    Does (answered cfg tick req llm) drops d
      (SentinelAI.answered cfg (dropping tick drops) req llm d counts) := by
  have usage : answeredUsage (dropping tick drops) llm = answeredUsage tick llm := rfl
  unfold answered SentinelAI.answered
  refine Does.bind (direct_scanned llm) ?_
  dsimp only
  rw [usage]
  cases req.schemaName.filter (· ≠ []) with
  | none => exact does_succeed _ _ _ counts
  | some name =>
      dsimp only
      cases validateStructuredOutput cfg.modelValidateJson name fun _ => llm.text with
      | ok v => exact does_succeed _ _ _ counts
      | error e =>
          cases e with
          | KeyError => rfl
          | SchemaValidationFailed => exact does_refuse _ _ _ _ _ _ counts _

theorem does_called (provider : Provider) (counts : SessionCounts) :
    Does (called cfg tick req provider) drops d
      (SentinelAI.called cfg (dropping tick drops) req provider d counts) := by
  have active :
      activeProvider (dropping tick drops) req provider = activeProvider tick req provider :=
    rfl
  unfold called SentinelAI.called
  rw [active]
  cases activeProvider tick req provider req.messages with
  | ok llm => exact does_answered llm counts
  | error e =>
      cases e with
      | missing_credentials message => exact does_refuse _ _ _ _ _ _ counts _
      | failed message => exact does_refuse _ _ _ _ _ _ counts _

/-- A program does what a function of the model does, and the counters are those given. -/
theorem Does.direct_counts {p : DbProg Outcome} {g : Generated} (h : Does p drops d g)
    (counts : SessionCounts) (hc : g.counts = counts) :
    (p >>= fun out => pure (out, counts)).direct Db.business drops d =
      (some (g.result, g.counts), g.db) := by
  rw [Prog.direct_bind h, hc]
  rfl

theorem direct_generateFor (provider : Provider) (counts : SessionCounts) (user : User) :
    (generateFor cfg tick req provider counts user).direct Db.business drops d =
      (some ((SentinelAI.generateFor cfg (dropping tick drops) req provider d counts user).result,
        (SentinelAI.generateFor cfg (dropping tick drops) req provider d counts user).counts),
        (SentinelAI.generateFor cfg (dropping tick drops) req provider d counts user).db) := by
  unfold generateFor SentinelAI.generateFor
  dsimp only
  by_cases hl : (inboundText req).length > MAX_INPUT_CHARS
  · rw [if_pos hl, if_pos hl]
    exact (does_refuse _ _ _ _ _ _ counts none).direct_counts counts rfl
  · rw [if_neg hl, if_neg hl, Prog.direct_bind direct_inspected]
    by_cases hf : (inspection cfg req).injection.flagged = true
    · rw [if_pos hf, if_pos hf]
      exact (does_refuse _ _ _ _ _ _ counts none).direct_counts counts rfl
    · rw [if_neg hf, if_neg hf]
      by_cases hq : (checkAndIncrement counts (quotaKey user)
          cfg.settings.rateLimitPerSession).1 = true
      · rw [if_pos hq, if_pos hq]
        exact (does_called provider _).direct_counts _ called_frame.1
      · rw [if_neg hq, if_neg hq]
        exact (does_refuse _ _ _ _ _ _ _ none).direct_counts _ rfl

theorem direct_generate (provider : Provider) (counts : SessionCounts) (user : User) :
    (generate cfg tick req provider counts user).direct Db.business drops d =
      (some ((SentinelAI.generate cfg (dropping tick drops) req provider d counts user).result,
        (SentinelAI.generate cfg (dropping tick drops) req provider d counts user).counts),
        (SentinelAI.generate cfg (dropping tick drops) req provider d counts user).db) := by
  have owned : ownedProject d.business req.projectId user.id =
    ownedProject d req.projectId user.id := rfl
  unfold generate SentinelAI.generate
  rw [Prog.direct_bind Prog.direct_get, owned]
  cases ownedProject d req.projectId user.id with
  | error e => rfl
  | ok project => exact direct_generateFor provider counts user

end Generate

section Sync

variable {project : Project}

/-- The handlers see no events. -/
theorem business_recordEvents (tick : Tick) (es : List EventFields) (i : Nat) (d : Db) :
    (d.recordEvents cfg tick i es).business = d.business := by
  rw [Db.recordEvents_eq]
  rfl

theorem recordEvents_append (tick : Tick) : ∀ (es es' : List EventFields) (i : Nat) (d : Db),
    d.recordEvents cfg tick i (es ++ es') =
      (d.recordEvents cfg tick i es).recordEvents cfg tick (i + es.length) es'
  | [], _, _, _ => rfl
  | e :: es, es', i, d => by
      rw [List.cons_append, Db.recordEvents, recordEvents_append tick es es', List.length_cons,
        Nat.add_right_comm]
      rfl

theorem direct_recordOpened : ∀ (fs : List Finding) (i : Nat) (d : Db),
    (∀ f ∈ fs, d.findings.find? f.id = some f) →
    (recordOpened cfg tick project i (fs.map (·.id))).direct Db.business drops d =
      (some (), d.recordEvents cfg (dropping tick drops) i (fs.map (openedEvent project)))
  | [], _, _, _ => rfl
  | f :: fs, i, d, h => by
      obtain ⟨hf, hfs⟩ := List.forall_mem_cons.mp h
      rw [List.map_cons, recordOpened, Prog.direct_bind (direct_reload hf),
        Prog.direct_bind (direct_recordEvent i _)]
      exact direct_recordOpened fs (i + 1) (d.recordEvent cfg (dropping tick drops) i _) hfs

theorem direct_recordRegressed {baseline : Baseline} : ∀ (rs : List DiffEntry) (i : Nat) (d : Db),
    d.baselines.find? baseline.id = some baseline →
    (recordRegressed cfg tick project baseline.id i rs).direct Db.business drops d =
      (some (), d.recordEvents cfg (dropping tick drops) i
        (rs.map (regressedEvent project baseline tick.runId)))
  | [], _, _, _ => rfl
  | r :: rs, i, d, h => by
      rw [recordRegressed, Prog.direct_bind (direct_reload h),
        Prog.direct_bind (direct_recordEvent i _)]
      exact direct_recordRegressed rs (i + 1) (d.recordEvent cfg (dropping tick drops) i _) h

theorem direct_recordRegressions (i : Nat) :
    (recordRegressions cfg tick project i).direct Db.business drops d =
      (some (), d.recordEvents cfg (dropping tick drops) i
        (regressedEvents project d.business tick.runId)) := by
  unfold recordRegressions regressedEvents
  rw [Prog.direct_bind Prog.direct_get]
  cases hb : newestBaseline (of d.business.baselines project.id) with
  | none => rfl
  | some baseline =>
      dsimp only
      split
      · rfl
      · refine direct_recordRegressed _ i d (Table.find?_eq_some_iff.mpr ⟨?_, rfl⟩)
        exact (mem_of.mp (mem_orderDesc.mp (List.mem_of_head? hb))).1

theorem direct_reloadFindings : ∀ fs : List Finding, (∀ f ∈ fs, d.findings.find? f.id = some f) →
    (reloadFindings (fs.map (·.id))).direct Db.business drops d = (some fs, d)
  | [], _ => rfl
  | f :: fs, h => by
      obtain ⟨hf, hfs⟩ := List.forall_mem_cons.mp h
      rw [List.map_cons, reloadFindings, Prog.direct_bind (direct_reload hf),
        Prog.direct_bind (direct_reloadFindings fs hfs)]
      rfl

theorem direct_syncFindings (results : List TestResult) :
    (syncFindings tick project results).direct Db.business drops d =
      (some ((SentinelAI.syncFindings d.findings results (some project.id)
          tick.findingTime).1.map (·.id)),
        { d with
          findings := (SentinelAI.syncFindings d.findings results (some project.id)
            tick.findingTime).2 }) := by
  unfold syncFindings
  rw [Prog.direct_bind Prog.direct_get]
  dsimp only
  rw [Prog.direct_bind (Prog.direct_put _)]
  split
  · rename_i h
    have none_created : (SentinelAI.syncFindings d.findings results (some project.id)
      tick.findingTime).1 = [] := List.isEmpty_iff.mp h
    rw [none_created]
    rfl
  · rfl

theorem direct_syncSecurityFindings (category : Option Str) (source : Str) :
    (syncSecurityFindings cfg tick project category source).direct Db.business drops d =
      (some (SentinelAI.syncSecurityFindings cfg (dropping tick drops) project d category
          source).1,
        (SentinelAI.syncSecurityFindings cfg (dropping tick drops) project d category
          source).2) := by
  unfold syncSecurityFindings
  dsimp only
  rw [Prog.direct_bind (direct_syncFindings _)]
  generalize hr : runSuite (selectTests cfg category) tick.testTime = results
  generalize hs : SentinelAI.syncFindings d.findings results (some project.id)
    tick.findingTime = synced
  have created : ∀ f ∈ synced.1, synced.2.find? f.id = some f := by
    rw [← hs]
    exact fun f => find?_syncFindings
  -- the findings and the run are stored, then the events of both kinds
  have stored : ∀ d : Db, (recordTestRun tick project results source).direct Db.business drops d =
      (some (), { d with
        testRunResults := SentinelAI.recordTestRun d.testRunResults results (some project.id) source
          tick.runId }) := fun _ => rfl
  rw [Prog.direct_bind (stored _), Prog.direct_bind (direct_recordOpened synced.1 0 _ created),
    Prog.direct_bind (direct_recordRegressions _),
    Prog.direct_bind (direct_reloadFindings synced.1 ?_)]
  · rw [SentinelAI.syncSecurityFindings, business_recordEvents]
    dsimp only [dropping]
    rw [hr, hs, recordEvents_append, List.length_map, Nat.zero_add]
    simp only [List.length_map]
    rfl
  · rw [Db.recordEvents_eq, Db.recordEvents_eq]
    exact created

end Sync

section Actions

variable {user : User}

theorem direct_evaluateAction (agentId : Str) (body : ActionRequest) (projectId : Option Int) :
    (evaluateAction cfg tick user agentId body projectId).direct Db.business drops d =
      (some (SentinelAI.evaluateAction cfg (dropping tick drops) user d agentId body projectId).1,
        (SentinelAI.evaluateAction cfg (dropping tick drops) user d agentId body projectId).2) := by
  have owned : ownedIfGiven user d.business projectId = ownedIfGiven user d projectId := rfl
  unfold evaluateAction SentinelAI.evaluateAction
  cases loadProfiles cfg.U cfg.profiles with
  | none => rfl
  | some profiles =>
      dsimp only
      cases profiles.find? (·.agentId == cfg.U.canon agentId) with
      | none => rfl
      | some profile =>
          dsimp only
          rw [Prog.direct_bind Prog.direct_get, owned]
          cases ownedIfGiven user d projectId with
          | error e => rfl
          | ok _ =>
              dsimp only
              generalize hrow : decisionRow cfg.U profile body projectId tick.now = row
              have recorded : (evaluateAndRecord cfg tick profile body projectId).direct Db.business
                  drops d = (some (Table.nextKey d.agentActionLogs.rows),
                    { d with agentActionLogs := d.agentActionLogs.insert row }) := by
                rw [← hrow]
                rfl
              have found : (d.agentActionLogs.insert row).find?
                  (Table.nextKey d.agentActionLogs.rows) = some (d.agentActionLogs.stored row) :=
                Table.find?_eq_some_iff.mpr
                  ⟨Table.mem_insert.mpr (.inr rfl), Table.key_stored _ _⟩
              rw [Prog.direct_bind recorded, Prog.direct_bind (direct_reload found),
                Prog.direct_bind (direct_recordEvents _ 0 _), Prog.direct_bind (direct_reload ?_)]
              · rw [SentinelAI.evaluateAndRecord]
                dsimp only [dropping]
                rw [hrow]
                rfl
              · rw [Db.recordEvents_eq]
                exact found

theorem direct_resolveAction (logId : Int) (approver : Str) (approve : Bool) :
    (resolveAction cfg tick logId approver approve).direct Db.business drops d =
      (some (SentinelAI.resolveAction cfg (dropping tick drops) d logId approver approve).1,
        (SentinelAI.resolveAction cfg (dropping tick drops) d logId approver approve).2) := by
  have checked : checkApproval cfg.U d.business.agentActionLogs logId approver =
    checkApproval cfg.U d.agentActionLogs logId approver := rfl
  unfold resolveAction SentinelAI.resolveAction
  rcases resolveApproval_cases cfg.U d.agentActionLogs logId approver approve tick.now with
    ⟨e, hc, hr⟩ | ⟨row, who, hf, hc, hr⟩
  · have resolved : (resolveApproval cfg tick logId approver approve).direct Db.business drops d =
        (some (.error e), d) := by
      rw [resolveApproval, Prog.direct_bind Prog.direct_get, checked, hc]
      rfl
    rw [Prog.direct_bind resolved]
    dsimp only [dropping]
    rw [hr, Prog.direct_bind Prog.direct_get, Prog.direct_bind (direct_recordEvents _ 0 _)]
    rfl
  · obtain ⟨hm, hk⟩ := Table.find?_eq_some_iff.mp hf
    have found : (commitApproval d.agentActionLogs logId who approve tick.now).find? logId =
        some (row.resolved who approve tick.now) :=
      Table.find?_eq_some_iff.mpr ⟨mem_commitApproval.mpr (.inr ⟨row, hm, hk, rfl⟩), hk⟩
    have resolved : (resolveApproval cfg tick logId approver approve).direct Db.business drops d =
        (some (.ok (row.resolved who approve tick.now)), { d with
          agentActionLogs := commitApproval d.agentActionLogs logId who approve tick.now }) := by
      rw [resolveApproval, Prog.direct_bind Prog.direct_get, checked, hc]
      dsimp only
      rw [Prog.direct_bind (Prog.direct_put _), Prog.direct_bind (Prog.direct_save 0),
        Prog.direct_bind (direct_reload found)]
      rfl
    rw [Prog.direct_bind resolved]
    dsimp only [dropping]
    rw [hr]
    rfl

end Actions

end InSession

section Requests

variable {cfg : Config} {tick : Tick} {record : Nat → Option RecordFault} {w : World}

/-- The request, with the events whose writes are lost. -/
def losing (tick : Tick) (record : Nat → Option RecordFault) : Tick :=
  InSession.dropping tick fun i => RecordFault.drops (record i)

/-- A tidy program in its session does what it does without one. -/
theorem inSession_eq {α : Type} {p : DbProg (Except Raised α)}
    (hp : p.Tidy Db.business false false) {db : Db} {r : Except Raised α × Db}
    (h : p.direct Db.business (fun i => RecordFault.drops (record i)) db = (some r.1, r.2)) :
    inSession record p db = r := by
  rw [inSession, hp.run_eq_direct (fun _ => rfl) h]
  rfl

theorem openBodyIn_eq (client : Option Str) (route : OpenRoute) :
    openBodyIn cfg tick record w client route =
      openBody cfg (losing tick record) w client route := by
  cases route with
  | approve_agent_action logId approver =>
      rw [openBodyIn, inSession_eq (InSession.tidy_resolveAction cfg tick logId approver true)
        (InSession.direct_resolveAction logId approver true)]
      rfl
  | reject_agent_action logId approver =>
      rw [openBodyIn, inSession_eq (InSession.tidy_resolveAction cfg tick logId approver false)
        (InSession.direct_resolveAction logId approver false)]
      rfl
  | _ => rfl

theorem userBodyIn_eq (user : User) (route : UserRoute) :
    userBodyIn cfg tick record user w route =
      userBody cfg (losing tick record) user w route := by
  cases route with
  | evaluate_agent_action agentId body projectId =>
      rw [userBodyIn,
        inSession_eq (InSession.tidy_evaluateAction cfg tick user agentId body projectId)
          (InSession.direct_evaluateAction agentId body projectId)]
      rfl
  | generate req =>
      have ran : Prog.run Db.business ⟨fun _ => false, record⟩
          (InSession.generate cfg tick req (getProvider tick.sdks) w.counts user) w.db = _ :=
        (InSession.tidy_generate cfg tick req _ w.counts user).run_eq_direct (fun _ => rfl)
          (InSession.direct_generate _ w.counts user)
      simp only [userBodyIn, ran]
      rfl
  | _ => rfl

theorem keyBodyIn_eq (project : Project) (db : Db) (route : KeyRoute) :
    keyBodyIn cfg tick record project db route =
      keyBody cfg (losing tick record) project db route := by
  cases route with
  | sync_security_findings category source =>
      exact inSession_eq (InSession.tidy_syncSecurityFindings cfg tick project category source)
        (InSession.direct_syncSecurityFindings category source)
  | regression_report baselineId runId => rfl

/-- The routes of a project record no events. -/
theorem dispatch_ofProject (authorization : Str) (client : Option Str) (p : Int)
    (route : ProjectRoute) :
    Request.dispatch cfg tick ⟨authorization, client, .ofProject p route⟩ w =
      Request.dispatch cfg (losing tick record) ⟨authorization, client, .ofProject p route⟩ w := by
  have body : ∀ project, projectBody cfg tick project w.db route =
      projectBody cfg (losing tick record) project w.db route := by
    intro project
    cases route <;> rfl
  simp only [Request.dispatch, body]
  rfl

theorem dispatchIn_eq (r : Request) :
    r.dispatchIn cfg tick record w = r.dispatch cfg (losing tick record) w := by
  obtain ⟨authorization, client, endpoint⟩ := r
  cases endpoint with
  | unguarded route => exact openBodyIn_eq client route
  | ofUser route =>
      have caller : getCurrentUser cfg (losing tick record).now w.db authorization =
        getCurrentUser cfg tick.now w.db authorization := rfl
      simp only [Request.dispatchIn, Request.dispatch, caller]
      cases getCurrentUser cfg tick.now w.db authorization with
      | error e => rfl
      | ok user => exact userBodyIn_eq user route
  | ofProject p route => exact dispatch_ofProject authorization client p route
  | ofKey p route =>
      have caller : requireProjectOrApiKey cfg (losing tick record) w.db authorization p =
        requireProjectOrApiKey cfg tick w.db authorization p := rfl
      simp only [Request.dispatchIn, Request.dispatch, caller]
      rcases requireProjectOrApiKey cfg tick w.db authorization p with ⟨e | project, db⟩
      · rfl
      · exact congrArg (fun a => (a.1, { w with db := a.2 })) (keyBodyIn_eq project db route)

/-- **The sessions are those of `handle`**, where the events whose writes are lost are dropped. -/
theorem handleIn_eq_handle (r : Request) :
    handleIn cfg tick record w r = handle cfg (losing tick record) w r := by
  have gate : r.gate cfg (losing tick record) = r.gate cfg tick := rfl
  unfold handleIn handle
  rw [gate]
  cases r.gate cfg tick with
  | error e => rfl
  | ok u =>
      dsimp only
      rw [dispatchIn_eq]

end Requests

end SentinelAI
