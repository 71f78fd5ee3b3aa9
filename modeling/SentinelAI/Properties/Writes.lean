import SentinelAI.Proxy.Api
import Mathlib.Logic.Relation

/-!
# Properties — Writes

What the functions behind an ownership check write.  `Write p` is one write to the rows of project
`p`, and every such function is a sequence of them, for the project that was checked; the others
leave the tables that carry the invariant of the database.

* `Writes.same`: writes to project `p` leave the rows of every other project.
* `Writes.wellFormed`: they keep the invariant `WellFormed`: a run id determines its project, a
  baseline pins a run of its own project, no two keys have one hash.
* `wellFormed_run`: the invariant holds in every state of a run in which no run id is drawn twice.
-/

namespace SentinelAI
open Support

/-! ### Rows of one project, and the invariant -/

/-- Two databases have the same project `q`, with the same rows. -/
structure SameProject (q : Int) (d d' : Db) : Prop where
  project : d'.projects.find? q = d.projects.find? q
  callLogs : of d'.callLogs q = of d.callLogs q
  findings : of d'.findings q = of d.findings q
  testRunResults : of d'.testRunResults q = of d.testRunResults q
  agentActionLogs : of d'.agentActionLogs q = of d.agentActionLogs q
  securityEvents : of d'.securityEvents q = of d.securityEvents q
  apiKeys : of d'.apiKeys q = of d.apiKeys q
  baselines : of d'.baselines q = of d.baselines q

theorem SameProject.refl (q : Int) (d : Db) : SameProject q d d :=
  ⟨rfl, rfl, rfl, rfl, rfl, rfl, rfl, rfl⟩

theorem SameProject.trans {q : Int} {d₁ d₂ d₃ : Db} (h₁ : SameProject q d₁ d₂)
    (h₂ : SameProject q d₂ d₃) : SameProject q d₁ d₃ where
  project := h₂.project.trans h₁.project
  callLogs := h₂.callLogs.trans h₁.callLogs
  findings := h₂.findings.trans h₁.findings
  testRunResults := h₂.testRunResults.trans h₁.testRunResults
  agentActionLogs := h₂.agentActionLogs.trans h₁.agentActionLogs
  securityEvents := h₂.securityEvents.trans h₁.securityEvents
  apiKeys := h₂.apiKeys.trans h₁.apiKeys
  baselines := h₂.baselines.trans h₁.baselines

/-- What holds of the database at every time. -/
structure WellFormed (d : Db) : Prop where
  runs : ∀ r ∈ d.testRunResults.rows, ∀ s ∈ d.testRunResults.rows, r.runId = s.runId →
    r.projectId = s.projectId
  pinned : ∀ b ∈ d.baselines.rows, ∃ r ∈ d.testRunResults.rows, r.runId = b.runId ∧
    r.projectId = b.projectId
  hashes : ∀ k ∈ d.apiKeys.rows, ∀ l ∈ d.apiKeys.rows, k.keyHash = l.keyHash → k = l

/-- The rows of a run of the project are the project's. -/
theorem runRows_eq {d : Db} (hd : WellFormed d) {p : Int} {runId : Str}
    (h : ∃ r ∈ of d.testRunResults p, r.runId = runId) :
    runRows d.testRunResults runId = (of d.testRunResults p).filter (·.runId == runId) := by
  obtain ⟨r, hr, hid⟩ := h
  obtain ⟨hm, hp⟩ := mem_of.mp hr
  rw [runRows, of, List.filter_filter]
  refine List.filter_congr fun s hs => ?_
  by_cases he : s.runId = runId
  · have : InProject.projectId s = some p := (hd.runs s hs r hm (he.trans hid.symm)).trans hp
    simp [he, this]
  · simp [he]

/-! ### Writes -/

/-- One write to the rows of project `p`. -/
inductive Write (p : Int) (d : Db) : Db → Prop where
  | callLog (r : CallLog) (h : r.projectId = some p) :
      Write p d { d with callLogs := d.callLogs.insert r }
  | finding (f : Finding) (h : f.projectId = some p) :
      Write p d { d with findings := d.findings.insert f }
  | patch (i : Int) (g : Finding → Finding)
      (h : ∀ f ∈ d.findings.rows, f.id = i → f.projectId = some p)
      (hg : ∀ f, (g f).projectId = f.projectId) :
      Write p d { d with findings := d.findings.modify i g }
  | run (r : TestRunResult) (h : r.projectId = some p)
      (hr : ∀ s ∈ d.testRunResults.rows, s.runId = r.runId → s.projectId = some p) :
      Write p d { d with testRunResults := d.testRunResults.insert r }
  | action (r : AgentActionLog) (h : r.projectId = some p) :
      Write p d { d with agentActionLogs := d.agentActionLogs.insert r }
  | event (e : SecurityEvent) (h : e.projectId = some p) :
      Write p d { d with securityEvents := d.securityEvents.insert e }
  | key (k : ProjectAPIKey) (h : k.projectId = p)
      (hk : ∀ l ∈ d.apiKeys.rows, l.keyHash ≠ k.keyHash) :
      Write p d { d with apiKeys := d.apiKeys.insert k }
  | keyUpdate (i : Int) (g : ProjectAPIKey → ProjectAPIKey)
      (h : ∀ k ∈ d.apiKeys.rows, k.id = i → k.projectId = p)
      (hg : ∀ k, (g k).projectId = k.projectId ∧ (g k).keyHash = k.keyHash) :
      Write p d { d with apiKeys := d.apiKeys.modify i g }
  | baseline (b : Baseline) (h : b.projectId = some p)
      (hb : ∃ r ∈ d.testRunResults.rows, r.runId = b.runId ∧ r.projectId = some p) :
      Write p d { d with baselines := d.baselines.insert b }
  | project (g : Project → Project) (hg : ∀ r, (g r).workspaceId = r.workspaceId) :
      Write p d { d with projects := d.projects.modify p g }

/-- Writes to the rows of project `p`, one after the other. -/
abbrev Writes (p : Int) : Db → Db → Prop := Relation.ReflTransGen (Write p)

theorem Write.same {p q : Int} (hq : q ≠ p) {d d' : Db} (h : Write p d d') :
    SameProject q d d' := by
  have other {o : Option Int} (h : o = some p) : o ≠ some q := by
    rw [h]
    exact fun e => hq (Option.some.inj e).symm
  have same := SameProject.refl q d
  cases h with
  | callLog r h => exact { same with callLogs := of_insert (other h) }
  | finding f h => exact { same with findings := of_insert (other h) }
  | patch i g h hg =>
      exact { same with findings := of_modify (fun f hf hi => other (h f hf hi)) hg }
  | run r h _ => exact { same with testRunResults := of_insert (other h) }
  | action r h => exact { same with agentActionLogs := of_insert (other h) }
  | event e h => exact { same with securityEvents := of_insert (other h) }
  | key k h _ => exact { same with apiKeys := of_insert (other (congrArg some h)) }
  | keyUpdate i g h hg =>
      exact { same with
        apiKeys := of_modify (fun k hk hi => other (congrArg some (h k hk hi)))
          fun k => congrArg some (hg k).1 }
  | baseline b h _ => exact { same with baselines := of_insert (other h) }
  | project g _ =>
      refine { same with project := ?_ }
      cases hf : d.projects.find? q with
      | none =>
          rw [Table.find?_eq_none_iff] at hf ⊢
          intro r hr
          rcases Table.mem_modify.mp hr with ⟨hr, -⟩ | ⟨s, -, -, rfl⟩
          · exact hf r hr
          · rw [Row.key_setKey]
            exact hq.symm
      | some r =>
          obtain ⟨hr, hk⟩ := Table.find?_eq_some_iff.mp hf
          exact Table.find?_eq_some_iff.mpr
            ⟨Table.mem_modify.mpr (.inl ⟨hr, fun h => hq (hk.symm.trans h)⟩), hk⟩

theorem Writes.same {p q : Int} (hq : q ≠ p) {d d' : Db} (h : Writes p d d') :
    SameProject q d d' := by
  induction h with
  | refl => exact .refl q d
  | tail _ h ih => exact ih.trans (h.same hq)

theorem Write.wellFormed {p : Int} {d d' : Db} (h : Write p d d') (hd : WellFormed d) :
    WellFormed d' := by
  cases h with
  | run r h hr =>
      refine { hd with runs := fun a ha b hb hab => ?_, pinned := fun b hb => ?_ }
      · -- the new row joins a run whose rows are all of project `p`
        rcases Table.mem_insert.mp ha with ha | rfl <;> rcases Table.mem_insert.mp hb with hb | rfl
        · exact hd.runs a ha b hb hab
        · exact (hr a ha hab).trans h.symm
        · exact h.trans (hr b hb hab.symm).symm
        · rfl
      · obtain ⟨r', hr', he⟩ := hd.pinned b hb
        exact ⟨r', Table.mem_insert.mpr (.inl hr'), he⟩
  | key k _ hk =>
      refine { hd with hashes := fun a ha b hb hab => ?_ }
      rcases Table.mem_insert.mp ha with ha | rfl <;> rcases Table.mem_insert.mp hb with hb | rfl
      · exact hd.hashes a ha b hb hab
      · exact absurd hab (hk a ha)
      · exact absurd hab.symm (hk b hb)
      · rfl
  | keyUpdate i g _ hg =>
      refine { hd with hashes := fun a ha b hb hab => ?_ }
      -- an update keeps the hash, so keys of one hash were one key before
      have key_of {s : ProjectAPIKey} (hs : s ∈ (d.apiKeys.modify i g).rows) :
          ∃ r ∈ d.apiKeys.rows, s.keyHash = r.keyHash ∧
            s = if r.id = i then Row.setKey i (g r) else r := by
        rcases Table.mem_modify.mp hs with ⟨hs, hi⟩ | ⟨r, hr, hi, rfl⟩
        · exact ⟨s, hs, rfl, (if_neg hi).symm⟩
        · exact ⟨r, hr, (hg r).2, (if_pos hi).symm⟩
      obtain ⟨r, hr, hra, rfl⟩ := key_of ha
      obtain ⟨s, hs, hsb, rfl⟩ := key_of hb
      rw [hd.hashes r hr s hs (hra.symm.trans (hab.trans hsb))]
  | baseline b h hb =>
      refine { hd with pinned := fun c hc => ?_ }
      rcases Table.mem_insert.mp hc with hc | rfl
      · exact hd.pinned c hc
      · obtain ⟨r, hr, h₁, h₂⟩ := hb
        exact ⟨r, hr, h₁, h₂.trans h.symm⟩
  | callLog r h => exact ⟨hd.runs, hd.pinned, hd.hashes⟩
  | finding f h => exact ⟨hd.runs, hd.pinned, hd.hashes⟩
  | patch i g h hg => exact ⟨hd.runs, hd.pinned, hd.hashes⟩
  | action r h => exact ⟨hd.runs, hd.pinned, hd.hashes⟩
  | event e h => exact ⟨hd.runs, hd.pinned, hd.hashes⟩
  | project g => exact ⟨hd.runs, hd.pinned, hd.hashes⟩

theorem Writes.wellFormed {p : Int} {d d' : Db} (h : Writes p d d') (hd : WellFormed d) :
    WellFormed d' := by
  induction h with
  | refl => exact hd
  | tail _ h ih => exact h.wellFormed ih

/-! ### What the functions write -/

section Functions

variable {cfg : Config} {tick : Tick} {p : Int} {db : Db}

theorem writes_recordEvent {i : Nat} {e : EventFields} (h : e.projectId = some p) :
    Writes p db (db.recordEvent cfg tick i e) := by
  rcases recordEvent_snd cfg.settings db.securityEvents e (tick.eventTime i)
    (tick.eventFault i) with ht | ht
  · rw [Db.recordEvent, ht]
  · rw [Db.recordEvent, ht]
    exact .single (.event _ h)

theorem writes_recordEvents : ∀ {es : List EventFields} {db : Db} {i : Nat},
    (∀ e ∈ es, e.projectId = some p) → Writes p db (db.recordEvents cfg tick i es)
  | [], _, _, _ => .refl
  | e :: _, _, _, h =>
      (writes_recordEvent (h e List.mem_cons_self)).trans
        (writes_recordEvents fun e' he => h e' (List.mem_cons_of_mem _ he))

/-! ### `generate` -/

section Generate

variable {req : GenerateRequest}

theorem writes_logCall (usage : Usage) (guardrails : Guardrails) (code : Option GenerateError) :
    Writes req.projectId db (logCall tick req usage guardrails code db) :=
  .single (.callLog _ rfl)

theorem writes_refuse {statusCode : Nat} {code : GenerateError} {message : Str} {usage : Usage}
    {guardrails : Guardrails} {event : Option EventFields} {counts : SessionCounts}
    {sent : Option (List Message)} (h : ∀ e, event = some e → e.projectId = some req.projectId) :
    Writes req.projectId db
      (refuse cfg tick req statusCode code message usage guardrails event db counts sent).db := by
  unfold refuse
  cases event with
  | none => exact writes_logCall usage guardrails (some code)
  | some e =>
      exact (writes_logCall usage guardrails (some code)).trans (writes_recordEvent (h e rfl))

theorem writes_inspected (cfg : Config) (tick : Tick) :
    Writes req.projectId db (inspected cfg tick req db) := by
  unfold inspected
  dsimp only
  split
  · exact writes_recordEvent rfl
  · exact .refl

theorem writes_scanned (cfg : Config) (tick : Tick) (llm : LLMResponse) :
    Writes req.projectId db (scanned cfg tick req llm db) := by
  unfold scanned
  dsimp only
  split
  · exact writes_recordEvent rfl
  · exact .refl

theorem writes_answered (llm : LLMResponse) (counts : SessionCounts) :
    Writes req.projectId db (answered cfg tick req llm db counts).db := by
  refine (writes_scanned cfg tick llm).trans ?_
  unfold answered
  dsimp only
  split
  · exact writes_logCall _ _ _
  · split
    · exact writes_logCall _ _ _
    · exact writes_refuse fun _ h => nomatch h
    · exact .refl

theorem writes_called (provider : Provider) (counts : SessionCounts) :
    Writes req.projectId db (called cfg tick req provider db counts).db := by
  unfold called
  split
  · exact writes_answered _ counts
  · exact writes_refuse fun _ h => nomatch h
  · exact writes_refuse fun _ h => nomatch h

theorem writes_generateFor (provider : Provider) (counts : SessionCounts) (user : User) :
    Writes req.projectId db (generateFor cfg tick req provider db counts user).db := by
  have named {eventType : EventType} {severity category summary : Str}
      {details : List (Str × Json)} :
      ∀ e, some (requestEvent req eventType severity category summary details) = some e →
        e.projectId = some req.projectId := by
    rintro e ⟨⟩
    rfl
  unfold generateFor
  dsimp only
  split
  · exact writes_refuse named
  · refine (writes_inspected cfg tick).trans ?_
    split
    · exact writes_refuse named
    · split
      · exact writes_called provider _
      · exact writes_refuse named

theorem writes_generate (provider : Provider) (counts : SessionCounts) (user : User) :
    Writes req.projectId db (generate cfg tick req provider db counts user).db := by
  unfold generate
  split
  · exact .refl
  · exact writes_generateFor provider counts user

end Generate

/-! ### Routes of a user -/

variable {user : User}

theorem writes_updateFindingStatus (tick : Tick) (user : User) (db : Db) (findingId : Int)
    (status : FindingStatus) :
    (updateFindingStatus tick user db findingId status).2 = db ∨
      ∃ q, Owns db user.id q ∧
        Writes q db (updateFindingStatus tick user db findingId status).2 := by
  unfold updateFindingStatus ownedFinding
  cases hf : db.findings.find? findingId with
  | none => exact .inl rfl
  | some finding =>
      dsimp only
      cases hp : finding.projectId with
      | none => exact .inl rfl
      | some q =>
          dsimp only
          cases ho : ownedProject db q user.id with
          | error e => exact .inl rfl
          | ok project =>
              refine .inr ⟨q, (owns_of_ownedProject ho).1, .single (.patch findingId _ ?_ ?_)⟩
              · intro f hf' hi
                obtain ⟨hm, hk⟩ := Table.find?_eq_some_iff.mp hf
                rw [Table.eq_of_key hf' hm (hi.trans hk.symm), hp]
              · intro f
                unfold Finding.patched
                split <;> rfl

theorem denialEvent_projectId {profile : AgentProfile} {decision : PolicyDecision}
    {row : AgentActionLog} :
    ∀ e ∈ denialEvent profile decision row, e.projectId = row.projectId := by
  intro e he
  unfold denialEvent at he
  split at he
  · rw [List.mem_singleton.mp he]
  · cases he

/-- An evaluation for a project. -/
theorem writes_evaluateAction (cfg : Config) (tick : Tick) (user : User) (db : Db) (p : Int)
    (agentId : Str) (body : ActionRequest) :
    (evaluateAction cfg tick user db agentId body (some p)).2 = db ∨
      (Owns db user.id p ∧
        Writes p db (evaluateAction cfg tick user db agentId body (some p)).2) := by
  unfold evaluateAction
  split
  · exact .inl rfl
  · split
    · exact .inl rfl
    · split
      · exact .inl rfl
      · rename_i profile _ _ ho
        refine .inr ⟨?_, ?_⟩
        · rw [ownedIfGiven] at ho
          cases hp : ownedProject db p user.id with
          | error e => rw [hp] at ho; cases ho
          | ok project => exact (owns_of_ownedProject hp).1
        · exact .trans
            (.single (.action (decisionRow cfg.U profile body (some p) tick.now) rfl))
            (writes_recordEvents fun e he => (denialEvent_projectId e he).trans rfl)

/-! ### Routes of a project -/

variable {project : Project}

theorem writes_updateProject (body : ProjectUpdate) :
    Writes project.id db (updateProject project db body).2 :=
  .single (.project _ fun _ => rfl)

theorem writes_createProjectApiKey (name : Str) :
    Writes project.id db (createProjectApiKey cfg tick project db name).2 := by
  unfold createProjectApiKey createApiKey
  dsimp only
  split
  · exact .refl
  · rename_i hk
    split at hk
    · cases hk
    · rename_i hn
      cases hk
      refine .single (.key _ rfl fun l hl he => hn ?_)
      exact List.any_eq_true.mpr ⟨l, hl, beq_iff_eq.mpr he⟩

theorem writes_revokeProjectApiKey (keyId : Int) :
    Writes project.id db (revokeProjectApiKey tick project db keyId).2 := by
  unfold revokeProjectApiKey revokeApiKey
  cases hf : db.apiKeys.find? keyId with
  | none => exact .refl
  | some row =>
      dsimp only
      by_cases hp : row.projectId = project.id
      · rw [if_pos hp]
        refine .single (.keyUpdate keyId _ (fun k hk hi => ?_) fun k => ⟨rfl, rfl⟩)
        obtain ⟨hm, hk'⟩ := Table.find?_eq_some_iff.mp hf
        -- the key revoked is the one that was looked up, and is the project's
        rw [Table.eq_of_key hk hm (hi.trans hk'.symm), hp]
      · rw [if_neg hp]

/-- A row with the run id of the baseline, among the rows of its project. -/
theorem mem_of_baselineRun {rows : List TestRunResult} {runId : Option Str} {target : Str}
    (h : baselineRun rows runId = some target) : ∃ r ∈ rows, r.runId = target := by
  unfold baselineRun at h
  split at h
  · cases h
  · split at h
    · rename_i ha
      cases h
      simpa using ha
    · cases h

theorem writes_createSecurityBaseline (name : Str) (runId : Option Str) :
    Writes project.id db (createSecurityBaseline tick project db name runId).2 := by
  unfold createSecurityBaseline
  split
  · exact .refl
  · rename_i target ht
    obtain ⟨r, hr, hid⟩ := mem_of_baselineRun ht
    obtain ⟨hm, hp⟩ := mem_of.mp hr
    exact .single (.baseline _ rfl ⟨r, hm, hid, hp⟩)

theorem writes_projectBody (route : ProjectRoute) :
    Writes project.id db (projectBody cfg tick project db route).2 := by
  cases route with
  | update_project body => exact writes_updateProject body
  | create_project_api_key name => exact writes_createProjectApiKey name
  | revoke_project_api_key keyId => exact writes_revokeProjectApiKey keyId
  | create_security_baseline name runId => exact writes_createSecurityBaseline name runId
  | _ => exact .refl

/-! ### Routes that take an API key -/

theorem writes_syncOne {clock : Nat → Time} : ∀ (results : List TestResult)
    (acc : List Finding × Table Finding),
    Writes p { db with findings := acc.2 }
      { db with findings := (results.foldl (syncOne (some p) clock) acc).2 }
  | [], _ => .refl
  | result :: results, acc => by
      rw [List.foldl_cons]
      refine .trans ?_ (writes_syncOne results _)
      unfold syncOne
      split
      · exact .refl
      · exact .single (.finding _ rfl)

theorem writes_runRows {source runId : Str} : ∀ (results : List TestResult)
    {t : Table TestRunResult}, (∀ s ∈ t.rows, s.runId = runId → s.projectId = some p) →
    Writes p { db with testRunResults := t }
      { db with testRunResults := recordTestRun t results (some p) source runId }
  | [], _, _ => .refl
  | result :: results, t, h => by
      rw [recordTestRun, List.foldl_cons]
      refine .trans (.single (.run (runRow (some p) source runId result) rfl h))
        (writes_runRows results fun s hs he => ?_)
      -- the row just written is one of the run, and of the project
      rcases Table.mem_insert.mp hs with hs | rfl
      · exact h s hs he
      · rfl

/-- No row has the run id yet. -/
def FreshId (db : Db) (runId : Str) : Prop := ∀ r ∈ db.testRunResults.rows, r.runId ≠ runId

theorem regressedEvents_projectId {runId : Str} :
    ∀ e ∈ regressedEvents project db runId, e.projectId = some project.id := by
  intro e he
  obtain ⟨_, _, rfl⟩ := exists_of_mem_regressedEvents he
  rfl

theorem writes_recordTestRun (results : List TestResult) (source : Str) {runId : Str}
    (h : FreshId db runId) :
    Writes p db
      { db with testRunResults := recordTestRun db.testRunResults results (some p) source runId } :=
  writes_runRows results fun s hs he => absurd he (h s hs)

theorem writes_syncSecurityFindings {category : Option Str} {source : Str}
    (h : FreshId db tick.runId) :
    Writes project.id db (syncSecurityFindings cfg tick project db category source).2 := by
  have opened (results : List TestResult) : Writes project.id db
      { db with
        findings := (syncFindings db.findings results (some project.id) tick.findingTime).2 } :=
    writes_syncOne results ([], db.findings)
  refine (opened _).trans (.trans (writes_recordTestRun _ source h)
    (writes_recordEvents fun e he => ?_))
  rcases List.mem_append.mp he with he | he
  · obtain ⟨f, -, rfl⟩ := List.mem_map.mp he
    rfl
  · exact regressedEvents_projectId e he

theorem writes_keyBody (route : KeyRoute)
    (h : ∀ category source, route = .sync_security_findings category source →
      FreshId db tick.runId) :
    Writes project.id db (keyBody cfg tick project db route).2 := by
  cases route with
  | sync_security_findings category source => exact writes_syncSecurityFindings (h _ _ rfl)
  | regression_report baselineId runId => exact .refl

/-- Stamping a key writes to its own project. -/
theorem writes_verifyApiKey (cfg : Config) (tick : Tick) (db : Db) (rawKey : Str) :
    (verifyApiKey cfg tick db rawKey).2 = db ∨ ∃ q,
      (verifyApiKey cfg tick db rawKey).1.map (·.id) = some q ∧
      Writes q db (verifyApiKey cfg tick db rawKey).2 := by
  rcases verifyApiKey_snd cfg tick db rawKey with h | ⟨row, project, hr, h⟩
  · exact .inl h
  · refine .inr ⟨project.id, by rw [verifyApiKey_fst, hr]; rfl, ?_⟩
    rw [h]
    refine .single (.keyUpdate row.id _ (fun k hk hi => ?_) fun k => ⟨rfl, rfl⟩)
    unfold resolveApiKey at hr
    split at hr
    · split at hr
      · cases hr
      · rename_i row' hf
        split at hr
        · cases hr
        · obtain ⟨project', hp, he⟩ := Option.map_eq_some_iff.mp hr
          cases he
          rw [Table.eq_of_key hk (List.mem_of_find?_eq_some hf) hi]
          exact (Table.find?_eq_some_iff.mp hp).2.symm
    · cases hr

end Functions

/-! ### The other functions -/

/-- The tables that carry the invariant are the same. -/
structure SameCore (d d' : Db) : Prop where
  testRunResults : d'.testRunResults = d.testRunResults
  baselines : d'.baselines = d.baselines
  apiKeys : d'.apiKeys = d.apiKeys

theorem SameCore.wellFormed {d d' : Db} (h : SameCore d d') (hd : WellFormed d) :
    WellFormed d' where
  runs := h.testRunResults ▸ hd.runs
  pinned := h.testRunResults ▸ h.baselines ▸ hd.pinned
  hashes := h.apiKeys ▸ hd.hashes

section Core

variable {cfg : Config} {tick : Tick} {db : Db} {w : World} {user : User}

theorem sameCore_openBody {client : Option Str} (route : OpenRoute) :
    SameCore w.db (openBody cfg tick w client route).2.db := by
  obtain ⟨_, _, _, _, h, -⟩ := @openBody_frame cfg tick w client route
  rw [h]
  exact ⟨rfl, rfl, rfl⟩

theorem sameCore_createProject {body : ProjectCreate} :
    SameCore db (createProject tick user db body).2 := by
  obtain ⟨_, _, h⟩ := @createProject_frame tick user db body
  rw [h]
  exact ⟨rfl, rfl, rfl⟩

theorem sameCore_evaluateAction {agentId : Str} {body : ActionRequest} {projectId : Option Int} :
    SameCore db (evaluateAction cfg tick user db agentId body projectId).2 := by
  obtain ⟨_, _, h⟩ := @evaluateAction_frame cfg tick user db agentId body projectId
  rw [h]
  exact ⟨rfl, rfl, rfl⟩

end Core

/-! ### Runs -/

section Runs

variable {cfg : Config} {tick : Tick} {w : World}

/-- A sync draws a run id that no row has. -/
def FreshRunId (w : World) (h : Tick × Happening) : Prop :=
  ∀ r p category source, h.2 = .request r →
    r.endpoint = .ofKey p (.sync_security_findings category source) → FreshId w.db h.1.runId

theorem wellFormed_userBody {user : User} (route : UserRoute) (hw : WellFormed w.db) :
    WellFormed (userBody cfg tick user w route).2.db := by
  cases route with
  | create_project body => exact sameCore_createProject.wellFormed hw
  | evaluate_agent_action agentId body projectId => exact sameCore_evaluateAction.wellFormed hw
  | update_finding_status findingId status =>
      rcases writes_updateFindingStatus tick user w.db findingId status with h | ⟨q, -, h⟩
      · exact (congrArg WellFormed h).mpr hw
      · exact h.wellFormed hw
  | generate req => exact (writes_generate _ _ user).wellFormed hw
  | _ => exact hw

theorem wellFormed_verifyApiKey {db : Db} {rawKey : Str} (h : WellFormed db) :
    WellFormed (verifyApiKey cfg tick db rawKey).2 := by
  rcases writes_verifyApiKey cfg tick db rawKey with he | ⟨q, -, hw⟩
  · rw [he]
    exact h
  · exact hw.wellFormed h

theorem wellFormed_requireProjectOrApiKey (cfg : Config) (tick : Tick) {db : Db} (header : Str)
    (p : Int) (h : WellFormed db) :
    WellFormed (requireProjectOrApiKey cfg tick db header p).2 := by
  rcases requireProjectOrApiKey_snd cfg tick db header p with he | ⟨rawKey, he⟩
  · rw [he]
    exact h
  · rw [he]
    exact wellFormed_verifyApiKey h

theorem wellFormed_handle {r : Request} (hf : FreshRunId w (tick, .request r))
    (hw : WellFormed w.db) : WellFormed (handle cfg tick w r).2.db := by
  have left := leaves_handle cfg tick w r
  generalize (handle cfg tick w r).2 = w' at left ⊢
  cases left with
  | refused => exact hw
  | @stamped p route keys he hk =>
      exact hk ▸ wellFormed_requireProjectOrApiKey cfg tick r.authorization p hw
  | unguarded he => exact (sameCore_openBody _).wellFormed hw
  | ofUser hg he hu => exact wellFormed_userBody _ hw
  | ofProject he hp => exact (writes_projectBody _).wellFormed hw
  | @ofKey p route project keys he hp =>
      -- the key is stamped first; the rows of the runs stay as they were
      have hd := wellFormed_requireProjectOrApiKey cfg tick r.authorization p hw
      rw [hp] at hd
      refine (writes_keyBody route fun category source hs => ?_).wellFormed hd
      exact hf r p category source rfl (hs ▸ he)

theorem wellFormed_step {h : Tick × Happening} {w' : World} (hs : Step cfg w h w')
    (hf : FreshRunId w h) (hw : WellFormed w.db) : WellFormed w'.db := by
  obtain ⟨tick, happening⟩ := h
  rcases step_cases hs with ⟨r, rfl, he⟩ | ⟨-, _, he⟩
  · rw [he]
    exact wellFormed_handle hf hw
  · rw [he]
    exact SameCore.wellFormed (d := w.db) ⟨rfl, rfl, rfl⟩ hw

/-- The state is reached by a run in which no run id is drawn twice. -/
def Reached (cfg : Config) (w : World) : Prop :=
  ∃ hs, Run.All (Step cfg) (fun w h _ => FreshRunId w h) .empty hs w

/-- Requests that are no syncs draw no run id. -/
theorem reached_serveAll (tick : Tick) (rs : List Request) (h : ∀ r ∈ rs, ∀ p category source,
      r.endpoint ≠ .ofKey p (.sync_security_findings category source)) :
    Reached cfg (serveAll cfg tick .empty rs) := by
  have run : ∀ (rs : List Request) (w : World), (∀ r ∈ rs, ∀ p category source,
      r.endpoint ≠ .ofKey p (.sync_security_findings category source)) →
      Run.All (Step cfg) (fun w h _ => FreshRunId w h) w (rs.map fun r => (tick, .request r))
        (serveAll cfg tick w rs) := by
    intro rs
    induction rs with
    | nil => exact fun w _ => .nil w
    | cons r rs ih =>
        intro w h
        refine .cons rfl ?_ (ih _ fun s hs => h s (List.mem_cons_of_mem _ hs))
        rintro _ p category source ⟨⟩ he
        exact absurd he (h r List.mem_cons_self p category source)
  exact ⟨_, run rs .empty h⟩

/-- **The invariant holds in every state reached.** -/
theorem wellFormed_run (h : Reached cfg w) : WellFormed w.db := by
  obtain ⟨hs, h⟩ := h
  refine h.invariant (I := fun w => WellFormed w.db)
    (fun _ _ _ hs hf hw => wellFormed_step hs hf hw) ⟨?_, ?_, ?_⟩
  · exact fun r hr => nomatch hr
  · exact fun b hb => nomatch hb
  · exact fun k hk => nomatch hk

end Runs

end SentinelAI
