import SentinelAI.Properties.Baselines

/-!
# Properties — Monitoring

A sync records an event for each finding it opens, and one for each regression of its run against
the newest baseline.  The regression report of the project, asked for afterwards, looks for the
baseline and the run on its own: the baseline is the same, since a sync makes none, and the run is
that of the sync where it is the newest one.

* `events_syncSecurityFindings`: the events of a sync whose events are all stored.
* `regressionReport_after_sync`: the regressions of the default report are those of its events.
* `monitoring_agrees`: so the events agree with the findings and with the report.
-/

namespace SentinelAI
open Support

/-! ### Events that are stored -/

/-- What an event was recorded with. -/
def SecurityEvent.fields (e : SecurityEvent) : EventFields where
  eventType := e.eventType
  severity := e.severity
  category := e.category
  source := e.source
  summary := e.summary
  application := e.application
  model := e.model
  details := e.details
  projectId := e.projectId

/-- No event is left out for the settings, or lost. -/
structure RecordsAll (cfg : Config) (tick : Tick) : Prop where
  enabled : cfg.settings.eventsEnabled = true
  every_severity : cfg.settings.eventsMinSeverity = .info
  stored : ∀ i, tick.eventFault i = false

section Events

variable {cfg : Config} {tick : Tick}

theorem RecordsAll.recordEvent (h : RecordsAll cfg tick) (t : Table SecurityEvent) (e : EventFields)
    (now : Time) (i : Nat) :
    (SentinelAI.recordEvent cfg.settings t e now (tick.eventFault i)).2 = t.insert (e.row now) := by
  have any_rank : ¬ severityRank e.severity < cfg.settings.eventsMinSeverity.rank := by
    rw [h.every_severity]
    exact Nat.not_lt_zero _
  simp [SentinelAI.recordEvent, h.enabled, any_rank, h.stored]

/-- Every event is stored, in order. -/
theorem RecordsAll.rows (h : RecordsAll cfg tick) : ∀ (es : List EventFields) (db : Db) (i : Nat),
    ∃ new, (db.recordEvents cfg tick i es).securityEvents.rows = db.securityEvents.rows ++ new ∧
      new.map (·.fields) = es
  | [], db, _ => ⟨[], (List.append_nil _).symm, rfl⟩
  | e :: es, db, i => by
      obtain ⟨new, hrows, hnew⟩ := h.rows es (db.recordEvent cfg tick i e) (i + 1)
      refine ⟨db.securityEvents.stored (e.row (tick.eventTime i)) :: new, ?_, ?_⟩
      · rw [Db.recordEvents, hrows, Db.recordEvent, h.recordEvent, Table.rows_insert,
          List.append_assoc, List.singleton_append]
      · rw [List.map_cons, hnew]
        rfl

end Events

/-! ### The report after a sync -/

section Sync

variable {cfg : Config} {tick : Tick} {project : Project} {db : Db} {category : Option Str}
  {source : Str}

/-- The events of a sync, of one type. -/
def ofType (type : EventType) (events : List SecurityEvent) : List SecurityEvent :=
  events.filter (·.eventType == type)

/-- The test that an event is about. -/
def SecurityEvent.test (e : SecurityEvent) : Json := e.details.get "test_id"

/-- The database with what a sync adds, its events apart. -/
def synced (cfg : Config) (tick : Tick) (project : Project) (db : Db) (category : Option Str)
    (source : Str) : Db :=
  let results := runSuite (selectTests cfg category) tick.testTime
  { db with
    findings := (syncFindings db.findings results (some project.id) tick.findingTime).2
    testRunResults := recordTestRun db.testRunResults results (some project.id) source tick.runId }

theorem type_regressedEvents {runId : Str} :
    ∀ e ∈ regressedEvents project db runId, e.eventType = .regression_detected := by
  intro e he
  obtain ⟨_, _, rfl⟩ := exists_of_mem_regressedEvents he
  rfl

/-- Of the events of a sync, those of one type. -/
theorem map_fields_ofType (type : EventType) {new : List SecurityEvent} {es : List EventFields}
    (h : new.map (·.fields) = es) :
    (ofType type new).map (·.fields) = es.filter (·.eventType == type) := by
  rw [← h, List.filter_map]
  rfl

variable (project db category source) in
/-- **The events of a sync**: one for each finding it opens, then one for each regression. -/
theorem events_syncSecurityFindings (h : RecordsAll cfg tick) :
    ∃ created new,
      (syncSecurityFindings cfg tick project db category source).2.findings.rows =
        db.findings.rows ++ created ∧
      (syncSecurityFindings cfg tick project db category source).2.securityEvents.rows =
        db.securityEvents.rows ++ new ∧
      (ofType .finding_opened new).map (·.fields) = created.map (openedEvent project) ∧
      (ofType .regression_detected new).map (·.fields) =
        regressedEvents project (synced cfg tick project db category source) tick.runId := by
  obtain ⟨created, hcreated⟩ : ∃ created, (syncFindings db.findings
    (runSuite (selectTests cfg category) tick.testTime) (some project.id) tick.findingTime).1 =
      created := ⟨_, rfl⟩
  have stored : (syncSecurityFindings cfg tick project db category source).2 =
      (synced cfg tick project db category source).recordEvents cfg tick 0
        (created.map (openedEvent project) ++
          regressedEvents project (synced cfg tick project db category source) tick.runId) := by
    rw [← hcreated]
    rfl
  obtain ⟨new, hrows, hnew⟩ := h.rows _ (synced cfg tick project db category source) 0
  rw [← stored] at hrows
  have opened : ∀ e ∈ created.map (openedEvent project), e.eventType = .finding_opened := by
    intro e he
    obtain ⟨f, -, rfl⟩ := List.mem_map.mp he
    rfl
  refine ⟨created, new, ?_, hrows, ?_, ?_⟩
  · rw [stored, Db.recordEvents_eq, ← hcreated]
    exact rows_syncFindings _ _ _ _
  · rw [map_fields_ofType _ hnew, List.filter_append,
      List.filter_eq_self.mpr fun e he => by simp [opened e he],
      List.filter_eq_nil_iff.mpr fun e he => by simp [type_regressedEvents e he], List.append_nil]
  · rw [map_fields_ofType _ hnew, List.filter_append,
      List.filter_eq_nil_iff.mpr fun e he => by simp [opened e he],
      List.filter_eq_self.mpr fun e he => by simp [type_regressedEvents e he], List.nil_append]

/-- The results of a sync, of which there are some, are newer than those of the earlier runs of the
project. -/
structure NewestRun (cfg : Config) (tick : Tick) (db : Db) (p : Int) (category : Option Str) :
    Prop where
  nonempty : runSuite (selectTests cfg category) tick.testTime ≠ []
  newer : ∀ result ∈ runSuite (selectTests cfg category) tick.testTime,
    ∀ r ∈ of db.testRunResults p, r.executedAt < result.executedAt

/-- The run of the sync is the latest one. -/
theorem NewestRun.latestRunId (h : NewestRun cfg tick db project.id category) :
    SentinelAI.latestRunId
      (of (synced cfg tick project db category source).testRunResults project.id) =
        some tick.runId := by
  obtain ⟨new, hrows, hnew⟩ := rows_recordTestRun db.testRunResults
    (runSuite (selectTests cfg category) tick.testTime) (some project.id) source tick.runId
  have mine : new.filter (InProject.projectId · == some project.id) = new := by
    refine List.filter_eq_self.mpr fun r hr => ?_
    exact beq_iff_eq.mpr (mem_recordTestRun hnew hr).2.1
  rw [of, synced, hrows, List.filter_append, mine]
  refine latestRunId_append ?_ (fun r hr => (mem_recordTestRun hnew hr).1) fun r hr s hs => ?_
  · rintro rfl
    exact h.nonempty (List.map_eq_nil_iff.mp hnew.symm)
  · obtain ⟨-, -, result, hresult, he⟩ := mem_recordTestRun hnew hr
    rw [he]
    exact h.newer result hresult s hs

variable (project db category source) in
/-- **The report after a sync** lists the regressions that the events of the sync are about. -/
theorem regressionReport_after_sync (h : NewestRun cfg tick db project.id category)
    (hf : FreshId db tick.runId)
    (hp : ∀ b ∈ db.baselines.rows, ∃ r ∈ db.testRunResults.rows, r.runId = b.runId)
    (hb : of db.baselines project.id ≠ []) :
    ∃ report, regressionReport project
        (syncSecurityFindings cfg tick project db category source).2 none none =
          .ok (.ok report) ∧
      (regressedEvents project (synced cfg tick project db category source) tick.runId).map
        (·.details.get "test_id") = listedTests "regressions" report := by
  have left : (syncSecurityFindings cfg tick project db category source).2.testRunResults =
        (synced cfg tick project db category source).testRunResults ∧
      (syncSecurityFindings cfg tick project db category source).2.baselines = db.baselines := by
    rw [syncSecurityFindings, Db.recordEvents_eq]
    exact ⟨rfl, rfl⟩
  cases hnewest : newestBaseline (of db.baselines project.id) with
  | none => exact (hb (head?_orderDesc_eq_none.mp hnewest)).elim
  | some baseline =>
      have other : baseline.runId ≠ tick.runId := by
        have hm := (mem_of.mp (mem_orderDesc.mp (List.mem_of_head? hnewest))).1
        obtain ⟨r, hr, he⟩ := hp baseline hm
        exact he ▸ hf r hr
      have target : targetRun project (syncSecurityFindings cfg tick project db category source).2
          none = some tick.runId := by
        rw [targetRun, left.1]
        exact h.latestRunId
      refine ⟨buildRegressionReport (synced cfg tick project db category source).testRunResults
        (findingsOf (syncSecurityFindings cfg tick project db category source).2 baseline) baseline
        tick.runId, ?_, ?_⟩
      · simp only [regressionReport, left.2, hnewest, target, left.1]
      · rw [(listedTests_build _ _ _ _).1, regressedEvents,
          show (synced cfg tick project db category source).baselines = db.baselines from rfl,
          hnewest]
        dsimp only
        rw [if_neg other, List.map_map]
        exact List.map_congr_left fun r _ => rfl

end Sync

/-! ### Requests -/

section Requests

variable {cfg : Config} {tick : Tick} {w : World} {r : Request} {p : Int}

/-- A sync of project `p` that gets through. -/
structure Syncs (cfg : Config) (tick : Tick) (w : World) (r : Request) (p : Int)
    (category : Option Str) (source : Str) : Prop where
  endpoint : r.endpoint = .ofKey p (.sync_security_findings category source)
  entered : r.entered cfg tick w.db = true

/-- **Monitoring agrees.**  A sync records one event for each finding it opens, and no other of that
type.  Where the project has no baseline it records no regression, and where it has one, the
regressions it records are those that the default report lists right afterwards. -/
theorem monitoring_agrees {category : Option Str} {source : Str} (hw : ReachedConfigured w)
    (hs : Syncs cfg tick w r p category source) (hr : RecordsAll cfg tick)
    (hf : FreshRunId w (tick, .request r)) (hn : NewestRun cfg tick w.db p category) :
    ∃ created new,
      (handle cfg tick w r).2.db.findings.rows = w.db.findings.rows ++ created ∧
      (handle cfg tick w r).2.db.securityEvents.rows = w.db.securityEvents.rows ++ new ∧
      (∃ project : Project, project.id = p ∧
        (ofType .finding_opened new).map (·.fields) = created.map (openedEvent project)) ∧
      (of w.db.baselines p = [] → ofType .regression_detected new = []) ∧
      (of w.db.baselines p ≠ [] → ∃ report,
        (∀ cfg' tick' r', AsksReport cfg' tick' (handle cfg tick w r).2 r' p none none →
          (handle cfg' tick' (handle cfg tick w r).2 r').1 = .ok report) ∧
        (ofType .regression_detected new).map (·.test) = listedTests "regressions" report) := by
  obtain ⟨project, keys, rfl, hh⟩ := handle_ofKey hs.endpoint hs.entered
  have fresh : FreshId w.db tick.runId := hf r _ category source rfl hs.endpoint
  have pinned : ∀ b ∈ w.db.baselines.rows, ∃ r ∈ w.db.testRunResults.rows, r.runId = b.runId := by
    intro b hb
    obtain ⟨r, hr, hid, -⟩ := (wellFormed_configured hw).pinned b hb
    exact ⟨r, hr, hid⟩
  have left : (handle cfg tick w r).2.db = (syncSecurityFindings cfg tick project
      { w.db with apiKeys := keys } category source).2 := by
    rw [hh]
    rfl
  obtain ⟨created, new, hcreated, hnew, hopened, hregressed⟩ :=
    events_syncSecurityFindings project { w.db with apiKeys := keys } category source hr
  refine ⟨created, new, left ▸ hcreated, left ▸ hnew, ⟨project, rfl, hopened⟩, fun hb => ?_,
    fun hb => ?_⟩
  · have none_recorded : regressedEvents project
        (synced cfg tick project { w.db with apiKeys := keys } category source) tick.runId =
          [] := by
      rw [regressedEvents, show (synced cfg tick project { w.db with apiKeys := keys } category
        source).baselines = w.db.baselines from rfl, hb]
      rfl
    exact List.map_eq_nil_iff.mp (hregressed.trans none_recorded)
  · obtain ⟨report, hreport, htests⟩ := regressionReport_after_sync project
      { w.db with apiKeys := keys } category source ⟨hn.nonempty, hn.newer⟩ fresh pinned hb
    refine ⟨report, fun cfg' tick' r' ha => ?_, ?_⟩
    · rw [ha.response project rfl, left, hreport]
      rfl
    · rw [← htests, ← hregressed, List.map_map]
      rfl

/-- The first run passed and is the baseline; the next one fails, and says so in two events. -/
theorem monitoring_agrees_regression :
    let w := serveSteps .empty pinningFirstRun
    let sync : Request := ofOwner (.ofKey 1 (.sync_security_findings none "api"))
    let w' := (handle .demo (.drawing 3 "r3") w sync).2
    w'.db.securityEvents.rows.map (·.eventType) = [.finding_opened, .regression_detected] ∧
    ∃ new report, w'.db.securityEvents.rows = w.db.securityEvents.rows ++ new ∧
      (ofType .regression_detected new).map (·.test) = listedTests "regressions" report ∧
      ∀ cfg' tick' r', AsksReport cfg' tick' w' r' 1 none none →
        (handle cfg' tick' w' r').1 = .ok report := by
  intro w sync w'
  have results : runSuite (selectTests .demo none) (Tick.drawing 3 "r3".toList).testTime ≠ [] := by
    decide +kernel
  have newer : (runSuite (selectTests .demo none) (Tick.drawing 3 "r3".toList).testTime).all
      (fun result => (of w.db.testRunResults 1).all fun r => r.executedAt < result.executedAt) =
        true := by
    decide +kernel
  have fresh : w.db.testRunResults.rows.all (·.runId != "r3".toList) = true := by decide +kernel
  have based : (of w.db.baselines 1).isEmpty = false := by decide +kernel
  obtain ⟨created, new, -, hnew, -, -, hreport⟩ := @monitoring_agrees .demo
    (.drawing 3 "r3") w sync 1 none "api"
    (reached_serveSteps pinningFirstRun (by decide +kernel))
    ⟨rfl, by decide +kernel⟩ ⟨rfl, rfl, fun _ => rfl⟩
    (fun _ _ _ _ _ _ s hs => bne_iff_ne.mp (List.all_eq_true.mp fresh s hs))
    ⟨results, fun result hresult r hr =>
      of_decide_eq_true (List.all_eq_true.mp (List.all_eq_true.mp newer result hresult) r hr)⟩
  have after : w' = (handle .demo (.drawing 3 "r3") w sync).2 := rfl
  rw [← after] at hnew hreport
  obtain ⟨report, hsent, htests⟩ := hreport fun h => by rw [h] at based; cases based
  exact ⟨by decide +kernel, new, report, hnew, htests, hsent⟩

end Requests

end SentinelAI
