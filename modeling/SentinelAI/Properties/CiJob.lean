import SentinelAI.Properties.CiGate
import SentinelAI.Properties.Monitoring
import SentinelAI.Proxy.CiClient

/-!
# Properties — CiJob

A CI job, and the application that serves it.  The job syncs its project and asks for the regression
report afterwards.  Other requests are served between the two; as long as none of them is a sync of
the same project, the report is on the run of the job.

* `kept_of_quiet`: what stays of the project's runs in the meantime.
* `exitStatus_served`: when the job passes.
-/

namespace SentinelAI
open Support

/-! ### In the meantime -/

/-- No sync of the project is asked for. -/
def Quiet (p : Int) (h : Tick × Happening) : Prop :=
  ∀ r category source, h.2 = .request r →
    r.endpoint ≠ .ofKey p (.sync_security_findings category source)

section Meantime

variable {cfg : Config} {tick : Tick} {p : Int} {w w' : World}

theorem of_recordTestRun_of_ne {q : Int} (hq : q ≠ p) (t : Table TestRunResult)
    (results : List TestResult) (source runId : Str) :
    of (recordTestRun t results (some q) source runId) p = of t p := by
  obtain ⟨new, hrows, hnew⟩ := rows_recordTestRun t results (some q) source runId
  have others : new.filter (InProject.projectId · == some p) = [] := by
    refine List.filter_eq_nil_iff.mpr fun r hr he => hq ?_
    exact Option.some.inj ((mem_recordTestRun hnew hr).2.1.symm.trans (beq_iff_eq.mp he))
  rw [of, hrows, List.filter_append, others, List.append_nil]
  rfl

/-- A request that is no sync of the project leaves the rows of its runs. -/
theorem of_handle_quiet {r : Request} (h : Quiet p (tick, .request r)) :
    of (handle cfg tick w r).2.db.testRunResults p = of w.db.testRunResults p := by
  have left := leaves_handle cfg tick w r
  generalize (handle cfg tick w r).2 = w' at left ⊢
  cases left with
  | refused => rfl
  | stamped => rfl
  | unguarded => rw [(sameCore_openBody _).testRunResults]
  | ofUser => rw [(sameRuns_userBody _).testRunResults]
  | ofProject => rw [(sameRuns_projectBody _).testRunResults]
  | @ofKey q route project keys he hp =>
      cases route with
      | sync_security_findings category source =>
          have other : project.id ≠ p := by
            rintro rfl
            obtain rfl := id_of_requireProjectOrApiKey (congrArg Prod.fst hp)
            exact h r category source rfl he
          dsimp only [keyBody]
          rw [syncSecurityFindings, Db.recordEvents_eq]
          exact of_recordTestRun_of_ne other _ _ _ _
      | regression_report baselineId runId => rfl

/-- The runs that are recorded stay, and the project gets no other. -/
theorem kept_of_quiet {as : List (Config × Tick × Happening)}
    (h : Run.All ConfiguredStep (fun w a _ => FreshRunId w a.2 ∧ Quiet p a.2) w as w') :
    KeepsRuns w.db w'.db ∧ of w'.db.testRunResults p = of w.db.testRunResults p := by
  refine Run.All.relates (R := fun w w' : World => KeepsRuns w.db w'.db ∧
    of w'.db.testRunResults p = of w.db.testRunResults p) (fun w => ⟨.refl w.db, rfl⟩)
    (fun _ _ _ h₁ h₂ => ⟨h₁.1.trans h₂.1, h₂.2.trans h₁.2⟩) ?_ h
  rintro w ⟨cfg, tick, happening⟩ w' hs ⟨hf, hq⟩
  refine ⟨keepsRuns_step hs hf, ?_⟩
  rcases step_cases hs with ⟨r, rfl, he⟩ | ⟨-, _, he⟩
  · rw [he]
    exact of_handle_quiet hq
  · rw [he]

end Meantime

/-! ### The run of the job -/

/-- What a row of a run keeps of a result. -/
def TestResult.snapshot (r : TestResult) : Snapshot :=
  ⟨r.testId, r.category, r.severity, r.status, r.evidence.provider, r.evidence.model⟩

theorem runSnapshot_recordTestRun {t : Table TestRunResult} {runId : Str}
    (hf : ∀ r ∈ t.rows, r.runId ≠ runId) (results : List TestResult) (p : Option Int)
    (source : Str) :
    runSnapshot (recordTestRun t results p source runId) runId = results.map (·.snapshot) := by
  obtain ⟨new, hrows, hnew⟩ := rows_recordTestRun t results p source runId
  have old : t.rows.filter (·.runId == runId) = [] :=
    List.filter_eq_nil_iff.mpr fun r hr he => hf r hr (beq_iff_eq.mp he)
  have all : new.filter (·.runId == runId) = new :=
    List.filter_eq_self.mpr fun r hr => beq_iff_eq.mpr (mem_recordTestRun hnew hr).1
  rw [runSnapshot, runRows, hrows, List.filter_append, old, all, List.nil_append]
  -- a row and the result that it stores have one snapshot
  have unkeyed : new.map (·.snapshot) = (new.map (Row.setKey 0)).map (·.snapshot) := by
    rw [List.map_map]
    rfl
  rw [unkeyed, hnew, List.map_map]
  rfl

namespace CI

/-- The result as the script reads it. -/
def CIResult.ofTest (r : TestResult) : CIResult where
  testId := r.testId
  category := r.category
  severity := r.severity.value
  status := r.status.value
  detail := r.detail

theorem mapM_resultOf : ∀ results : List TestResult,
    (results.map (·.toJson)).mapM resultOf = .ok (results.map .ofTest)
  | [] => rfl
  | r :: results => by
      have one : resultOf r.toJson = .ok (.ofTest r) := rfl
      rw [List.map_cons, List.mapM_cons, one, mapM_resultOf results]
      rfl

/-! ### The verdict -/

/-- What the script sends with a key. -/
def keyAuth (key : Str) (p : Int) : Auth := ⟨"ApiKey ".toList ++ key, p⟩

/-- A job with the key of a project: where its two requests are served, and what happens in the
meantime. -/
structure Job (args : CIArgs) (key : Str) (p : Int) (sync report : Config × Tick × World) :
    Prop where
  key_eq : args.apiKey = some key
  key_ne : key ≠ []
  project_eq : args.projectId = some p
  project_ne : p ≠ 0
  fresh : FreshId sync.2.2.db sync.2.1.runId
  newest : NewestRun sync.1 sync.2.1 sync.2.2.db p (args.category.filter (· ≠ []))
  meantime : ∃ as, Run.All ConfiguredStep (fun w a _ => FreshRunId w a.2 ∧ Quiet p a.2)
    (handle sync.1 sync.2.1 sync.2.2 (syncRequest args.category (keyAuth key p))).2 as report.2.2
  asked : (reportRequest (keyAuth key p)).entered report.1 report.2.1 report.2.2.db = true

section Verdict

variable {env : CIEnv} {args : CIArgs} {key : Str} {p : Int} {sync report : Config × Tick × World}

/-- The results of the job's run. -/
def results (args : CIArgs) (sync : Config × Tick × World) : List TestResult :=
  runSuite (selectTests sync.1 (args.category.filter (· ≠ []))) sync.2.1.testTime

theorem Job.resolveAuth (h : Job args key p sync report) :
    resolveAuth env args.target args.apiKey args.projectId = .ok (keyAuth key p) := by
  unfold CI.resolveAuth
  rw [h.key_eq, h.project_eq, Option.filter_some, if_pos (decide_eq_true h.key_ne),
    Option.filter_some, if_pos (decide_eq_true h.project_ne)]
  rfl

theorem served_fetchResults {target : Str} {category : Option Str} {auth : Auth} :
    (env.served (.ok sync) (.ok report)).fetchResults target category auth =
      resultsOf (handle sync.1 sync.2.1 sync.2.2 (syncRequest category auth)).1 := rfl

theorem served_getReport {first : Served} {target : Str} {auth : Auth} :
    (env.served first (.ok report)).getReport target auth =
      .ok (reportReply (handle report.1 report.2.1 report.2.2 (reportRequest auth)).1) := rfl

/-- What the sync answers, and what it leaves. -/
theorem Job.handle_sync (h : Job args key p sync report)
    (hin : (syncRequest args.category (keyAuth key p)).entered sync.1 sync.2.1 sync.2.2.db = true) :
    resultsOf (handle sync.1 sync.2.1 sync.2.2 (syncRequest args.category (keyAuth key p))).1 =
        .ok ((results args sync).map .ofTest) ∧
      latestRunId (of (handle sync.1 sync.2.1 sync.2.2
        (syncRequest args.category (keyAuth key p))).2.db.testRunResults p) = some sync.2.1.runId ∧
      runSnapshot (handle sync.1 sync.2.1 sync.2.2
        (syncRequest args.category (keyAuth key p))).2.db.testRunResults sync.2.1.runId =
          (results args sync).map (·.snapshot) := by
  obtain ⟨project, keys, hid, hh⟩ := handle_ofKey rfl hin
  rw [hh]
  subst hid
  have left : (syncSecurityFindings sync.1 sync.2.1 project { sync.2.2.db with apiKeys := keys }
      (args.category.filter (· ≠ [])) "ci_cd").2.testRunResults =
        recordTestRun sync.2.2.db.testRunResults (results args sync) (some project.id) "ci_cd"
          sync.2.1.runId := by
    rw [syncSecurityFindings, Db.recordEvents_eq]
    rfl
  dsimp only [keyBody]
  refine ⟨mapM_resultOf _, ?_, ?_⟩
  · rw [left]
    exact h.newest.latestRunId
  · rw [left]
    exact runSnapshot_recordTestRun h.fresh _ _ _

/-- What the default report of a project compares, where its latest run is known. -/
theorem regressionReport_of_latest {project : Project} {db : Db} {runId : Str}
    (h : latestRunId (of db.testRunResults project.id) = some runId) :
    (newestBaseline (of db.baselines project.id) = none ∧ ∃ code message,
      regressionReport project db none none = .error (.http 404 code message)) ∨
    ∃ baseline findings, newestBaseline (of db.baselines project.id) = some baseline ∧
      regressionReport project db none none =
        .ok (.ok (buildRegressionReport db.testRunResults findings baseline runId)) := by
  have target : targetRun project db none = some runId := h
  unfold regressionReport
  dsimp only
  cases hb : newestBaseline (of db.baselines project.id) with
  | none => exact .inl ⟨rfl, _, _, rfl⟩
  | some baseline =>
      dsimp only
      rw [target]
      exact .inr ⟨baseline, _, rfl, rfl⟩

/-- More than `max` tests of the run have regressed against the newest baseline of later. -/
def Regressed (args : CIArgs) (p : Int) (sync report : Config × Tick × World) (max : Int) : Prop :=
  ∃ baseline, newestBaseline (of report.2.2.db.baselines p) = some baseline ∧
    max < (compareRuns (runSnapshot report.2.2.db.testRunResults baseline.runId)
      ((results args sync).map (·.snapshot))).regressions.length

instance (args : CIArgs) (p : Int) (sync report : Config × Tick × World) (max : Int) :
    Decidable (Regressed args p sync report max) :=
  decidable_of_iff ((newestBaseline (of report.2.2.db.baselines p)).any fun baseline =>
    max < (compareRuns (runSnapshot report.2.2.db.testRunResults baseline.runId)
      ((results args sync).map (·.snapshot))).regressions.length) <| by
    rw [Regressed, Option.any_eq_true]
    exact exists_congr fun _ => and_congr_right fun _ => decide_eq_true_iff

/-- A report that is there is read. -/
theorem fetchRegressionReport_read {target : Str} {auth : Auth} {resp : ReportReply}
    {r : RegressionReport} (hg : env.getReport target auth = .ok resp)
    (hs : resp.statusCode = 200) (hr : resp.report = .ok r) :
    CI.fetchRegressionReport env target auth = .ok (some r) := by
  refine bind_eq_ok.mpr ⟨resp, hg, ?_⟩
  rw [if_pos hs]
  exact bind_eq_ok.mpr ⟨r, hr, rfl⟩

/-- One that is not is skipped. -/
theorem fetchRegressionReport_skipped {target : Str} {auth : Auth} {resp : ReportReply}
    {message : Str} (hg : env.getReport target auth = .ok resp) (hs : resp.statusCode = 404)
    (hm : resp.message = .ok message) (hprint : ∀ text, env.print text = .ok ()) :
    CI.fetchRegressionReport env target auth = .ok none := by
  refine bind_eq_ok.mpr ⟨resp, hg, ?_⟩
  rw [if_neg (by rw [hs]; decide), if_pos (.inl hs)]
  exact bind_eq_ok.mpr ⟨message, hm, bind_eq_ok.mpr ⟨(), hprint _, rfl⟩⟩

/-- The report is on the run of the job. -/
theorem Job.fetchRegressionReport (h : Job args key p sync report)
    (hin : (syncRequest args.category (keyAuth key p)).entered sync.1 sync.2.1 sync.2.2.db = true)
    (hprint : ∀ text, env.print text = .ok ()) :
    ∃ r, fetchRegressionReport (env.served (.ok sync) (.ok report)) args.target (keyAuth key p) =
        .ok r ∧
      ∀ max : Int, (∃ x, r = some x ∧ max < x.count) ↔ Regressed args p sync report max := by
  obtain ⟨-, latest, snapshot⟩ := h.handle_sync hin
  obtain ⟨as, run⟩ := h.meantime
  obtain ⟨kept, same⟩ := kept_of_quiet run
  rw [← same] at latest
  -- the run has rows, so that they are those of later
  have rows : runSnapshot report.2.2.db.testRunResults sync.2.1.runId =
      (results args sync).map (·.snapshot) := by
    have some_rows : runRows (handle sync.1 sync.2.1 sync.2.2
        (syncRequest args.category (keyAuth key p))).2.db.testRunResults sync.2.1.runId ≠ [] := by
      intro none_of
      rw [runSnapshot, none_of] at snapshot
      exact h.newest.nonempty (List.map_eq_nil_iff.mp snapshot.symm)
    obtain ⟨row, hrow⟩ := List.exists_mem_of_ne_nil _ some_rows
    obtain ⟨hrow, hid⟩ := mem_runRows.mp hrow
    rw [← snapshot, runSnapshot, runSnapshot, ← hid, kept.rows row hrow]
  obtain ⟨project, keys, rfl, hh⟩ := handle_ofKey rfl h.asked
  have reply : (env.served (.ok sync) (.ok report)).getReport args.target (keyAuth key project.id) =
      .ok (reportReply (regressionReport project { report.2.2.db with apiKeys := keys } none
        none).response) := by
    rw [served_getReport, hh]
    rfl
  rcases @regressionReport_of_latest project { report.2.2.db with apiKeys := keys } _ latest with
    ⟨hb, code, message, he⟩ | ⟨baseline, findings, hb, he⟩
  · rw [he] at reply
    refine ⟨none, fetchRegressionReport_skipped reply rfl rfl hprint, fun max => ?_⟩
    constructor
    · rintro ⟨x, hx, -⟩
      cases hx
    · rintro ⟨baseline, hb', -⟩
      cases hb.symm.trans hb'
  · rw [he] at reply
    refine ⟨_, fetchRegressionReport_read reply rfl rfl, fun max => ?_⟩
    have counted : RegressionReport.count ⟨some ((buildRegressionReport
        report.2.2.db.testRunResults findings baseline sync.2.1.runId).get "regressions").elems⟩ =
          (compareRuns (runSnapshot report.2.2.db.testRunResults baseline.runId)
            ((results args sync).map (·.snapshot))).regressions.length := by
      rw [← rows]
      exact List.length_map _
    constructor
    · rintro ⟨x, hx, hm⟩
      cases hx
      exact ⟨baseline, hb, counted ▸ hm⟩
    · rintro ⟨baseline', hb', hm⟩
      cases hb.symm.trans hb'
      exact ⟨_, rfl, counted.symm ▸ hm⟩

theorem resultsOf_refused {resp : Response} {e : Raised} (hr : resp = e.response)
    (he : e = projectNotFound ∨ ∃ code message, e = .http 401 code message) :
    ∃ text, resultsOf resp = .error text := by
  subst hr
  rcases he with rfl | ⟨code, message, rfl⟩ <;> exact ⟨_, rfl⟩

/-- A job fetches what it needs exactly when its sync is let in. -/
theorem Job.fetch (h : Job args key p sync report) (hprint : ∀ text, env.print text = .ok ())
    (hin : (syncRequest args.category (keyAuth key p)).entered sync.1 sync.2.1 sync.2.2.db = true) :
    ∃ r, fetch (env.served (.ok sync) (.ok report)) args =
        .ok ((results args sync).map .ofTest, r) ∧
      ∀ max : Int, (∃ x, r = some x ∧ max < x.count) ↔
        args.checkRegression = true ∧ Regressed args p sync report max := by
  have synced : (env.served (.ok sync) (.ok report)).fetchResults args.target args.category
      (keyAuth key p) = .ok ((results args sync).map .ofTest) :=
    served_fetchResults.trans (h.handle_sync hin).1
  obtain ⟨r, hr, hmax⟩ := h.fetchRegressionReport hin hprint
  cases hc : args.checkRegression with
  | true =>
      refine ⟨r, bind_eq_ok.mpr ⟨_, h.resolveAuth, bind_eq_ok.mpr ⟨_, synced, ?_⟩⟩, fun max => ?_⟩
      · rw [hc, if_pos rfl]
        exact bind_eq_ok.mpr ⟨r, hr, rfl⟩
      · exact (hmax max).trans (and_iff_right rfl).symm
  | false =>
      refine ⟨none, bind_eq_ok.mpr ⟨_, h.resolveAuth, bind_eq_ok.mpr ⟨_, synced, ?_⟩⟩,
        fun max => ?_⟩
      · rw [hc]
        rfl
      · refine iff_of_false ?_ (fun h => Bool.false_ne_true h.1)
        rintro ⟨x, hx, -⟩
        cases hx

/-- The output is written where nothing on the way raises. -/
theorem report_eq_ok (hprint : ∀ text, env.print text = .ok ())
    (hwrite : ∀ path text, env.writeText path text = .ok ()) (rs : List CIResult)
    (verdict : CIVerdict) : CI.report env args rs verdict = .ok () := by
  have out : ∀ path text, writeOut env path text = .ok () := by
    intro path text
    unfold writeOut
    cases path.filter (· ≠ []) with
    | none => rfl
    | some path => exact hwrite path text
  exact bind_eq_ok.mpr ⟨(), hprint _, bind_eq_ok.mpr ⟨(), out _ _, out _ _⟩⟩

/-- **A CI job.**  Where its output can be written, a job with the key of a project exits with
status 0 exactly when its sync is let in, no more results of its own run match the policy than may,
and, where it checks for them, no more tests of that run have regressed against the newest baseline
than may; whatever else is served between its two requests, as long as it is no sync of the
project. -/
theorem exitStatus_served (h : Job args key p sync report)
    (hprint : ∀ text, env.print text = .ok ())
    (hwrite : ∀ path text, env.writeText path text = .ok ()) :
    exitStatus (env.served (.ok sync) (.ok report)) args = 0 ↔
      (syncRequest args.category (keyAuth key p)).entered sync.1 sync.2.1 sync.2.2.db = true ∧
      args.policy.matched ((results args sync).map .ofTest) ≤ args.maxFailures ∧
      (args.checkRegression = true → ¬ Regressed args p sync report args.maxRegressions) := by
  rw [exitStatus_eq_zero_iff]
  cases hin : (syncRequest args.category (keyAuth key p)).entered sync.1 sync.2.1 sync.2.2.db with
  | false =>
      refine iff_of_false ?_ nofun
      rintro ⟨rs, r, hf, -⟩
      obtain ⟨e, hr, he⟩ := handle_ofKey_refused rfl hin
      obtain ⟨text, ht⟩ := resultsOf_refused hr he
      obtain ⟨auth, ha, hf⟩ := bind_eq_ok.mp hf
      obtain ⟨_, hs, -⟩ := bind_eq_ok.mp hf
      obtain rfl := Except.ok.inj (h.resolveAuth.symm.trans ha)
      exact nomatch ht.symm.trans (served_fetchResults.symm.trans hs)
  | true =>
      obtain ⟨r, hf, hmax⟩ := h.fetch hprint hin
      have written : CI.report (env.served (.ok sync) (.ok report)) args
          ((results args sync).map .ofTest)
          (evaluate ((results args sync).map .ofTest) args.policy r) = .ok () :=
        report_eq_ok hprint hwrite _ _
      have verdict : (evaluate ((results args sync).map .ofTest) args.policy r).shouldFail = false ↔
          args.policy.matched ((results args sync).map .ofTest) ≤ args.maxFailures ∧
            (args.checkRegression = true → ¬ Regressed args p sync report args.maxRegressions) := by
        rw [← Bool.not_eq_true, should_fail_iff, Exceeded, hmax, not_or, not_lt, not_and]
        rfl
      constructor
      · rintro ⟨rs, r', hf', -, hv⟩
        cases hf.symm.trans hf'
        exact ⟨rfl, verdict.mp hv⟩
      · rintro ⟨-, hv⟩
        exact ⟨_, r, hf, written, verdict.mpr hv⟩

end Verdict

/-- After the first run the owner makes an API key. -/
def makingKey : List (Config × Tick × Request) :=
  [(.demo, .drawing 2 "r2", ofOwner (.ofProject 1 (.create_project_api_key "ci")))]

/-- Surroundings in which nothing raises, and no account is made. -/
def CIEnv.calm : CIEnv where
  bootstrapAuth _ := .error []
  fetchResults _ _ _ := .error []
  getReport _ _ := .error []
  print _ := .ok ()
  dumps _ _ := []
  writeText _ _ := .ok ()

/-- A job that looks for regressions alone. -/
def regressionJob : CIArgs where
  target := "http://localhost:8000"
  apiKey := some KEY_PREFIX
  projectId := some 1
  failOnStatus := "ERROR"
  checkRegression := true

/-- The test of the baseline fails in the sync. -/
def regressedSync : Config × Tick × World :=
  (.demo, .drawing 3 "r3", serveSteps .empty (pinningFirstRun ++ makingKey))

/-- The owner looks at the projects before the report is asked for. -/
def betweenRequests : List (Config × Tick × Request) :=
  [(.demo, .drawing 4 "r4", ofOwner (.ofUser .list_projects))]

def regressedReport : Config × Tick × World :=
  (.demo, .drawing 5 "r5", serveSteps (handle regressedSync.1 regressedSync.2.1 regressedSync.2.2
    (syncRequest none (keyAuth KEY_PREFIX 1))).2 betweenRequests)

theorem newestRun_regressedSync :
    NewestRun regressedSync.1 regressedSync.2.1 regressedSync.2.2.db 1 none := by
  have newer : (runSuite (selectTests .demo none) (Tick.drawing 3 "r3".toList).testTime).all
      (fun result => (of regressedSync.2.2.db.testRunResults 1).all fun r =>
        r.executedAt < result.executedAt) = true := by
    decide +kernel
  refine ⟨by decide +kernel, fun result hresult r hr => ?_⟩
  exact of_decide_eq_true (List.all_eq_true.mp (List.all_eq_true.mp newer result hresult) r hr)

theorem quiet_betweenRequests :
    ∀ a ∈ betweenRequests.map fun a => (a.1, a.2.1, Happening.request a.2.2), Quiet 1 a.2 := by
  intro a ha r category source he
  obtain rfl := List.mem_singleton.mp ha
  cases he
  exact nofun

theorem job_regressed : Job regressionJob KEY_PREFIX 1 regressedSync regressedReport := by
  have fresh : regressedSync.2.2.db.testRunResults.rows.all
      (·.runId != regressedSync.2.1.runId) = true := by
    decide +kernel
  exact {
    key_eq := rfl
    key_ne := by decide
    project_eq := rfl
    project_ne := by decide
    fresh := fun s hs => bne_iff_ne.mp (List.all_eq_true.mp fresh s hs)
    newest := newestRun_regressedSync
    meantime := ⟨_, (configuredRun_serveSteps betweenRequests _ (by decide +kernel)).of_labels
      quiet_betweenRequests⟩
    asked := by decide +kernel }

/-- The job fails, for a test that has regressed. -/
theorem exitStatus_served_regressed :
    exitStatus (CIEnv.calm.served (.ok regressedSync) (.ok regressedReport)) regressionJob ≠ 0 := by
  intro passed
  have regressed : Regressed regressionJob 1 regressedSync regressedReport 0 := by decide +kernel
  have verdict := (exitStatus_served job_regressed (fun _ => rfl) fun _ _ => rfl).mp passed
  exact verdict.2.2 rfl regressed

end CI

end SentinelAI
