import SentinelAI.Properties.AuditTrail
import SentinelAI.Properties.CiJob
import SentinelAI.Properties.Isolation

/-!
# Properties — CiBootstrap

A CI job without a key, which signs up and makes a project of its own.

* `baselines_handle`: what a request does to the baselines.
* `unpinned_project`: the project of the job has no baseline.
* `main_bootstrapped`: whatever the job is told about regressions, it ends the same.
-/

namespace SentinelAI
open Support

/-! ### What is pinned -/

section Pins

variable {cfg : Config} {tick : Tick} {p : Int} {w w' : World}

/-- What a request does to the baselines: nothing, or it pins a run of a project that is there. -/
theorem baselines_handle (cfg : Config) (tick : Tick) (w : World) (r : Request) :
    (handle cfg tick w r).2.db.baselines = w.db.baselines ∨ ∃ project name runId baseline,
      r.endpoint = .ofProject project.id (.create_security_baseline name runId) ∧
        project ∈ w.db.projects.rows ∧ baseline.projectId = some project.id ∧
        (handle cfg tick w r).2.db.baselines = w.db.baselines.insert baseline := by
  have left := leaves_handle cfg tick w r
  generalize (handle cfg tick w r).2 = w' at left ⊢
  cases left with
  | refused => exact .inl rfl
  | stamped => exact .inl rfl
  | unguarded => exact .inl (sameCore_openBody _).baselines
  | @ofUser route user hg he hu =>
      obtain ⟨_, _, _, _, _, _, h⟩ := @userBody_frame cfg tick w user route
      rw [h]
      exact .inl rfl
  | @ofProject q route project he hp =>
      cases route with
      | create_security_baseline name runId =>
          dsimp only [projectBody]
          unfold createSecurityBaseline
          split
          · exact .inl rfl
          · obtain ⟨user, -, ho⟩ := requireProject_eq_ok.mp hp
            obtain ⟨hm, hid⟩ := Table.find?_eq_some_iff.mp (ownedProject_eq_ok.mp ho).1
            exact .inr ⟨project, name, runId, _, (show project.id = q from hid) ▸ he, hm, rfl, rfl⟩
      | create_project_api_key name =>
          dsimp only [projectBody]
          unfold createProjectApiKey
          split <;> exact .inl rfl
      | revoke_project_api_key keyId =>
          dsimp only [projectBody]
          unfold revokeProjectApiKey
          split <;> exact .inl rfl
      | _ => exact .inl rfl
  | @ofKey q route project keys he hp =>
      obtain ⟨_, _, _, hk⟩ := @keyBody_frame cfg tick project { w.db with apiKeys := keys } route
      rw [hk]
      exact .inl rfl

/-- Every baseline is of a project that is there. -/
def BaselinesOwned (db : Db) : Prop :=
  ∀ b ∈ db.baselines.rows, ∃ project ∈ db.projects.rows, b.projectId = some project.id

theorem baselinesOwned_handle (h : BaselinesOwned w.db) (r : Request) :
    BaselinesOwned (handle cfg tick w r).2.db := by
  have trail : AuditTrail w.db (handle cfg tick w r).2.db := auditTrail_handle r
  have kept : ∀ project ∈ w.db.projects.rows, ∃ project' ∈ (handle cfg tick w r).2.db.projects.rows,
      project'.id = project.id := by
    intro project hp
    obtain ⟨project', hp', hs⟩ := trail.projects.exists_of_mem hp
    exact ⟨project', hp', by rw [hs]⟩
  have old : ∀ b ∈ w.db.baselines.rows, ∃ project ∈ (handle cfg tick w r).2.db.projects.rows,
      b.projectId = some project.id := by
    intro b hb
    obtain ⟨project, hp, he⟩ := h b hb
    obtain ⟨project', hp', hid⟩ := kept project hp
    exact ⟨project', hp', by rw [hid, he]⟩
  intro b hb
  rcases baselines_handle cfg tick w r with he | ⟨project, _, _, new, -, hp, hnew, he⟩
  · exact old b (he ▸ hb)
  · rw [he] at hb
    rcases Table.mem_insert.mp hb with hb | rfl
    · exact old b hb
    · obtain ⟨project', hp', hid⟩ := kept project hp
      exact ⟨project', hp', by rw [hid]; exact hnew⟩

theorem baselinesOwned_reached (h : ReachedConfigured w) : BaselinesOwned w.db := by
  obtain ⟨as, run⟩ := h
  refine run.invariant (I := fun w : World => BaselinesOwned w.db) ?_ nofun
  rintro w ⟨cfg, tick, happening⟩ w' hs - h
  rcases step_cases hs with ⟨r, -, he⟩ | ⟨-, _, he⟩
  · rw [he]
    exact baselinesOwned_handle h r
  · rw [BaselinesOwned, he]
    exact h

/-- No baseline of the project is asked for. -/
def Unpinned (p : Int) (h : Tick × Happening) : Prop :=
  ∀ r name runId, h.2 = .request r →
    r.endpoint ≠ .ofProject p (.create_security_baseline name runId)

/-- A project that has no baseline gets none. -/
theorem unpinned_run {as : List (Config × Tick × Happening)}
    (h : Run.All ConfiguredStep (fun _ a _ => Unpinned p a.2) w as w')
    (hw : of w.db.baselines p = []) : of w'.db.baselines p = [] := by
  refine h.invariant (I := fun w : World => of w.db.baselines p = []) ?_ hw
  rintro w ⟨cfg, tick, happening⟩ w' hs hq hw
  rcases step_cases hs with ⟨r, rfl, he⟩ | ⟨-, _, he⟩
  · rw [he]
    rcases baselines_handle cfg tick w r with he | ⟨project, name, runId, b, he, -, hb, hi⟩
    · rw [he]
      exact hw
    · have other : project.id ≠ p := by
        rintro rfl
        exact hq r name runId rfl he
      refine List.filter_eq_nil_iff.mpr fun b' hb' hp => ?_
      rw [hi] at hb'
      rcases Table.mem_insert.mp hb' with hb' | rfl
      · exact List.filter_eq_nil_iff.mp hw b' hb' hp
      · exact other (Option.some.inj (hb.symm.trans (beq_iff_eq.mp hp)))
  · rw [he]
    exact hw

end Pins

namespace CI

/-! ### The project of the job -/

section Bootstrap

variable {env : CIEnv} {args : CIArgs} {cfg : Config} {tick : Tick} {w : World}

theorem createProject_id (tick : Tick) (user : User) (db : Db) (body : ProjectCreate) :
    ∃ q, (createProject tick user db body).1 = .ok (.ok q) ∧
      q.get "id" = .int (Table.nextKey db.projects.rows) := by
  unfold createProject ensureWorkspace
  cases workspaceOf db user.id with
  | some workspace => exact ⟨_, rfl, rfl⟩
  | none => exact ⟨_, rfl, rfl⟩

/-- A project that is answered is new. -/
theorem eq_nextKey_of_projectIdOf {authorization : Str} {p : Int}
    (h : projectIdOf (handle cfg tick w (projectRequest authorization)).1 = .ok p) :
    p = Table.nextKey w.db.projects.rows := by
  rcases handle_user_cases cfg tick w authorization none (.create_project { name := "CI" }) with
    ⟨code, message, he⟩ | ⟨user, -, -, he⟩
  · rw [projectRequest, he] at h
    cases h
  · obtain ⟨q, hq, hid⟩ := createProject_id tick user w.db { name := "CI" }
    rw [projectRequest, he] at h
    dsimp only [userBody] at h
    rw [hq] at h
    obtain ⟨⟨⟩, -, h⟩ := bind_eq_ok.mp h
    obtain ⟨_, ⟨⟩, h⟩ := bind_eq_ok.mp h
    rw [hid] at h
    exact (Except.ok.inj h).symm

/-- It has no baseline. -/
theorem unpinned_project (reached : ReachedConfigured w) {authorization : Str} {p : Int}
    (h : projectIdOf (handle cfg tick w (projectRequest authorization)).1 = .ok p) :
    of (handle cfg tick w (projectRequest authorization)).2.db.baselines p = [] := by
  rcases baselines_handle cfg tick w (projectRequest authorization) with he | ⟨_, _, _, _, he, -⟩
  · rw [he]
    refine List.filter_eq_nil_iff.mpr fun b hb hp => ?_
    obtain ⟨project, hm, hid⟩ := baselinesOwned_reached reached b hb
    have new : project.id = Table.nextKey w.db.projects.rows :=
      (Option.some.inj (hid.symm.trans (beq_iff_eq.mp hp))).trans (eq_nextKey_of_projectIdOf h)
    exact absurd (Table.key_lt_nextKey hm) (new ▸ lt_irrefl _)
  · cases he

/-! ### The regressions -/

/-- Without a baseline the report is skipped. -/
theorem fetchRegressionReport_unpinned {sync : Served} {report : Config × Tick × World}
    {target : Str} {auth : Auth} (hprint : ∀ text, env.print text = .ok ())
    (hin : (reportRequest auth).entered report.1 report.2.1 report.2.2.db = true)
    (hn : of report.2.2.db.baselines auth.projectId = []) :
    fetchRegressionReport (env.served sync (.ok report)) target auth = .ok none := by
  obtain ⟨project, keys, hid, hh⟩ := handle_ofKey rfl hin
  have missing : ∃ code message,
      regressionReport project { report.2.2.db with apiKeys := keys } none none =
        .error (.http 404 code message) := by
    unfold regressionReport
    dsimp only
    rw [hid, hn]
    exact ⟨_, _, rfl⟩
  obtain ⟨code, message, he⟩ := missing
  have reply : (env.served sync (.ok report)).getReport target auth =
      .ok (reportReply (Raised.response (.http 404 code message))) := by
    rw [served_getReport, hh]
    exact congrArg (Except.ok <| reportReply <| Answer.response ·) he
  exact fetchRegressionReport_skipped reply rfl rfl hprint

/-- A job without a key, whose report is let in, and whose project nobody pins a run of. -/
structure Throwaway (env : CIEnv) (args : CIArgs) (project report : Config × Tick × World) :
    Prop where
  key_eq : args.apiKey.filter (· ≠ []) = none
  project_eq : args.projectId.filter (· ≠ 0) = none
  reached : ReachedConfigured project.2.2
  meantime : ∀ auth, env.bootstrapAuth args.target = .ok auth →
    ∃ as, Run.All ConfiguredStep (fun _ a _ => Unpinned auth.projectId a.2)
      (handle project.1 project.2.1 project.2.2 (projectRequest auth.authorization)).2 as report.2.2
  asked : ∀ auth, env.bootstrapAuth args.target = .ok auth →
    (reportRequest auth).entered report.1 report.2.1 report.2.2.db = true

theorem projectIdOf_of_bootstrapAuth {client : Option Str} {emailHex passwordHex target : Str}
    {signup : Served} {project : Config × Tick × World} {auth : Auth}
    (h : (env.bootstrapped client emailHex passwordHex signup (.ok project)).bootstrapAuth target =
      .ok auth) :
    projectIdOf (handle project.1 project.2.1 project.2.2 (projectRequest auth.authorization)).1 =
      .ok auth.projectId := by
  obtain ⟨⟨cfg, tick, w⟩, -, h⟩ := bind_eq_ok.mp h
  obtain ⟨token, -, h⟩ := bind_eq_ok.mp h
  obtain ⟨_, ⟨⟩, h⟩ := bind_eq_ok.mp h
  obtain ⟨projectId, hp, ⟨⟩⟩ := bind_eq_ok.mp h
  exact hp

/-- Where the report is skipped, none is fetched, whether one is asked for or not. -/
theorem fetch_of_skipped
    (hskip : ∀ auth, resolveAuth env args.target args.apiKey args.projectId = .ok auth →
      fetchRegressionReport env args.target auth = .ok none) :
    fetch env args = (resolveAuth env args.target args.apiKey args.projectId >>= fun auth =>
      env.fetchResults args.target args.category auth >>= fun rs => .ok (rs, none)) := by
  unfold fetch
  cases ha : resolveAuth env args.target args.apiKey args.projectId with
  | error e => rfl
  | ok auth =>
      dsimp only [bind, Except.bind]
      cases env.fetchResults args.target args.category auth with
      | error e => rfl
      | ok rs =>
          dsimp only
          cases args.checkRegression with
          | true =>
              rw [if_pos rfl, hskip auth ha]
              rfl
          | false => rfl

/-- So what the job is told about regressions changes nothing. -/
theorem main_of_skipped
    (hskip : ∀ auth, resolveAuth env args.target args.apiKey args.projectId = .ok auth →
      fetchRegressionReport env args.target auth = .ok none) (check : Bool) (max : Int) :
    main env { args with checkRegression := check, maxRegressions := max } = main env args := by
  unfold main
  rw [fetch_of_skipped hskip,
    @fetch_of_skipped env { args with checkRegression := check, maxRegressions := max } hskip]
  dsimp only [bind, Except.bind]
  cases resolveAuth env args.target args.apiKey args.projectId with
  | error e => rfl
  | ok auth =>
      dsimp only
      cases env.fetchResults args.target args.category auth with
      | error e => rfl
      | ok rs => rfl

/-- **A job without a key never fails for a regression.**  It makes a project of its own, which is
new; baselines are of projects that are there, so it has none to compare with at the report, as long
as nobody pins a run of it before.  Whatever the job is told about regressions, it ends the same. -/
theorem main_bootstrapped {client : Option Str} {emailHex passwordHex : Str} {signup sync : Served}
    {project report : Config × Tick × World}
    (h : Throwaway (env.bootstrapped client emailHex passwordHex signup (.ok project)) args project
      report)
    (hprint : ∀ text, env.print text = .ok ()) :
    (∀ w, ReachedConfigured w → BaselinesOwned w.db) ∧
    (∀ auth, (env.bootstrapped client emailHex passwordHex signup (.ok project)).bootstrapAuth
        args.target = .ok auth →
      (∀ q ∈ project.2.2.db.projects.rows, q.id ≠ auth.projectId) ∧
        of report.2.2.db.baselines auth.projectId = []) ∧
    ∀ (check : Bool) (max : Int),
      main ((env.bootstrapped client emailHex passwordHex signup (.ok project)).served sync
        (.ok report)) { args with checkRegression := check, maxRegressions := max } =
      main ((env.bootstrapped client emailHex passwordHex signup (.ok project)).served sync
        (.ok report)) args := by
  have unpinned : ∀ auth, (env.bootstrapped client emailHex passwordHex signup
      (.ok project)).bootstrapAuth args.target = .ok auth →
      of report.2.2.db.baselines auth.projectId = [] := by
    intro auth made
    obtain ⟨as, run⟩ := h.meantime auth made
    exact unpinned_run run (unpinned_project h.reached (projectIdOf_of_bootstrapAuth made))
  refine ⟨fun _ => baselinesOwned_reached, fun auth made => ⟨fun q hq => ?_, unpinned auth made⟩,
    main_of_skipped fun auth ha => ?_⟩
  · rw [eq_nextKey_of_projectIdOf (projectIdOf_of_bootstrapAuth made)]
    exact (Table.key_lt_nextKey hq).ne
  · unfold resolveAuth at ha
    rw [h.key_eq, h.project_eq] at ha
    exact fetchRegressionReport_unpinned hprint (h.asked auth ha) (unpinned auth ha)

end Bootstrap

/-- The server of the demo, with a token to hand out. -/
def handingOut : Config := { Config.demo with jwtEncode := fun _ _ => "a" }

/-- A job without a key that asks for regressions. -/
def throwawayJob : CIArgs where
  target := "http://localhost:8000"
  failOnStatus := "ERROR"
  checkRegression := true

def throwawayProject : Config × Tick × World :=
  (handingOut, .zero,
    serveSteps .empty [(handingOut, .zero, signupRequest none "00" "0123456789abcdef")])

def throwawaySync : Config × Tick × World :=
  (handingOut, .drawing 1 "r1", (handle throwawayProject.1 throwawayProject.2.1
    throwawayProject.2.2 (projectRequest "Bearer a")).2)

/-- Nothing else is served. -/
def throwawayMeantime : List (Config × Tick × Request) :=
  [(throwawaySync.1, throwawaySync.2.1, syncRequest none ⟨"Bearer a", 1⟩)]

def throwawayReport : Config × Tick × World :=
  (handingOut, .drawing 2 "r2", serveSteps throwawaySync.2.2 throwawayMeantime)

def throwawayEnv : CIEnv :=
  CIEnv.calm.bootstrapped none "00" "0123456789abcdef" (.ok (handingOut, .zero, .empty))
    (.ok throwawayProject)

theorem throwaway_job : Throwaway throwawayEnv throwawayJob throwawayProject throwawayReport := by
  have drawn : ((throwawayEnv.bootstrapAuth throwawayJob.target).toOption.map fun auth =>
      (auth.authorization, auth.projectId)) = some ("Bearer a".toList, 1) := by
    decide +kernel
  have only : ∀ auth, throwawayEnv.bootstrapAuth throwawayJob.target = .ok auth →
      auth = ⟨"Bearer a".toList, 1⟩ := by
    rintro ⟨authorization, projectId⟩ ha
    rw [ha] at drawn
    cases drawn
    rfl
  have quiet : ∀ a ∈ throwawayMeantime.map fun a => (a.1, a.2.1, Happening.request a.2.2),
      Unpinned 1 a.2 := by
    intro a ha r name runId he
    obtain rfl := List.mem_singleton.mp ha
    cases he
    exact nofun
  exact {
    key_eq := rfl
    project_eq := rfl
    reached := reached_serveSteps _ (by decide +kernel)
    meantime := by
      intro auth ha
      rw [only auth ha]
      exact ⟨_, ((configuredRun_serveSteps throwawayMeantime _ (by decide +kernel)).of_labels
        quiet).imp fun _ _ _ h => h.2⟩
    asked := by
      intro auth ha
      rw [only auth ha]
      decide +kernel }

/-- Such a job passes although it asks for regressions, as one that does not ask. -/
theorem main_bootstrapped_passes :
    let env := throwawayEnv.served (.ok throwawaySync) (.ok throwawayReport)
    main env { throwawayJob with checkRegression := false, maxRegressions := 0 } =
      main env throwawayJob ∧ (main env throwawayJob).toOption = some 0 :=
  ⟨(main_bootstrapped throwaway_job fun _ => rfl).2.2 false 0, by decide +kernel⟩

end CI

end SentinelAI
