import SentinelAI.Properties.Gate
import SentinelAI.Properties.LiveFindings
import SentinelAI.Properties.Writes

/-!
# Properties — Baselines

A baseline pins a run.  A run is written by one sync, under an id that no row had before, and no
function changes or removes its rows afterwards, nor a baseline.  So a baseline never dangles, its
run is of its own project, and what a report says of the two runs it compares stays what it is.

* `keepsRuns_step`: a step leaves the rows of every run that was there, and every baseline.
* `keepsRuns_run`: so does a run of the process.
* `baselines_stand`: what a baseline pins, and what the reports on it say, in every later state.
-/

namespace SentinelAI
open Support

/-! ### States reached under any configuration -/

/-- The state is reached by a run in which no run id is drawn twice.  The configuration may differ
from one step to the next. -/
def ReachedConfigured (w : World) : Prop :=
  ∃ as, Run.All ConfiguredStep (fun w a _ => FreshRunId w a.2) .empty as w

theorem wellFormed_configured {w : World} (h : ReachedConfigured w) : WellFormed w.db := by
  obtain ⟨as, h⟩ := h
  refine h.invariant (I := fun w => WellFormed w.db)
    (fun w a w' hs hf hw => wellFormed_step hs hf hw) ?_
  exact ⟨fun _ h => (List.not_mem_nil h).elim, fun _ h => (List.not_mem_nil h).elim,
    fun _ h => (List.not_mem_nil h).elim⟩

/-! ### What stays -/

/-- The runs of `d` have the same rows in `d'`, and the baselines of `d` are still there. -/
structure KeepsRuns (d d' : Db) : Prop where
  rows : ∀ r ∈ d.testRunResults.rows,
    runRows d'.testRunResults r.runId = runRows d.testRunResults r.runId
  baselines : d.baselines.rows <+: d'.baselines.rows

theorem mem_runRows {t : Table TestRunResult} {runId : Str} {r : TestRunResult} :
    r ∈ runRows t runId ↔ r ∈ t.rows ∧ r.runId = runId := by
  rw [runRows, List.mem_filter, beq_iff_eq]

namespace KeepsRuns

variable {d d₁ d₂ d₃ d' : Db}

theorem of_same (ht : d'.testRunResults = d.testRunResults) (hb : d'.baselines = d.baselines) :
    KeepsRuns d d' :=
  ⟨fun _ _ => by rw [ht], hb ▸ List.prefix_rfl⟩

theorem refl (d : Db) : KeepsRuns d d := of_same rfl rfl

theorem trans (h₁ : KeepsRuns d₁ d₂) (h₂ : KeepsRuns d₂ d₃) : KeepsRuns d₁ d₃ := by
  refine ⟨fun r hr => ?_, h₁.baselines.trans h₂.baselines⟩
  have still : r ∈ runRows d₂.testRunResults r.runId :=
    h₁.rows r hr ▸ mem_runRows.mpr ⟨hr, rfl⟩
  exact (h₂.rows r (mem_runRows.mp still).1).trans (h₁.rows r hr)

/-- Rows of a run that is new leave those of the runs before. -/
theorem of_append {runId : Str} {new : List TestRunResult}
    (ht : d'.testRunResults.rows = d.testRunResults.rows ++ new) (hb : d'.baselines = d.baselines)
    (hn : ∀ r ∈ new, r.runId = runId) (hf : FreshId d runId) : KeepsRuns d d' := by
  refine ⟨fun r hr => ?_, hb ▸ List.prefix_rfl⟩
  have others : new.filter (·.runId == r.runId) = [] := by
    refine List.filter_eq_nil_iff.mpr fun s hs he => hf r hr ?_
    exact (beq_iff_eq.mp he).symm.trans (hn s hs)
  rw [runRows, ht, List.filter_append, others, List.append_nil]
  rfl

end KeepsRuns

/-! ### What the functions leave -/

/-- No run is recorded, and no baseline goes. -/
structure SameRuns (d d' : Db) : Prop where
  testRunResults : d'.testRunResults = d.testRunResults
  baselines : d.baselines.rows <+: d'.baselines.rows

theorem SameRuns.of_same {d d' : Db} (ht : d'.testRunResults = d.testRunResults)
    (hb : d'.baselines = d.baselines) : SameRuns d d' := ⟨ht, hb ▸ List.prefix_rfl⟩

theorem SameRuns.refl (d : Db) : SameRuns d d := .of_same rfl rfl

theorem SameCore.sameRuns {d d' : Db} (h : SameCore d d') : SameRuns d d' :=
  .of_same h.testRunResults h.baselines

theorem SameRuns.keepsRuns {d d' : Db} (h : SameRuns d d') : KeepsRuns d d' :=
  ⟨fun _ _ => by rw [h.testRunResults], h.baselines⟩

section Functions

variable {cfg : Config} {tick : Tick} {db : Db} {w w' : World} {user : User} {project : Project}

theorem sameRuns_userBody (route : UserRoute) :
    SameRuns w.db (userBody cfg tick user w route).2.db := by
  obtain ⟨_, _, _, _, _, _, h⟩ := @userBody_frame cfg tick w user route
  rw [h]
  exact .of_same rfl rfl

theorem sameRuns_projectBody (route : ProjectRoute) :
    SameRuns db (projectBody cfg tick project db route).2 := by
  obtain ⟨_, _, _, h, hb⟩ := @projectBody_frame cfg tick project db route
  rw [h]
  exact ⟨rfl, hb⟩

/-- What a request does to the runs: nothing, or it records one under the id it drew. -/
inductive RunsAfter (tick : Tick) (r : Request) (d d' : Db) : Prop where
  | same (h : SameRuns d d')
  | recorded (p : Int) (category : Option Str) (source : Str) (results : List TestResult)
      (projectId : Option Int)
      (he : r.endpoint = .ofKey p (.sync_security_findings category source))
      (ht : d'.testRunResults =
        recordTestRun d.testRunResults results projectId source tick.runId)
      (hb : d'.baselines = d.baselines)

/-- **What a request does to the runs.** -/
theorem runsAfter_handle (cfg : Config) (tick : Tick) (w : World) (r : Request) :
    RunsAfter tick r w.db (handle cfg tick w r).2.db := by
  have left := leaves_handle cfg tick w r
  generalize (handle cfg tick w r).2 = w' at left ⊢
  cases left with
  | refused => exact .same (.refl _)
  | stamped he hk => exact .same (.of_same rfl rfl)
  | unguarded he => exact .same (SameCore.sameRuns (sameCore_openBody _))
  | ofUser hg he hu => exact .same (sameRuns_userBody _)
  | ofProject he hp => exact .same (sameRuns_projectBody _)
  | @ofKey p route project keys he hp =>
      cases route with
      | sync_security_findings category source =>
          refine .recorded p category source (runSuite (selectTests cfg category) tick.testTime)
            (some project.id) he ?_ ?_
          · dsimp only [keyBody]
            rw [syncSecurityFindings, Db.recordEvents_eq]
          · dsimp only [keyBody]
            rw [syncSecurityFindings, Db.recordEvents_eq]
      | regression_report baselineId runId => exact .same (.of_same rfl rfl)

/-- **A step leaves the runs** that were recorded, and the baselines on them. -/
theorem keepsRuns_step {h : Tick × Happening} (hs : Step cfg w h w') (hf : FreshRunId w h) :
    KeepsRuns w.db w'.db := by
  obtain ⟨tick, happening⟩ := h
  rcases step_cases hs with ⟨r, rfl, he⟩ | ⟨-, _, he⟩
  · rw [he]
    cases runsAfter_handle cfg tick w r with
    | same h => exact h.keepsRuns
    | recorded p category source results projectId he ht hb =>
        obtain ⟨new, hrows, hnew⟩ :=
          rows_recordTestRun w.db.testRunResults results projectId source tick.runId
        exact .of_append (ht ▸ hrows) hb (fun r hr => (mem_recordTestRun hnew hr).1)
          (hf r p category source rfl he)
  · rw [he]
    exact .of_same rfl rfl

end Functions

/-! ### Runs of the process -/

section Runs

variable {w w' : World}

/-- A run of the process in which no run id is drawn twice. -/
abbrev ConfiguredRun (w : World) (as : List (Config × Tick × Happening)) (w' : World) : Prop :=
  Run.All ConfiguredStep (fun w a _ => FreshRunId w a.2) w as w'

/-- The requests are served one after the other, each at its time and under its configuration. -/
def serveSteps (w : World) : List (Config × Tick × Request) → World
  | [] => w
  | (cfg, tick, r) :: steps => serveSteps (handle cfg tick w r).2 steps

/-- Each of the requests finds the run id that it may draw unused. -/
def drawsFresh (w : World) : List (Config × Tick × Request) → Bool
  | [] => true
  | (cfg, tick, r) :: steps =>
      w.db.testRunResults.rows.all (·.runId != tick.runId) &&
        drawsFresh (handle cfg tick w r).2 steps

theorem configuredRun_serveSteps : ∀ (steps : List (Config × Tick × Request)) (w : World),
    drawsFresh w steps = true →
    ConfiguredRun w (steps.map fun a => (a.1, a.2.1, .request a.2.2)) (serveSteps w steps)
  | [], w, _ => .nil w
  | (cfg, tick, r) :: steps, w, h => by
      rw [drawsFresh, Bool.and_eq_true, List.all_eq_true] at h
      refine .cons rfl ?_ (configuredRun_serveSteps steps _ h.2)
      intro _ _ _ _ _ _ s hs
      exact bne_iff_ne.mp (h.1 s hs)

theorem reached_serveSteps (steps : List (Config × Tick × Request))
    (h : drawsFresh .empty steps = true) : ReachedConfigured (serveSteps .empty steps) :=
  ⟨_, configuredRun_serveSteps steps .empty h⟩

theorem keepsRuns_run {as : List (Config × Tick × Happening)} (h : ConfiguredRun w as w') :
    KeepsRuns w.db w'.db :=
  Run.All.relates (R := fun w w' : World => KeepsRuns w.db w'.db) (fun w => .refl w.db)
    (fun _ _ _ h₁ h₂ => h₁.trans h₂) (fun _ _ _ hs hf => keepsRuns_step hs hf) h

end Runs

/-! ### Reports -/

section Reports

variable {project : Project} {d d' : Db}

/-- Two reports say the same, apart from the findings. -/
def SameButFindings (report report' : Json) : Prop :=
  ∀ key, key ≠ "findings".toList → report'.get key = report.get key

theorem lookup_append_of_ne {key other : Str} {v : Json} (h : key ≠ other) :
    ∀ items : List (Str × Json), (items ++ [(other, v)]).lookup key = items.lookup key
  | [] => by rw [List.nil_append, List.lookup_cons, beq_false_of_ne h]
  | (k, u) :: items => by
      rw [List.cons_append, List.lookup_cons, List.lookup_cons, lookup_append_of_ne h items]

/-- What a report says of the runs it compares is read off their rows. -/
theorem sameButFindings_build {t t' : Table TestRunResult} {findings findings' : List Finding}
    {baseline : Baseline} {runId : Str} (hb : runRows t' baseline.runId = runRows t baseline.runId)
    (hr : runRows t' runId = runRows t runId) :
    SameButFindings (buildRegressionReport t findings baseline runId)
      (buildRegressionReport t' findings' baseline runId) := by
  have parts (t : Table TestRunResult) (findings : List Finding) :
      buildRegressionReport t findings baseline runId =
        .obj (((compareRuns (runSnapshot t baseline.runId) (runSnapshot t runId)).toDict ++
          [("baseline".toList, baselineToDict baseline),
            ("current_run_id".toList, .str runId)]) ++
          [("findings".toList, findingsDelta findings baseline.createdAt)]) := by
    rw [List.append_assoc]
    rfl
  intro key hk
  rw [parts, parts, runSnapshot, runSnapshot, hb, hr]
  unfold Json.get
  dsimp only
  rw [lookup_append_of_ne hk, lookup_append_of_ne hk]
  rfl

/-- The tests that a report lists under a key. -/
def listedTests (key : Str) (report : Json) : List Json :=
  (report.get key).elems.map (·.get "test_id")

/-- The tests of the regressions and of the fixes of a report are those of its comparison. -/
theorem listedTests_build (t : Table TestRunResult) (findings : List Finding) (baseline : Baseline)
    (runId : Str) :
    let diff := compareRuns (runSnapshot t baseline.runId) (runSnapshot t runId)
    let report := buildRegressionReport t findings baseline runId
    listedTests "regressions" report = diff.regressions.map (fun e => .str e.testId) ∧
      listedTests "fixed" report = diff.fixed.map fun e => .str e.testId := by
  intro diff report
  have test : ∀ e : DiffEntry, e.toJson.get "test_id" = .str e.testId := fun _ => rfl
  have regressions : report.get "regressions" = .arr (diff.regressions.map (·.toJson)) := rfl
  have fixed : report.get "fixed" = .arr (diff.fixed.map (·.toJson)) := rfl
  constructor
  · rw [listedTests, regressions, Json.elems, List.map_map]
    exact List.map_congr_left fun e _ => test e
  · rw [listedTests, fixed, Json.elems, List.map_map]
    exact List.map_congr_left fun e _ => test e

/-- A run that is named is compared where the project has a row of it. -/
theorem targetRun_eq_some {runId target : Str} :
    targetRun project d (some runId) = some target ↔
      (∃ r ∈ of d.testRunResults project.id, r.runId = runId) ∧ runId = target := by
  unfold targetRun
  dsimp only
  split
  · rename_i h
    have named : ∃ r ∈ of d.testRunResults project.id, r.runId = runId := by simpa using h
    rw [Option.some.injEq, and_iff_right named]
  · rename_i h
    exact iff_of_false (fun h => nomatch h) fun ⟨named, _⟩ => h (by simpa using named)

/-- The rows of a run that is there stay, also seen from its project. -/
theorem KeepsRuns.of_project (hk : KeepsRuns d d') {r : TestRunResult} {p : Int}
    (hr : r ∈ of d.testRunResults p) :
    runRows d'.testRunResults r.runId = runRows d.testRunResults r.runId ∧
      r ∈ of d'.testRunResults p := by
  obtain ⟨hm, hp⟩ := mem_of.mp hr
  have rows := hk.rows r hm
  refine ⟨rows, mem_of.mpr ⟨?_, hp⟩⟩
  exact (mem_runRows.mp (rows ▸ mem_runRows.mpr ⟨hm, rfl⟩)).1

/-- **A report stays what it is**, apart from the findings, where the runs and the baselines do. -/
theorem regressionReport_stable (hd : WellFormed d) (hk : KeepsRuns d d') {baselineId : Int}
    {runId : Str} {report : Json}
    (h : regressionReport project d (some baselineId) (some runId) = .ok (.ok report)) :
    ∃ report', regressionReport project d' (some baselineId) (some runId) = .ok (.ok report') ∧
      SameButFindings report report' := by
  simp only [regressionReport] at h ⊢
  cases hb : (of d.baselines project.id).find? (·.id == baselineId) with
  | none =>
      rw [hb] at h
      cases h
  | some baseline =>
      have still : (of d'.baselines project.id).find? (·.id == baselineId) = some baseline := by
        obtain ⟨new, hnew⟩ := hk.baselines
        rw [of, ← hnew, List.filter_append, List.find?_append, ← of, hb]
        rfl
      rw [hb] at h
      rw [still]
      dsimp only at h ⊢
      cases ht : targetRun project d (some runId) with
      | none =>
          rw [ht] at h
          cases h
      | some target =>
          rw [ht] at h
          -- both runs have a row, so that all their rows are kept
          obtain ⟨⟨r, hr, rfl⟩, rfl⟩ := targetRun_eq_some.mp ht
          obtain ⟨current, hr'⟩ := hk.of_project hr
          have hm := (mem_of.mp (List.mem_of_find?_eq_some hb)).1
          obtain ⟨s, hs, hid, -⟩ := hd.pinned baseline hm
          have pinned : runRows d'.testRunResults baseline.runId =
              runRows d.testRunResults baseline.runId := hid ▸ hk.rows s hs
          rw [targetRun_eq_some.mpr ⟨⟨r, hr', rfl⟩, rfl⟩]
          refine ⟨_, rfl, ?_⟩
          obtain rfl : buildRegressionReport d.testRunResults (findingsOf d baseline) baseline
            r.runId = report := by
            injection h with h
            injection h with _ h
            injection h
          exact sameButFindings_build pinned current

/-- A report that is sent was made: the errors have other status codes. -/
theorem regressionReport_of_response {baselineId : Option Int} {runId : Option Str} {report : Json}
    (h : (regressionReport project d baselineId runId).response = .ok report) :
    regressionReport project d baselineId runId = .ok (.ok report) := by
  cases ha : regressionReport project d baselineId runId with
  | ok answer =>
      rw [ha] at h
      exact congrArg Except.ok h
  | error e =>
      have status : e.response.statusCode = 200 := by
        rw [ha] at h
        exact congrArg Response.statusCode h
      unfold regressionReport at ha
      dsimp only at ha
      split at ha
      · cases ha
        cases status
      · split at ha
        · cases ha
          cases status
        · cases ha

end Reports

/-! ### Baselines -/

section Baselines

variable {w w' : World}

/-- A request for a regression report on project `p` that gets through. -/
structure AsksReport (cfg : Config) (tick : Tick) (w : World) (r : Request) (p : Int)
    (baselineId : Option Int) (runId : Option Str) : Prop where
  endpoint : r.endpoint = .ofKey p (.regression_report baselineId runId)
  entered : r.entered cfg tick w.db = true

/-- The answer to such a request. -/
theorem AsksReport.response {cfg : Config} {tick : Tick} {r : Request} {p : Int}
    {baselineId : Option Int} {runId : Option Str}
    (h : AsksReport cfg tick w r p baselineId runId) (project : Project) (hp : project.id = p) :
    (handle cfg tick w r).1 = (regressionReport project w.db baselineId runId).response := by
  obtain ⟨project', keys, hid, hh⟩ := handle_ofKey h.endpoint h.entered
  have same : regressionReport project' { w.db with apiKeys := keys } baselineId runId =
      regressionReport project w.db baselineId runId := by
    unfold regressionReport targetRun
    rw [hid, hp]
    rfl
  rw [hh, ← same]
  rfl

/-- **Baselines never dangle or drift.**  The run of a baseline has rows, all of the baseline's
project, and in every later state the baseline is there and its run has the same rows.  So a report
on a given baseline and a given run says the same whenever it is asked for, apart from the
findings. -/
theorem baselines_stand {as : List (Config × Tick × Happening)} (hw : ReachedConfigured w)
    (hr : ConfiguredRun w as w') :
    (∀ b ∈ w.db.baselines.rows,
      runRows w.db.testRunResults b.runId ≠ [] ∧
      (∀ r ∈ runRows w.db.testRunResults b.runId, r.projectId = b.projectId) ∧
      b ∈ w'.db.baselines.rows ∧
      runRows w'.db.testRunResults b.runId = runRows w.db.testRunResults b.runId) ∧
    ∀ cfg tick r cfg' tick' r' p baselineId runId report,
      AsksReport cfg tick w r p (some baselineId) (some runId) →
      AsksReport cfg' tick' w' r' p (some baselineId) (some runId) →
      (handle cfg tick w r).1 = .ok report →
      ∃ report', (handle cfg' tick' w' r').1 = .ok report' ∧ SameButFindings report report' := by
  have formed : WellFormed w.db := wellFormed_configured hw
  have kept : KeepsRuns w.db w'.db := keepsRuns_run hr
  constructor
  · intro b hb
    obtain ⟨s, hs, hid, hp⟩ := formed.pinned b hb
    refine ⟨List.ne_nil_of_mem (mem_runRows.mpr ⟨hs, hid⟩), fun r hr => ?_,
      kept.baselines.subset hb, hid ▸ kept.rows s hs⟩
    obtain ⟨hm, hrid⟩ := mem_runRows.mp hr
    exact (formed.runs r hm s hs (hrid.trans hid.symm)).trans hp
  · intro cfg tick r cfg' tick' r' p baselineId runId report ha ha' hsent
    obtain ⟨project, -, hid, -⟩ := handle_ofKey ha.endpoint ha.entered
    rw [ha.response project hid] at hsent
    obtain ⟨report', hmade, hsame⟩ :=
      regressionReport_stable formed kept (regressionReport_of_response hsent)
    refine ⟨report', ?_, hsame⟩
    rw [ha'.response project hid, hmade]
    rfl

/-- The server of the demo, where the test comes to something else. -/
def demoWith (status : TestStatus) : Config :=
  { Config.demo with
    tests := Config.demo.tests.map fun t => { t with evaluate := fun _ => .ok (status, "now") } }

/-- A request at time `t`, at which a sync would draw the run id `runId`. -/
def Tick.drawing (t : Time) (runId : Str) : Tick :=
  { Tick.zero with now := t, testTime := fun _ => t, findingTime := fun _ => t, runId }

/-- A request of the owner of project 1. -/
def ofOwner (endpoint : Endpoint) : Request := ⟨"Bearer a", none, endpoint⟩

/-- A user makes a project, whose first run passes and becomes its baseline. -/
def pinningFirstRun : List (Config × Tick × Request) :=
  [(.demo, .drawing 0 "r0", ⟨"", none, .unguarded (.signup ⟨"a@x.com", "password"⟩)⟩),
    (.demo, .drawing 0 "r0", ofOwner (.ofUser (.create_project ⟨"p", "model", none, none⟩))),
    (demoWith .PASS, .drawing 1 "r1", ofOwner (.ofKey 1 (.sync_security_findings none "api"))),
    (.demo, .drawing 2 "r2", ofOwner (.ofProject 1 (.create_security_baseline "b" none)))]

/-- In the next run the test fails. -/
def failingNextRun : List (Config × Tick × Request) :=
  [(.demo, .drawing 3 "r3", ofOwner (.ofKey 1 (.sync_security_findings none "api")))]

/-- The report of the first run on itself stays what it is when the next run is recorded. -/
theorem baselines_stand_pinned :
    let w := serveSteps .empty pinningFirstRun
    let w' := serveSteps w failingNextRun
    let ask : Request := ofOwner (.ofKey 1 (.regression_report (some 1) (some "r1".toList)))
    w.db.baselines.rows.map (·.runId) = ["r1".toList] ∧
    w'.db.testRunResults.rows.map (·.runId) = ["r1".toList, "r3".toList] ∧
    (∀ b ∈ w.db.baselines.rows,
      runRows w'.db.testRunResults b.runId = runRows w.db.testRunResults b.runId) ∧
    ∃ report report', (handle .demo .zero w ask).1 = .ok report ∧
      (handle .demo .zero w' ask).1 = .ok report' ∧ SameButFindings report report' := by
  intro w w' ask
  have stands := baselines_stand (reached_serveSteps pinningFirstRun (by decide +kernel))
    (configuredRun_serveSteps failingNextRun w (by decide +kernel))
  have sent : (handle .demo .zero w ask).1.statusCode = 200 ∧
      (match (handle .demo .zero w ask).1.content with | .json _ => true | .text _ _ => false) =
        true := by
    decide +kernel
  obtain ⟨report, hr⟩ : ∃ report, (handle .demo .zero w ask).1 = .ok report := by
    obtain ⟨hs, hc⟩ := sent
    rcases hh : (handle .demo .zero w ask).1 with ⟨statusCode, report | ⟨mediaType, body⟩⟩
    · rw [hh] at hs
      obtain rfl : statusCode = 200 := hs
      exact ⟨report, rfl⟩
    · rw [hh] at hc
      cases hc
  have asks : AsksReport .demo .zero w ask 1 (some 1) (some "r1".toList) :=
    ⟨rfl, by decide +kernel⟩
  have asks' : AsksReport .demo .zero w' ask 1 (some 1) (some "r1".toList) :=
    ⟨rfl, by decide +kernel⟩
  obtain ⟨report', hr', hsame⟩ := stands.2 _ _ _ _ _ _ _ _ _ report asks asks' hr
  exact ⟨by decide +kernel, by decide +kernel, fun b hb => (stands.1 b hb).2.2.2,
    report, report', hr, hr', hsame⟩

end Baselines

end SentinelAI
