import SentinelAI.Properties.Baselines
import SentinelAI.Properties.Comparison
import SentinelAI.Properties.Scrubbing

/-!
# Properties — Summaries

The dashboard, the executive report and the regression report each look for the latest run and for
the open findings of a project in their own way: one takes the rows of the run whatever their
project, one those of the project only, and one leaves the comparison out where the baseline is the
run.  In every state reached they tell one story.

* `latestRun_eq`: the rows of the latest run are those of the project.
* `compareRuns_self`: a run compared with itself has neither regressions nor fixes.
* `one_story`: the counts of the run, the open findings and the changes since the baseline agree.
-/

namespace SentinelAI
open Support

/-! ### Counters -/

section Counters

/-- `d.get(k, 0)` -/
def countAt (counts : Json) (k : Str) : Json :=
  match counts.get k with
  | .null => .int 0
  | v => v

/-- The sum of the values of a counter. -/
def totalCount (counts : Json) : Int :=
  (counts.items.map fun kv =>
    match kv.2 with
    | .int n => n
    | _ => 0).sum

theorem lookup_counter (l : List Str) (k : Str) :
    (counter l).lookup k = if k ∈ l then some (.int (l.count k)) else none := by
  unfold counter
  split
  · rename_i h
    exact List.lookup_graph _ (List.mem_eraseDups.mpr h)
  · rename_i h
    refine List.lookup_eq_none_iff.mpr fun kv hkv => ?_
    obtain ⟨k', hk', rfl⟩ := List.mem_map.mp hkv
    rw [bne_iff_ne]
    rintro rfl
    exact h (List.mem_eraseDups.mp hk')

theorem countAt_counter (l : List Str) (k : Str) :
    countAt (.obj (counter l)) k = .int (l.count k) := by
  rw [countAt, Json.get, lookup_counter]
  by_cases h : k ∈ l
  · rw [if_pos h]
    rfl
  · rw [if_neg h, List.count_eq_zero.mpr h]
    rfl

/-- The counts of a list sum up to its length. -/
theorem totalCount_counter (l : List Str) : totalCount (.obj (counter l)) = l.length := by
  have cast_sum : ∀ ns : List Nat, (ns.map fun n : Nat => (n : Int)).sum = (ns.sum : Nat) := by
    intro ns
    induction ns with
    | nil => rfl
    | cons n ns ih => rw [List.map_cons, List.sum_cons, List.sum_cons, ih, Int.natCast_add]
  have values : (counter l).map (fun kv => match kv.2 with | .int n => n | _ => 0) =
      (l.eraseDups.map fun k => l.count k).map fun n : Nat => (n : Int) := by
    rw [counter, List.map_map, List.map_map]
    rfl
  rw [totalCount, Json.items, values, cast_sum, sum_count_eraseDups]

end Counters

/-! ### What scrubbing leaves -/

section Scrub

variable {cfg : Config}

theorem lookup_scrubItems (k : Str) : ∀ items : List (Str × Json),
    (scrubItems cfg items).lookup k = (items.lookup k).map (scrub cfg (some k))
  | [] => rfl
  | (k', v) :: items => by
      rw [scrubItems, List.lookup_cons, List.lookup_cons, lookup_scrubItems k items]
      by_cases h : k = k'
      · rw [h, beq_self_eq_true]
        rfl
      · rw [beq_false_of_ne h]

/-- A value of a scrubbed dictionary is the value, scrubbed under its key. -/
theorem get_scrub (key : Option Str) (d : Json) (k : Str) :
    (scrub cfg key d).get k = scrub cfg (some k) (d.get k) := by
  cases d with
  | obj items =>
      rw [scrub, Json.get, Json.get, lookup_scrubItems]
      cases items.lookup k <;> rfl
  | _ => rfl

/-- Scrubbing leaves counts. -/
theorem scrub_counter (key : Option Str) (l : List Str) :
    scrub cfg key (.obj (counter l)) = .obj (counter l) := by
  rw [counter, scrub_obj, List.map_map]
  rfl

/-- A list of strings is scrubbed one by one. -/
theorem scrub_strs (key : Option Str) (l : List Str) :
    scrub cfg key (.strs l) = .arr ((l.map Json.str).map (scrub cfg none)) := by
  rw [Json.strs, scrub_arr]

end Scrub

/-! ### The latest run -/

section Latest

variable {d : Db} {p : Int}

/-- No run id is empty. -/
def RunsNamed (d : Db) : Prop := ∀ r ∈ d.testRunResults.rows, r.runId ≠ []

/-- **The latest run** of a project is the same for the three. -/
theorem latestRun_eq (hd : WellFormed d) :
    latestRun (of d.testRunResults p) none none =
      match latestRunId (of d.testRunResults p) with
      | none => []
      | some runId => runRows d.testRunResults runId := by
  have whole : (of d.testRunResults p).filter (fun r => inPeriod none none r.executedAt) =
    of d.testRunResults p := List.filter_eq_self.mpr fun _ _ => rfl
  rw [latestRun, whole, latestRunId]
  cases hh : (orderDesc (·.executedAt) (of d.testRunResults p)).head? with
  | none => rfl
  | some newest =>
      have there : newest ∈ of d.testRunResults p := mem_orderDesc.mp (List.mem_of_head? hh)
      exact (runRows_eq hd ⟨newest, there, rfl⟩).symm

/-- The dashboard counts the rows that the report does. -/
theorem latestRows_eq (hd : WellFormed d) (hn : RunsNamed d) :
    latestRows d.testRunResults p = latestRun (of d.testRunResults p) none none := by
  rw [latestRun_eq hd, latestRows]
  cases hl : latestRunId (of d.testRunResults p) with
  | none => rfl
  | some runId =>
      obtain ⟨r, hr, rfl⟩ := Option.map_eq_some_iff.mp hl
      have hm := (mem_of.mp (mem_orderDesc.mp (List.mem_of_head? hr))).1
      exact if_neg (hn r hm)

/-- The rows of the latest run start with one of the run. -/
theorem head?_latestRun (hd : WellFormed d) :
    (latestRun (of d.testRunResults p) none none).head?.map (·.runId) =
      latestRunId (of d.testRunResults p) := by
  rw [latestRun_eq hd]
  cases hl : latestRunId (of d.testRunResults p) with
  | none => rfl
  | some runId =>
      obtain ⟨r, hr, rfl⟩ := Option.map_eq_some_iff.mp hl
      have hm := (mem_of.mp (mem_orderDesc.mp (List.mem_of_head? hr))).1
      cases hh : (runRows d.testRunResults r.runId).head? with
      | none =>
          rw [List.head?_eq_none_iff] at hh
          exact absurd (mem_runRows.mpr ⟨hm, rfl⟩) (hh ▸ List.not_mem_nil)
      | some s => exact congrArg some (mem_runRows.mp (List.mem_of_head? hh)).2

end Latest

/-! ### A run compared with itself -/

theorem compareRuns_self (rows : List Snapshot) :
    (compareRuns rows rows).regressions = [] ∧ (compareRuns rows rows).fixed = [] := by
  have unmoved : ∀ (s : Option TestStatus) (k : Bucket),
      bucketOf s s = some k → k = .unchanged := by
    intro s k h
    cases s with
    | none => cases h
    | some s =>
        rw [bucketOf, if_pos rfl] at h
        exact (Option.some.inj h).symm
  constructor
  · refine List.eq_nil_iff_forall_not_mem.mpr fun e he => ?_
    have hm : e.testId ∈ (compareRuns rows rows).tests .regressions := List.mem_map_of_mem he
    cases unmoved _ .regressions (mem_tests.mp hm)
  · refine List.eq_nil_iff_forall_not_mem.mpr fun e he => ?_
    have hm : e.testId ∈ (compareRuns rows rows).tests .fixed := List.mem_map_of_mem he
    cases unmoved _ .fixed (mem_tests.mp hm)

/-! ### The three views -/

section Views

variable {cfg : Config} {d : Db} {p : Int}

/-- The key of the dashboard under which tests with the status are counted. -/
def TestStatus.dashboardKey : TestStatus → Str
  | .PASS => "passed"
  | .FAIL => "failed"
  | .ERROR => "errors"
  | .NOT_RUN => "not_run"
  | .INCONCLUSIVE => "inconclusive"

/-- The severities of the open findings of a project. -/
def openSeverities (d : Db) (p : Int) : List Str :=
  ((of d.findings p).filter (·.live)).map (·.severity.value)

theorem get_dashboard :
    let dashboard := buildDashboardSummary d p
    let latest := latestRows d.testRunResults p
    dashboard.get "total_tests" = .int latest.length ∧
      (∀ s : TestStatus,
        dashboard.get s.dashboardKey = .int (latest.countP (·.status == s))) ∧
      dashboard.get "open_findings" = .int (openSeverities d p).length ∧
      dashboard.get "severity_distribution" = .obj (counter (openSeverities d p)) := by
  refine ⟨rfl, fun s => ?_, ?_, rfl⟩
  · cases s <;> rfl
  · rw [openSeverities, List.length_map]
    rfl

theorem get_executive (agents : List AgentProfile) (now : Time) :
    let report := executiveReport (reportRows d p) none none d.testRunResults agents now
    let latest := latestRun (of d.testRunResults p) none none
    let counts := (report.get "latest_run").get "status_counts"
    (report.get "scope").get "tests_in_latest_run" = .int latest.length ∧
      (latest = [] ∧ counts = .null ∨ counts = .obj (counter (latest.map (·.status.value)))) ∧
      report.get "severity_distribution" = .obj (counter (openSeverities d p)) ∧
      ∃ opened resolved, report.get "major_changes" =
        majorChanges d.testRunResults (newestBaseline (of d.baselines p)) latest opened
          resolved := by
  refine ⟨rfl, ?_, rfl, _, _, rfl⟩
  have counts : ((executiveReport (reportRows d p) none none d.testRunResults agents now).get
      "latest_run") = .opt (fun r : TestRunResult => .obj [("run_id".toList, .str r.runId),
        ("executed_at".toList, .time r.executedAt), ("status_counts".toList,
          .obj (counter ((latestRun (of d.testRunResults p) none none).map (·.status.value))))])
        (latestRun (of d.testRunResults p) none none).head? := rfl
  rw [counts]
  cases latestRun (of d.testRunResults p) none none with
  | nil => exact .inl ⟨rfl, rfl⟩
  | cons r latest => exact .inr rfl

/-- What the executive report says of the changes since the newest baseline. -/
theorem get_majorChanges (t : Table TestRunResult) (baseline : Baseline) {r : TestRunResult}
    {latest : List TestRunResult} (hr : latest.head? = some r) (opened resolved : Nat) :
    let changes := majorChanges t (some baseline) latest opened resolved
    let diff := compareRuns (runSnapshot t baseline.runId) (runSnapshot t r.runId)
    changes.get "regressions" = .strs (diff.regressions.map (·.testId)) ∧
      changes.get "fixed" = .strs (diff.fixed.map (·.testId)) := by
  obtain ⟨rest, rfl⟩ := List.head?_eq_some_iff.mp hr
  dsimp only [majorChanges]
  by_cases h : baseline.runId = r.runId
  · -- the comparison is left out, and would have been of the run with itself
    obtain ⟨hregressions, hfixed⟩ := compareRuns_self (runSnapshot t r.runId)
    simp only [if_pos h]
    rw [h, hregressions, hfixed]
    exact ⟨rfl, rfl⟩
  · simp only [if_neg h]
    exact ⟨rfl, rfl⟩

theorem count_value (s : TestStatus) (rows : List TestRunResult) :
    (rows.map (·.status.value)).count s.value = rows.countP (·.status == s) := by
  have value_beq : ∀ u : TestStatus, (u.value == s.value) = (u == s) := by
    intro u
    cases u <;> cases s <;> rfl
  rw [List.count, List.countP_map]
  exact List.countP_congr fun r _ => by rw [Function.comp, value_beq]

/-- **One story.**  What a dashboard of project `p` says, the executive report says as well, and so
does the default regression report where the project has a baseline and a run. -/
structure OneStory (cfg : Config) (d : Db) (p : Int) (executive : Json) : Prop where
  tests : (buildDashboardSummary d p).get "total_tests" =
    (executive.get "scope").get "tests_in_latest_run"
  statuses : ∀ s : TestStatus, (buildDashboardSummary d p).get s.dashboardKey =
    countAt ((executive.get "latest_run").get "status_counts") s.value
  severities : (buildDashboardSummary d p).get "severity_distribution" =
    executive.get "severity_distribution"
  open_findings : (buildDashboardSummary d p).get "open_findings" =
    .int (totalCount ((buildDashboardSummary d p).get "severity_distribution"))
  changes : of d.baselines p ≠ [] → of d.testRunResults p ≠ [] →
    ∀ project : Project, project.id = p →
    ∃ regression, regressionReport project d none none = .ok (.ok regression) ∧
      (executive.get "major_changes").get "regressions" =
        .arr ((listedTests "regressions" regression).map (scrub cfg none)) ∧
      (executive.get "major_changes").get "fixed" =
        .arr ((listedTests "fixed" regression).map (scrub cfg none))

theorem oneStory_of_wellFormed (hd : WellFormed d) (hn : RunsNamed d) (agents : List AgentProfile)
    (now : Time) :
    OneStory cfg d p (scrub cfg none
      (executiveReport (reportRows d p) none none d.testRunResults agents now)) := by
  obtain ⟨total, statuses, opened_count, severities⟩ := get_dashboard (d := d) (p := p)
  obtain ⟨tests, counts, distribution, opened, resolved, changes⟩ :=
    get_executive (d := d) (p := p) agents now
  constructor
  · rw [get_scrub, get_scrub, tests, total, latestRows_eq hd hn]
    rfl
  · intro s
    rw [get_scrub, get_scrub, statuses, latestRows_eq hd hn]
    rcases counts with ⟨none_run, hc⟩ | hc
    · rw [hc, none_run]
      rfl
    · rw [hc, scrub_counter, countAt_counter, count_value]
  · rw [get_scrub, distribution, severities, scrub_counter]
  · rw [opened_count, severities, totalCount_counter]
  · rintro hb hr project rfl
    cases hnewest : newestBaseline (of d.baselines project.id) with
    | none => exact (hb (head?_orderDesc_eq_none.mp hnewest)).elim
    | some baseline =>
        have latest := head?_latestRun (p := project.id) hd
        cases htarget : latestRunId (of d.testRunResults project.id) with
        | none =>
            rw [latestRunId, Option.map_eq_none_iff, head?_orderDesc_eq_none] at htarget
            exact (hr htarget).elim
        | some runId =>
            rw [htarget] at latest
            obtain ⟨r, hhead, rfl⟩ := Option.map_eq_some_iff.mp latest
            rw [hnewest] at changes
            obtain ⟨hregressions, hfixed⟩ := get_majorChanges d.testRunResults
              baseline hhead opened resolved
            obtain ⟨listed_regressions, listed_fixed⟩ := listedTests_build d.testRunResults
              (findingsOf d baseline) baseline r.runId
            refine ⟨buildRegressionReport d.testRunResults (findingsOf d baseline) baseline r.runId,
              ?_, ?_, ?_⟩
            · simp only [regressionReport, hnewest, targetRun, htarget]
            · rw [get_scrub, get_scrub, changes, hregressions, scrub_strs, listed_regressions]
              simp only [List.map_map]
              rfl
            · rw [get_scrub, get_scrub, changes, hfixed, scrub_strs, listed_fixed]
              simp only [List.map_map]
              rfl

end Views

/-! ### States -/

section States

variable {w : World}

/-- The state is reached by a run in which every run id drawn is new, and is not empty. -/
def ReachedNamed (w : World) : Prop :=
  ∃ as, Run.All ConfiguredStep (fun w a _ => FreshRunId w a.2 ∧ a.2.1.runId ≠ []) .empty as w

theorem ReachedNamed.configured (h : ReachedNamed w) : ReachedConfigured w := by
  obtain ⟨as, h⟩ := h
  exact ⟨as, h.imp fun _ _ _ hC => hC.1⟩

theorem runsNamed_step {w' : World} {a : Config × Tick × Happening} (hs : ConfiguredStep w a w')
    (hn : a.2.1.runId ≠ []) (hw : RunsNamed w.db) : RunsNamed w'.db := by
  obtain ⟨cfg, tick, happening⟩ := a
  rcases step_cases hs with ⟨r, rfl, he⟩ | ⟨-, _, he⟩
  · rw [he]
    cases runsAfter_handle cfg tick w r with
    | same h =>
        rw [RunsNamed, h.testRunResults]
        exact hw
    | recorded p category source results projectId he ht hb =>
        obtain ⟨new, hrows, hnew⟩ :=
          rows_recordTestRun w.db.testRunResults results projectId source tick.runId
        intro s hs
        rw [ht, hrows] at hs
        rcases List.mem_append.mp hs with hs | hs
        · exact hw s hs
        · rw [(mem_recordTestRun hnew hs).1]
          exact hn
  · rw [he]
    exact hw

theorem runsNamed_run (h : ReachedNamed w) : RunsNamed w.db := by
  obtain ⟨as, h⟩ := h
  exact h.invariant (I := fun w => RunsNamed w.db)
    (fun w a w' hs hC hw => runsNamed_step hs hC.2 hw) fun _ h => (List.not_mem_nil h).elim

/-- **The dashboard, the executive report and the regression report tell one story** in every state
reached, whatever the project and the configuration. -/
theorem one_story (hw : ReachedNamed w) {cfg : Config} {p : Int} {now : Time} {executive : Json}
    (he : buildExecutiveReport cfg w.db none none p now = .ok executive) :
    OneStory cfg w.db p executive := by
  unfold buildExecutiveReport at he
  split at he
  · cases he
  · rename_i agents _
    obtain rfl := Except.ok.inj he
    exact oneStory_of_wellFormed (wellFormed_configured hw.configured) (runsNamed_run hw) agents now

/-- The first run passed and is the baseline; the next one fails. -/
theorem one_story_regression :
    let w := serveSteps .empty (pinningFirstRun ++ failingNextRun)
    of w.db.baselines 1 ≠ [] ∧ of w.db.testRunResults 1 ≠ [] ∧
    ∃ executive, buildExecutiveReport .demo w.db none none 1 9 = .ok executive ∧
      OneStory .demo w.db 1 executive := by
  intro w
  have rows : (of w.db.baselines 1).isEmpty = false ∧
      (of w.db.testRunResults 1).isEmpty = false := by
    decide +kernel
  have made : (buildExecutiveReport .demo w.db none none 1 9).isOk = true := by decide +kernel
  obtain ⟨executive, he⟩ := isOk_iff.mp made
  have named : ∀ a ∈ (pinningFirstRun ++ failingNextRun).map fun a =>
      (a.1, a.2.1, Happening.request a.2.2), a.2.1.runId ≠ [] := by
    simp [pinningFirstRun, failingNextRun, Tick.drawing]
  have reached : ReachedNamed w :=
    ⟨_, (configuredRun_serveSteps _ .empty (by decide +kernel)).of_labels named⟩
  refine ⟨fun h => ?_, fun h => ?_, executive, he, one_story reached he⟩
  · rw [h] at rows
    cases rows.1
  · rw [h] at rows
    cases rows.2

end States

end SentinelAI
