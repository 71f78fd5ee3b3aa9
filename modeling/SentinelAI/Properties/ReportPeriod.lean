import SentinelAI.Properties.Summaries

/-!
# Properties — ReportPeriod

The reports of a period.  The newest row in the period selects the run that is reported, and the
rows of that run are then taken whether they are in the period or not: a run that straddles a bound
puts rows into the report that were executed outside the period, and outside what the report itself
states as the time of its test activity.

* `head?_orderDesc_eq_some_iff`: the newest row, as the one that none comes before.
* `status_counts_latest_run`: the executive report counts the rows that the technical one lists.
* `periodToDict_bounds`: what a report states of the activity holds of every row in the period.
* `staysInPeriod_iff`: the reports stay in their period exactly when the run that the newest row in
  the period belongs to lies in the period.
-/

namespace SentinelAI
open Support

/-- A report is true to its period at `t`: `t` is within the bounds that were asked for, and lies
between the first and the last activity that the report states. -/
def WithinReport (report : Json) (since until' : Option Time) (t : Time) : Prop :=
  inPeriod since until' t = true ∧
    ∃ first last, (report.get "period").get "first_test_activity" = .time first ∧
      (report.get "period").get "last_test_activity" = .time last ∧ first ≤ t ∧ t ≤ last

/-- The rows that the executive report counts in `latest_run`. -/
def countedRows (db : Db) (projectId : Int) (since until' : Option Time) : List TestRunResult :=
  latestRun (of db.testRunResults projectId) since until'

/-- **The reports stay in their period.** -/
structure StaysInPeriod (cfg : Config) (db : Db) (since until' : Option Time) (projectId : Int)
    (now : Time) : Prop where
  technical : let report := buildTechnicalReport cfg db since until' projectId now
    ∀ c ∈ (report.get "test_cases").elems,
      ∃ t, c.get "executed_at" = .time t ∧ WithinReport report since until' t
  executive : ∀ report, buildExecutiveReport cfg db since until' projectId now = .ok report →
    ∀ r ∈ countedRows db projectId since until', WithinReport report since until' r.executedAt

/-- The run of the newest row in the period lies in the period. -/
def NewestRunInside (rows : List TestRunResult) (since until' : Option Time) : Prop :=
  ∀ newest ∈ rows, inPeriod since until' newest.executedAt = true →
    (∀ r ∈ rows, inPeriod since until' r.executedAt = true → ¬ Before (·.executedAt) r newest) →
    ∀ r ∈ rows, r.runId = newest.runId → inPeriod since until' r.executedAt = true

/-! ### The newest row -/

/-- The first row of `ORDER BY k DESC` is the one that none comes before. -/
theorem head?_orderDesc_eq_some_iff {ρ : Type*} [Row ρ] {k : ρ → Int} {l : List ρ}
    (hl : l.Pairwise fun r s => Row.key r < Row.key s) {newest : ρ} :
    (orderDesc k l).head? = some newest ↔ newest ∈ l ∧ ∀ r ∈ l, ¬ Before k r newest := by
  have ordered := pairwise_orderDesc (k := k) hl
  cases ho : orderDesc k l with
  | nil =>
      have empty : l = [] := head?_orderDesc_eq_none.mp (by rw [ho]; rfl)
      simp [empty]
  | cons first rest =>
      rw [ho] at ordered
      have before := (List.pairwise_cons.mp ordered).1
      have mem (r : ρ) : r ∈ l ↔ r = first ∨ r ∈ rest := by
        rw [← mem_orderDesc (k := k), ho, List.mem_cons]
      rw [List.head?_cons, Option.some.injEq]
      constructor
      · rintro rfl
        refine ⟨(mem first).mpr (.inl rfl), fun r hr hb => ?_⟩
        rcases (mem r).mp hr with rfl | hr
        · exact hb.asymm hb
        · exact hb.asymm (before r hr)
      · rintro ⟨hm, hn⟩
        rcases (mem newest).mp hm with rfl | hm
        · rfl
        · exact absurd (before newest hm) (hn first ((mem first).mpr (.inl rfl)))

section Period

variable {db : Db} {projectId : Int} {since until' : Option Time}

theorem pairwise_of {ρ : Type*} [Row ρ] [InProject ρ] (t : Table ρ) (p : Int) :
    (of t p).Pairwise fun r s => Row.key r < Row.key s := t.sorted.filter _

/-- **What is counted** is the run of the newest row in the period, in or out of the period. -/
theorem forall_mem_countedRows {P : TestRunResult → Prop} :
    (∀ r ∈ countedRows db projectId since until', P r) ↔
      ∀ newest ∈ of db.testRunResults projectId, inPeriod since until' newest.executedAt = true →
        (∀ r ∈ of db.testRunResults projectId, inPeriod since until' r.executedAt = true →
          ¬ Before (·.executedAt) r newest) →
        ∀ r ∈ of db.testRunResults projectId, r.runId = newest.runId → P r := by
  have newest_iff (newest : TestRunResult) := @head?_orderDesc_eq_some_iff _ _
    (fun r : TestRunResult => r.executedAt) _ ((pairwise_of db.testRunResults projectId).filter
      fun r => inPeriod since until' r.executedAt) newest
  simp only [List.mem_filter] at newest_iff
  unfold countedRows latestRun
  cases hh : (orderDesc (·.executedAt) ((of db.testRunResults projectId).filter
      fun r => inPeriod since until' r.executedAt)).head? with
  | none =>
      refine iff_of_true (fun _ h => (List.not_mem_nil h).elim) fun newest hm hp hn => ?_
      have some_newest := (newest_iff newest).mpr ⟨⟨hm, hp⟩, fun r hr => hn r hr.1 hr.2⟩
      rw [hh] at some_newest
      cases some_newest
  | some newest =>
      obtain ⟨⟨hm, hp⟩, hn⟩ := (newest_iff newest).mp hh
      constructor
      · intro h newest' hm' hp' hn' r hr hrun
        have same := (newest_iff newest').mpr ⟨⟨hm', hp'⟩, fun r hr => hn' r hr.1 hr.2⟩
        rw [hh] at same
        cases same
        exact h r (List.mem_filter.mpr ⟨hr, beq_iff_eq.mpr hrun⟩)
      · intro h r hr
        obtain ⟨hr, hrun⟩ := List.mem_filter.mp hr
        exact h newest hm hp (fun r hr hp => hn r ⟨hr, hp⟩) r hr (beq_iff_eq.mp hrun)

/-- The run of the newest row in the period lies in it exactly when what is counted does. -/
theorem newestRunInside_iff :
    NewestRunInside (of db.testRunResults projectId) since until' ↔
      ∀ r ∈ countedRows db projectId since until', inPeriod since until' r.executedAt = true :=
  forall_mem_countedRows.symm

/-! ### What a report states -/

/-- Every row in the period lies between the first and the last activity of the period. -/
theorem periodToDict_bounds {rows : List TestRunResult} {r : TestRunResult} (hr : r ∈ rows)
    (hp : inPeriod since until' r.executedAt = true) :
    ∃ first last, (periodToDict rows since until').get "first_test_activity" = .time first ∧
      (periodToDict rows since until').get "last_test_activity" = .time last ∧
      first ≤ r.executedAt ∧ r.executedAt ≤ last := by
  have hm : r ∈ rows.filter fun r => inPeriod since until' r.executedAt :=
    List.mem_filter.mpr ⟨hr, hp⟩
  have head {k : TestRunResult → Int} : ∃ row, (orderDesc k (rows.filter fun r =>
      inPeriod since until' r.executedAt)).head? = some row ∧ k r ≤ k row := by
    cases hh : (orderDesc k (rows.filter fun r => inPeriod since until' r.executedAt)).head? with
    | none =>
        rw [head?_orderDesc_eq_none.mp hh] at hm
        cases hm
    | some row => exact ⟨row, rfl, le_of_head?_orderDesc hh r hm⟩
  obtain ⟨first, hfirst, hle⟩ := @head fun r => -r.executedAt
  obtain ⟨last, hlast, hle'⟩ := @head (·.executedAt)
  refine ⟨first.executedAt, last.executedAt, ?_, ?_, Int.neg_le_neg_iff.mp hle, hle'⟩
  · change Json.opt Json.time (Option.map (·.executedAt)
      (orderDesc (fun r : TestRunResult => -r.executedAt) (rows.filter fun r =>
        inPeriod since until' r.executedAt)).head?) = _
    rw [hfirst]
    rfl
  · change Json.opt Json.time (Option.map (·.executedAt)
      (orderDesc (·.executedAt) (rows.filter fun r =>
        inPeriod since until' r.executedAt)).head?) = _
    rw [hlast]
    rfl

variable {cfg : Config} {now : Time}

/-- A report with the period of the project's rows is true to it at every row in the period. -/
theorem withinReport {report : Json}
    (h : report.get "period" = periodToDict (of db.testRunResults projectId) since until')
    {r : TestRunResult} (hr : r ∈ countedRows db projectId since until')
    (hp : inPeriod since until' r.executedAt = true) :
    WithinReport (scrub cfg none report) since until' r.executedAt := by
  have there : r ∈ of db.testRunResults projectId := by
    unfold countedRows latestRun at hr
    split at hr
    · cases hr
    · exact List.mem_of_mem_filter hr
  obtain ⟨first, last, hfirst, hlast, hle, hle'⟩ := periodToDict_bounds there hp
  refine ⟨hp, first, last, ?_, ?_, hle, hle'⟩
  · rw [get_scrub, get_scrub, h, hfirst]
    rfl
  · rw [get_scrub, get_scrub, h, hlast]
    rfl

/-- The test cases of the technical report are the rows that the executive one counts. -/
theorem mem_test_cases {c : Json} :
    c ∈ ((buildTechnicalReport cfg db since until' projectId now).get "test_cases").elems ↔
      ∃ r ∈ countedRows db projectId since until',
        scrub cfg none (testCaseToDict cfg (db.projects.find? projectId) r) = c := by
  have listed : ((buildTechnicalReport cfg db since until' projectId now).get "test_cases").elems =
      (((countedRows db projectId since until').insertionSort fun r s => r.category < s.category ∨
        (r.category = s.category ∧ r.testId ≤ s.testId)).map
          (testCaseToDict cfg (db.projects.find? projectId))).map (scrub cfg none) := by
    unfold buildTechnicalReport
    rw [get_scrub]
    change (scrub cfg _ (.arr _)).elems = _
    rw [scrub_arr]
    rfl
  rw [listed, List.map_map, List.mem_map]
  simp only [(List.perm_insertionSort _ _).mem_iff, Function.comp_apply]

/-- The counted rows are those that the executive report counts, by status. -/
theorem status_counts_latest_run {report : Json}
    (h : buildExecutiveReport cfg db since until' projectId now = .ok report) (s : TestStatus) :
    countAt ((report.get "latest_run").get "status_counts") s.value =
      .int ((countedRows db projectId since until').countP (·.status == s)) := by
  unfold buildExecutiveReport at h
  split at h
  · cases h
  · rename_i agents _
    cases h
    have counts : (executiveReport (reportRows db projectId) since until' db.testRunResults agents
        now).get "latest_run" = .opt (fun r : TestRunResult => .obj [
          ("run_id".toList, .str r.runId), ("executed_at".toList, .time r.executedAt),
          ("status_counts".toList,
            .obj (counter ((countedRows db projectId since until').map (·.status.value))))])
        (countedRows db projectId since until').head? := rfl
    rw [get_scrub, get_scrub, counts, ← count_value]
    cases countedRows db projectId since until' with
    | nil => rfl
    | cons r latest =>
        change countAt (scrub cfg (some "status_counts".toList) (.obj _)) _ = _
        rw [scrub_counter, countAt_counter]

theorem executed_at_test_case (project : Option Project) (r : TestRunResult) :
    (scrub cfg none (testCaseToDict cfg project r)).get "executed_at" = .time r.executedAt := by
  rw [get_scrub]
  rfl

/-- What holds of the times of the test cases holds of the times of the rows. -/
theorem forall_test_case_iff {P : Time → Prop} :
    (∀ c ∈ ((buildTechnicalReport cfg db since until' projectId now).get "test_cases").elems,
      ∃ t, c.get "executed_at" = .time t ∧ P t) ↔
      ∀ r ∈ countedRows db projectId since until', P r.executedAt := by
  simp only [mem_test_cases, forall_exists_index, and_imp, forall_apply_eq_imp_iff₂,
    executed_at_test_case, Json.time.injEq, exists_eq_left']

/-! ### The reports -/

/-- Reports that stay in their period are of a run that lies in it. -/
theorem StaysInPeriod.inside (h : StaysInPeriod cfg db since until' projectId now) :
    NewestRunInside (of db.testRunResults projectId) since until' := by
  rw [newestRunInside_iff]
  exact fun r hr => (forall_test_case_iff.mp h.technical r hr).1

/-- Of a run that lies in the period, the reports stay in it. -/
theorem NewestRunInside.stays
    (h : NewestRunInside (of db.testRunResults projectId) since until') :
    StaysInPeriod cfg db since until' projectId now := by
  rw [newestRunInside_iff] at h
  constructor
  · exact forall_test_case_iff.mpr fun r hr => withinReport rfl hr (h r hr)
  · intro report hreport r hr
    unfold buildExecutiveReport at hreport
    split at hreport
    · cases hreport
    · cases hreport
      exact withinReport rfl hr (h r hr)

/-- **Reports and their period.**  Everything that the reports of a project list or count was
executed within the bounds, and within the activity that they state, exactly when the run of the
newest row in the period has no row outside of it. -/
theorem staysInPeriod_iff (cfg : Config) (db : Db) (since until' : Option Time) (projectId : Int)
    (now : Time) :
    StaysInPeriod cfg db since until' projectId now ↔
      NewestRunInside (of db.testRunResults projectId) since until' :=
  ⟨fun h => h.inside, fun h => h.stays⟩

end Period

/-! ### A run that straddles a bound -/

/-- A result of test `testId` at time `t`. -/
def resultAt (testId : Str) (t : Time) : TestResult :=
  ⟨testId, "n", "c", .high, .PASS, "d", ⟨"a", .null, "local", "m", none, .obj []⟩, t, .obj []⟩

/-- A run of two tests, of which one ends at time 1 and the other at time 5. -/
def straddlingDb : Db :=
  { Db.empty with
    testRunResults :=
      recordTestRun .empty [resultAt "t1" 1, resultAt "t2" 5] (some 1) "api" "r" }

/-- **A report of the time since 3** lists the test that ended at time 1, and states that the first
activity was at time 5. -/
theorem not_staysInPeriod_straddling :
    let report := buildTechnicalReport .bare straddlingDb (some 3) none 1 9
    (∃ c ∈ (report.get "test_cases").elems, c.get "executed_at" = .time 1) ∧
      (report.get "period").get "first_test_activity" = .time 5 ∧
      ¬ StaysInPeriod .bare straddlingDb (some 3) none 1 9 := by
  have newest : (countedRows straddlingDb 1 (some 3) none).map (·.executedAt) = [1, 5] := by
    decide
  obtain ⟨r, rest, hrows, hr, -⟩ := List.map_eq_cons_iff.mp newest
  have counted : r ∈ countedRows straddlingDb 1 (some 3) none := by
    rw [hrows]
    exact List.mem_cons_self
  refine ⟨?_, ?_, fun h => ?_⟩
  · exact ⟨_, mem_test_cases.mpr ⟨r, counted, rfl⟩, by rw [executed_at_test_case, hr]⟩
  · rw [buildTechnicalReport, get_scrub, get_scrub]
    rfl
  · have inside := newestRunInside_iff.mp h.inside r counted
    rw [hr] at inside
    cases inside

end SentinelAI
