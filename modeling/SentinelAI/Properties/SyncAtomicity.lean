import SentinelAI.Properties.Sessions
import SentinelAI.Properties.Writes

/-!
# Properties — SyncAtomicity

A sync stores its findings in one transaction and the rows of its run in the next.  Where the second
one fails, the findings stay behind without their run, and since a finding that is live is not
opened again, a later sync does not announce them.

* `business_syncSecurityFindings`: what a sync leaves, whatever commits and records fail.
* `allOrNothing_iff`: it stores both or neither exactly when the first commit fails, or the second
  goes through, or it opens no finding.
-/

namespace SentinelAI
open Support

/-! ### The findings a sync opens -/

section Created

variable {projectId : Option Int} {clock : Nat → Time}

/-- A finding that was created stays among the created. -/
theorem created_ne_nil {results : List TestResult} {acc : List Finding × Table Finding}
    (h : acc.1 ≠ []) : (results.foldl (syncOne projectId clock) acc).1 ≠ [] := by
  induction results generalizing acc with
  | nil => exact h
  | cons result results ih =>
      refine ih ?_
      unfold syncOne
      split
      · exact h
      · exact List.append_ne_nil_of_left_ne_nil h _

/-- A sync opens no finding where every failed test has a live one. -/
theorem created_eq_nil_iff (clock : Nat → Time) {t : Table Finding} {results : List TestResult} :
    (syncFindings t results projectId clock).1 = [] ↔
      ∀ result ∈ results, result.status = .FAIL → hasLive t result.testId projectId = true := by
  unfold syncFindings
  induction results with
  | nil => exact ⟨fun _ _ h => (List.not_mem_nil h).elim, fun _ => rfl⟩
  | cons result results ih =>
      rw [List.foldl_cons, List.forall_mem_cons, ← ih]
      by_cases hl : result.status = .FAIL → hasLive t result.testId projectId = true
      · have skipped : syncOne projectId clock ([], t) result = ([], t) :=
          if_pos (Decidable.or_iff_not_imp_left.mpr fun h => hl (not_not.mp h))
        rw [skipped]
        exact (and_iff_right hl).symm
      · obtain ⟨hf, hn⟩ := Classical.not_imp.mp hl
        have opened : (syncOne projectId clock ([], t) result).1 ≠ [] := by
          rw [syncOne, if_neg (not_or.mpr ⟨not_not.mpr hf, hn⟩)]
          exact List.cons_ne_nil _ _
        exact ⟨fun h => (created_ne_nil opened h).elim, fun h => (hl h.1).elim⟩

/-- A sync that opens no finding leaves them as they are. -/
theorem syncFindings_of_nil {t : Table Finding} {results : List TestResult}
    (h : (syncFindings t results projectId clock).1 = []) :
    (syncFindings t results projectId clock).2 = t := by
  refine Table.ext ?_
  rw [rows_syncFindings, h, List.append_nil]

end Created

/-! ### After the run is stored -/

namespace InSession

variable {cfg : Config} {tick : Tick} {project : Project}

theorem watches_recordEvent (i : Nat) (e : EventFields) :
    (recordEvent cfg tick i e).Watches Db.business := by
  unfold recordEvent
  split
  · exact .pure _
  · split
    · exact .pure _
    · exact .log i fun _ => rfl

theorem watches_reload {α : Type} (find : Db → Option α) : (reload find).Watches Db.business :=
  Prog.Watches.get.bind fun db => .orRaise (find db)

theorem watches_recordOpened : ∀ (keys : List Int) (i : Nat),
    (recordOpened cfg tick project i keys).Watches Db.business
  | [], _ => .pure _
  | _ :: keys, i => (watches_reload _).bind fun _ => (watches_recordEvent i _).bind fun _ =>
      watches_recordOpened keys (i + 1)

theorem watches_recordRegressed (key : Int) : ∀ (rs : List DiffEntry) (i : Nat),
    (recordRegressed cfg tick project key i rs).Watches Db.business
  | [], _ => .pure _
  | _ :: rs, i => (watches_reload _).bind fun _ => (watches_recordEvent i _).bind fun _ =>
      watches_recordRegressed key rs (i + 1)

theorem watches_recordRegressions (i : Nat) :
    (recordRegressions cfg tick project i).Watches Db.business := by
  refine Prog.Watches.get.bind fun db => ?_
  split
  · exact .pure _
  · split
    · exact .pure _
    · exact watches_recordRegressed _ _ i

theorem watches_reloadFindings : ∀ keys : List Int, (reloadFindings keys).Watches Db.business
  | [] => .pure _
  | _ :: keys =>
      (watches_reload _).bind fun _ => (watches_reloadFindings keys).bind fun _ => .pure _

/-- What a sync does once its run is stored. -/
def announce (cfg : Config) (tick : Tick) (project : Project) (results : List TestResult)
    (created : List Int) : DbProg Answer := do
  recordOpened cfg tick project 0 created
  recordRegressions cfg tick project created.length
  let findings ← reloadFindings created
  return .ok (.ok (.obj [("results", resultsToJson results),
    ("findings_created", .arr (findings.map fun f => findingToDict f (some project)))]))

theorem watches_announce (results : List TestResult) (created : List Int) :
    (announce cfg tick project results created).Watches Db.business :=
  (watches_recordOpened created 0).bind fun _ => (watches_recordRegressions _).bind fun _ =>
    (watches_reloadFindings created).bind fun _ => .pure _

/-! ### The two transactions -/

section Transactions

variable {results : List TestResult} {source : Str} {fl : Faults} {db : Db}

/-- What `sync_findings` finds to open, and the table with it. -/
def synced (tick : Tick) (project : Project) (results : List TestResult) (db : Db) :
    List Finding × Table Finding :=
  SentinelAI.syncFindings db.findings results (some project.id) tick.findingTime

/-- The database with the findings of a sync. -/
def withFindings (tick : Tick) (project : Project) (results : List TestResult) (db : Db) : Db :=
  { db with findings := (synced tick project results db).2 }

/-- The database with the run of a sync. -/
def withRun (tick : Tick) (project : Project) (results : List TestResult) (source : Str) (db : Db) :
    Db :=
  { db with
    testRunResults :=
      SentinelAI.recordTestRun db.testRunResults results (some project.id) source tick.runId }

theorem withFindings_of_nil (h : (synced tick project results db).1 = []) :
    withFindings tick project results db = db := by
  have same : (synced tick project results db).2 = db.findings := syncFindings_of_nil h
  rw [withFindings, same]

/-- Nothing is committed where no finding is opened. -/
theorem exec_syncFindings_of_nil (h : (synced tick project results db).1 = []) :
    (syncFindings tick project results).exec Db.business fl (.opened db) =
      (some [], .opened db) := by
  unfold syncFindings
  rw [Prog.exec_bind (show _ = (some db.business, Session.opened db) from rfl),
    Prog.exec_bind (show _ = (some (), ⟨db, withFindings tick project results db⟩) from rfl),
    withFindings_of_nil h]
  change Prog.exec _ _ (if (synced tick project results db).1.isEmpty then _ else _) _ = _
  rw [if_pos (List.isEmpty_iff.mpr h)]
  rfl

theorem exec_syncFindings (h : (synced tick project results db).1 ≠ []) :
    (syncFindings tick project results).exec Db.business fl (.opened db) =
      if fl.commit findingsCommit then (none, ⟨db, withFindings tick project results db⟩)
      else
        (some ((synced tick project results db).1.map (·.id)),
          .opened (withFindings tick project results db)) := by
  unfold syncFindings
  rw [Prog.exec_bind (show _ = (some db.business, Session.opened db) from rfl),
    Prog.exec_bind (show _ = (some (), ⟨db, withFindings tick project results db⟩) from rfl)]
  change Prog.exec _ _ (if (synced tick project results db).1.isEmpty then _ else _) _ = _
  rw [if_neg (mt List.isEmpty_iff.mp h)]
  rfl

theorem exec_recordTestRun {s : Session Db} :
    (recordTestRun tick project results source).exec Db.business fl s =
      if fl.commit runCommit then
        (none, { s with held := withRun tick project results source s.held })
      else (some (), .opened (withRun tick project results source s.held)) := rfl

variable (project source fl db) in
/-- **What a sync leaves**: nothing, the findings without the run, or both. -/
theorem business_syncSecurityFindings (category : Option Str)
    (hr : runSuite (selectTests cfg category) tick.testTime = results) :
    ((syncSecurityFindings cfg tick project category source).run Db.business fl db).2.business =
      (if (synced tick project results db).1 ≠ [] ∧ fl.commit findingsCommit then db
        else if fl.commit runCommit then withFindings tick project results db
        else withRun tick project results source
          (withFindings tick project results db)).business := by
  have parts : syncSecurityFindings cfg tick project category source =
      syncFindings tick project results >>= fun created =>
        recordTestRun tick project results source >>= fun _ =>
          announce cfg tick project results created := by
    rw [← hr]
    rfl
  -- from the commit of the findings on, the session holds what is committed
  have rest (created : List Int) (d : Db) :
      ((recordTestRun tick project results source >>= fun _ => announce cfg tick project results
        created).exec Db.business fl (.opened d)).2.committed.business =
        (if fl.commit runCommit then d else withRun tick project results source d).business := by
    by_cases hc : fl.commit runCommit = true
    · rw [Prog.exec_bind_none (exec_recordTestRun.trans (if_pos hc)), if_pos hc]
      rfl
    · rw [Prog.exec_bind (exec_recordTestRun.trans (if_neg hc)), if_neg hc]
      exact (watches_announce results created).view_committed rfl
  rw [Prog.run, parts]
  by_cases hn : (synced tick project results db).1 = []
  · rw [Prog.exec_bind (exec_syncFindings_of_nil hn), if_neg fun h => h.1 hn,
      withFindings_of_nil hn]
    exact rest [] db
  · by_cases hc : fl.commit findingsCommit = true
    · rw [Prog.exec_bind_none ((exec_syncFindings hn).trans (if_pos hc)), if_pos ⟨hn, hc⟩]
    · rw [Prog.exec_bind ((exec_syncFindings hn).trans (if_neg hc)), if_neg fun h => hc h.2]
      exact rest _ _

end Transactions

end InSession

/-! ### All or nothing -/

section AllOrNothing

variable {cfg : Config} {tick : Tick} {project : Project} {category : Option Str} {source : Str}
  {fl : Faults} {db : Db}

/-- Of a sync that `done` would be the whole of, the findings and the run are both stored, or
neither is. -/
def AllOrNothing (before done after : Db) : Prop :=
  (after.findings = done.findings ∧ after.testRunResults = done.testRunResults) ∨
    (after.findings = before.findings ∧ after.testRunResults = before.testRunResults)

variable (project source db) in
/-- What a sync stores where nothing fails. -/
theorem stored_syncSecurityFindings {results : List TestResult}
    (hr : runSuite (selectTests cfg category) tick.testTime = results) :
    (SentinelAI.syncSecurityFindings cfg tick project db category source).2.findings =
        (InSession.synced tick project results db).2 ∧
      (SentinelAI.syncSecurityFindings cfg tick project db category source).2.testRunResults =
        (InSession.withRun tick project results source db).testRunResults := by
  rw [SentinelAI.syncSecurityFindings, Db.recordEvents_eq, ← hr]
  exact ⟨rfl, rfl⟩

theorem recordTestRun_ne {t : Table TestRunResult} {results : List TestResult} (h : results ≠ [])
    (projectId : Option Int) (source runId : Str) :
    recordTestRun t results projectId source runId ≠ t := by
  have longer : ∀ (results : List TestResult) (t : Table TestRunResult),
      (recordTestRun t results projectId source runId).rows.length =
        t.rows.length + results.length := by
    intro results
    induction results with
    | nil => exact fun _ => rfl
    | cons result results ih =>
        intro t
        refine (ih _).trans ?_
        simp only [Table.rows_insert, List.length_append, List.length_cons, List.length_nil]
        omega
  intro same
  have := longer results t
  rw [same] at this
  exact h (List.length_eq_zero_iff.mp (by omega))

/-- **A sync is all or nothing** exactly when the commit of its findings fails, or that of its run
goes through, or every failed test has a live finding already, so that none is opened. -/
theorem allOrNothing_iff (cfg : Config) (tick : Tick) (project : Project) (category : Option Str)
    (source : Str) (fl : Faults) (db : Db) :
    AllOrNothing db (SentinelAI.syncSecurityFindings cfg tick project db category source).2
        ((InSession.syncSecurityFindings cfg tick project category source).run Db.business fl
          db).2 ↔
      fl.commit InSession.findingsCommit = true ∨ fl.commit InSession.runCommit = false ∨
        ∀ result ∈ runSuite (selectTests cfg category) tick.testTime, result.status = .FAIL →
          hasLive db.findings result.testId (some project.id) = true := by
  generalize hr : runSuite (selectTests cfg category) tick.testTime = results
  obtain ⟨done_findings, done_run⟩ := stored_syncSecurityFindings project source db hr
  have left := InSession.business_syncSecurityFindings project source fl db category hr
  have left_findings := congrArg Db.findings left
  have left_run := congrArg Db.testRunResults left
  dsimp only [Db.business] at left_findings left_run
  rw [← created_eq_nil_iff tick.findingTime]
  unfold AllOrNothing
  rw [left_findings, left_run, done_findings, done_run]
  by_cases hn : (InSession.synced tick project results db).1 = []
  · -- the findings are what they were, with the run or without
    have same : (InSession.synced tick project results db).2 = db.findings := syncFindings_of_nil hn
    rw [if_neg fun h => h.1 hn, InSession.withFindings_of_nil hn, same]
    refine iff_of_true ?_ (.inr (.inr hn))
    by_cases hc : fl.commit InSession.runCommit = true
    · rw [if_pos hc]
      exact .inr ⟨rfl, rfl⟩
    · rw [if_neg hc]
      exact .inl ⟨rfl, rfl⟩
  · by_cases hf : fl.commit InSession.findingsCommit = true
    · rw [if_pos ⟨hn, hf⟩]
      exact iff_of_true (.inr ⟨rfl, rfl⟩) (.inl hf)
    · rw [if_neg fun h => hf h.2]
      by_cases hc : fl.commit InSession.runCommit = true
      · -- the findings are stored, and the run is not
        rw [if_pos hc]
        refine iff_of_false ?_ ?_
        · rintro (⟨-, hrun⟩ | ⟨hfindings, -⟩)
          · refine recordTestRun_ne ?_ _ _ _ hrun.symm
            rintro rfl
            exact hn rfl
          · refine hn ?_
            have rows := rows_syncFindings db.findings results (some project.id) tick.findingTime
            exact List.append_right_eq_self.mp (rows.symm.trans (congrArg Table.rows hfindings))
        · rintro (h | h | h)
          · exact hf h
          · rw [hc] at h
            cases h
          · exact hn h
      · rw [if_neg hc]
        exact iff_of_true (.inl ⟨rfl, rfl⟩) (.inr (.inl (Bool.eq_false_iff.mpr hc)))

/-! ### A run that is lost -/

/-- A user makes a project. -/
def oneProject : List Request :=
  [⟨"", none, .unguarded (.signup ⟨"a@x.com", "password"⟩)⟩,
    ⟨"Bearer a", none, .ofUser (.create_project ⟨"p", "model", none, none⟩)⟩]

/-- The second commit of a request fails. -/
def secondFails : Faults := ⟨fun i => i == InSession.runCommit, fun _ => none⟩

/-- The finding of the first sync is stored, and its run is not. -/
theorem not_allOrNothing_lost :
    let db := (serveAll .demo .zero .empty oneProject).db
    Reached .demo (serveAll .demo .zero .empty oneProject) ∧
    ∃ project ∈ db.projects.rows,
      let after := ((InSession.syncSecurityFindings .demo .zero project none "dashboard").run
        Db.business secondFails db).2
      after.findings.rows.map (·.testId) = ["t1".toList] ∧
      after.testRunResults.rows.map (·.testId) = [] ∧
      ¬ AllOrNothing db (syncSecurityFindings .demo .zero project db none "dashboard").2 after := by
  intro db
  have synced : (db.projects.find? 1).map (fun project =>
      let done := (syncSecurityFindings .demo .zero project db none "dashboard").2
      let after := ((InSession.syncSecurityFindings .demo .zero project none "dashboard").run
        Db.business secondFails db).2
      (done.testRunResults.rows.map (·.testId), after.findings.rows.map (·.testId),
        after.testRunResults.rows.map (·.testId))) =
      some (["t1".toList], ["t1".toList], []) := by decide +kernel
  have none_before : db.findings.rows.map (·.testId) = [] := by decide +kernel
  obtain ⟨project, hp, h⟩ := Option.map_eq_some_iff.mp synced
  simp only [Prod.mk.injEq] at h
  obtain ⟨done_run, after_findings, after_run⟩ := h
  refine ⟨reached_serveAll .zero oneProject (by simp [oneProject]), project,
    (Table.find?_eq_some_iff.mp hp).1, after_findings, after_run, ?_⟩
  rintro (⟨-, hrun⟩ | ⟨hfindings, -⟩)
  · rw [hrun, done_run] at after_run
    cases after_run
  · rw [hfindings, none_before] at after_findings
    cases after_findings

end AllOrNothing

end SentinelAI
