import SentinelAI.Proxy.Api

/-!
# Properties — LiveFindings

A test has at most one live finding in each project: one that is open, acknowledged or waits for its
retest.  A sync keeps this, since it opens a finding only where none is live.  A status update does
not look at the other findings of the test, and can bring a resolved one back beside the one that
was opened after it.

* `atMostOneLive_syncFindings`: a sync keeps the invariant, whatever the results.
* `atMostOneLive_modify_iff`: a status update keeps it exactly when it brings back no finding whose
  test has a live one.
* `atMostOneLive_run_iff`: the runs of the process that keep it throughout are those whose status
  updates do.
-/

namespace SentinelAI
open Support

/-- Live findings of one test and one project are one finding. -/
def AtMostOneLive (t : Table Finding) : Prop :=
  ∀ f ∈ t.rows, ∀ g ∈ t.rows, f.live = true → g.live = true → f.testId = g.testId →
    f.projectId = g.projectId → f = g

theorem hasLive_iff {t : Table Finding} {testId : Str} {projectId : Option Int} :
    hasLive t testId projectId = true ↔
      ∃ f ∈ t.rows, f.testId = testId ∧ f.live = true ∧ f.projectId = projectId := by
  simp only [hasLive, List.any_eq_true, Bool.and_eq_true, beq_iff_eq, and_assoc]

/-! ### A sync -/

/-- A finding is added where none is live. -/
theorem AtMostOneLive.insert {t : Table Finding} (h : AtMostOneLive t) {f : Finding}
    (hf : hasLive t f.testId f.projectId = false) : AtMostOneLive (t.insert f) := by
  -- the new row is the only live one of its test
  have alone : ∀ g ∈ t.rows, g.live = true → g.testId = f.testId → g.projectId ≠ f.projectId := by
    intro g hg hl ht hp
    rw [hasLive_iff.mpr ⟨g, hg, ht, hl, hp⟩] at hf
    cases hf
  intro a ha b hb hal hbl htest hproject
  rcases Table.mem_insert.mp ha with ha | rfl <;> rcases Table.mem_insert.mp hb with hb | rfl
  · exact h a ha b hb hal hbl htest hproject
  · exact absurd hproject (alone a ha hal htest)
  · exact absurd hproject.symm (alone b hb hbl htest.symm)
  · rfl

theorem AtMostOneLive.syncOne {projectId : Option Int} {clock : Nat → Time}
    {acc : List Finding × Table Finding} (h : AtMostOneLive acc.2) (result : TestResult) :
    AtMostOneLive (syncOne projectId clock acc result).2 := by
  unfold SentinelAI.syncOne
  split
  · exact h
  · rename_i hn
    exact h.insert (Bool.not_eq_true _ ▸ (not_or.mp hn).2)

/-- **A sync keeps the invariant**, whatever the results, also where they repeat a test. -/
theorem atMostOneLive_syncFindings {t : Table Finding} (h : AtMostOneLive t)
    (results : List TestResult) (projectId : Option Int) (clock : Nat → Time) :
    AtMostOneLive (syncFindings t results projectId clock).2 := by
  have run : ∀ (results : List TestResult) (acc : List Finding × Table Finding),
      AtMostOneLive acc.2 → AtMostOneLive (results.foldl (syncOne projectId clock) acc).2 := by
    intro results
    induction results with
    | nil => exact fun _ h => h
    | cons result results ih => exact fun acc h => ih _ (h.syncOne result)
  exact run results _ h

/-! ### A status update -/

theorem patched_status (f : Finding) (status : FindingStatus) (now : Time) :
    (f.patched status now).status = status := by
  unfold Finding.patched
  split
  · assumption
  · rfl

theorem patched_frame (f : Finding) (status : FindingStatus) (now : Time) :
    (f.patched status now).id = f.id ∧ (f.patched status now).testId = f.testId ∧
      (f.patched status now).projectId = f.projectId := by
  unfold Finding.patched
  split <;> exact ⟨rfl, rfl, rfl⟩

/-- The update of `f` to `status` does not bring it back beside another one. -/
def BringsBackNone (t : Table Finding) (f : Finding) (status : FindingStatus) : Prop :=
  status ∈ OPEN_LIKE_STATUSES → f.live = false → hasLive t f.testId f.projectId = false

/-- The rows after a status update. -/
theorem mem_modify_patched {t : Table Finding} {f g : Finding} {status : FindingStatus} {now : Time}
    (hf : f ∈ t.rows) : g ∈ (t.modify f.id (·.patched status now)).rows ↔
      (g ∈ t.rows ∧ g.id ≠ f.id) ∨ g = f.patched status now := by
  have key : Row.setKey f.id (f.patched status now) = f.patched status now := by
    have hid := (patched_frame f status now).1
    change { f.patched status now with id := f.id } = f.patched status now
    rw [← hid]
  rw [Table.mem_modify]
  refine or_congr Iff.rfl ⟨?_, ?_⟩
  · rintro ⟨r, hr, hk, rfl⟩
    rw [Table.eq_of_key hr hf hk, key]
  · rintro rfl
    exact ⟨f, hf, rfl, key.symm⟩

/-- **A status update keeps the invariant** exactly when it brings back no finding whose test has a
live one. -/
theorem atMostOneLive_modify_iff {t : Table Finding} (h : AtMostOneLive t) {f : Finding}
    (hf : f ∈ t.rows) (status : FindingStatus) (now : Time) :
    AtMostOneLive (t.modify f.id (·.patched status now)) ↔ BringsBackNone t f status := by
  obtain ⟨hid, htest, hproject⟩ := patched_frame f status now
  have hlive : (f.patched status now).live = decide (status ∈ OPEN_LIKE_STATUSES) := by
    rw [Finding.live, patched_status]
  constructor
  · intro h' hs hl
    refine Bool.eq_false_iff.mpr fun hlive' => ?_
    obtain ⟨g, hg, hgt, hgl, hgp⟩ := hasLive_iff.mp hlive'
    -- `g` is live and `f` is not, so `g` stays beside the updated `f`
    have hne : g.id ≠ f.id := fun hk => by
      rw [Table.eq_of_key hg hf hk, hl] at hgl
      cases hgl
    have same := h' g ((mem_modify_patched hf).mpr (.inl ⟨hg, hne⟩)) (f.patched status now)
      ((mem_modify_patched hf).mpr (.inr rfl)) hgl (by rw [hlive, decide_eq_true hs])
      (hgt.trans htest.symm) (hgp.trans hproject.symm)
    exact hne (by rw [same, hid])
  · intro hb
    -- no other row is live beside the updated one
    have alone : ∀ g ∈ t.rows, g.id ≠ f.id → g.live = true → status ∈ OPEN_LIKE_STATUSES →
        g.testId = f.testId → g.projectId ≠ f.projectId := by
      intro g hg hne hgl hs hgt hgp
      cases hfl : f.live with
      | true => exact hne (by rw [h g hg f hf hgl hfl hgt hgp])
      | false =>
          have none_live := hb hs hfl
          rw [hasLive_iff.mpr ⟨g, hg, hgt, hgl, hgp⟩] at none_live
          cases none_live
    intro a ha b hb' hal hbl hab hproj
    rcases (mem_modify_patched hf).mp ha with ⟨ha, hak⟩ | rfl <;>
      rcases (mem_modify_patched hf).mp hb' with ⟨hb', hbk⟩ | rfl
    · exact h a ha b hb' hal hbl hab hproj
    · exact absurd (hproj.trans hproject)
        (alone a ha hak hal (of_decide_eq_true (hlive ▸ hbl)) (hab.trans htest))
    · exact absurd (hproj.symm.trans hproject)
        (alone b hb' hbk hbl (of_decide_eq_true (hlive ▸ hal)) (hab.symm.trans htest))
    · rfl

/-! ### What the functions do to the findings -/

section Frame

variable {cfg : Config} {tick : Tick} {db : Db} {w : World} {user : User} {project : Project}

theorem findings_openBody {client : Option Str} (route : OpenRoute) :
    (openBody cfg tick w client route).2.db.findings = w.db.findings := by
  obtain ⟨_, _, _, _, h, -⟩ := @openBody_frame cfg tick w client route
  rw [h]

theorem findings_createProject {body : ProjectCreate} :
    (createProject tick user db body).2.findings = db.findings := by
  obtain ⟨_, _, h⟩ := @createProject_frame tick user db body
  rw [h]

theorem findings_evaluateAction {agentId : Str} {body : ActionRequest} {projectId : Option Int} :
    (evaluateAction cfg tick user db agentId body projectId).2.findings = db.findings := by
  obtain ⟨_, _, h⟩ := @evaluateAction_frame cfg tick user db agentId body projectId
  rw [h]

theorem findings_projectBody (route : ProjectRoute) :
    (projectBody cfg tick project db route).2.findings = db.findings := by
  obtain ⟨_, _, _, h, -⟩ := @projectBody_frame cfg tick project db route
  rw [h]

theorem findings_keyBody (route : KeyRoute) :
    (keyBody cfg tick project db route).2.findings = db.findings ∨
      ∃ results, (keyBody cfg tick project db route).2.findings =
        (syncFindings db.findings results (some project.id) tick.findingTime).2 := by
  cases route with
  | sync_security_findings category source =>
      right
      refine ⟨runSuite (selectTests cfg category) tick.testTime, ?_⟩
      rw [keyBody, syncSecurityFindings, Db.recordEvents_eq]
  | regression_report baselineId runId => exact .inl rfl

end Frame

/-! ### Runs -/

/-- A step of the process under some configuration: what the tests of a suite come to may differ
from one sync to the next. -/
def ConfiguredStep (w : World) (a : Config × Tick × Happening) (w' : World) : Prop :=
  Step a.1 w a.2 w'

/-- The request is a status update of `finding`, and goes through. -/
structure Updates (cfg : Config) (tick : Tick) (w : World) (r : Request) (finding : Finding)
    (status : FindingStatus) : Prop where
  gate : r.gate cfg tick = .ok ()
  owned : ∃ findingId user project,
    r.endpoint = .ofUser (.update_finding_status findingId status) ∧
    getCurrentUser cfg tick.now w.db r.authorization = .ok user ∧
    ownedFinding user w.db findingId = .ok (finding, project)

/-- A status update, where the step is one that goes through, brings no finding back beside a live
one of its test and project. -/
def NoSecondLive (w : World) (a : Config × Tick × Happening) (_ : World) : Prop :=
  ∀ r finding status, a.2.2 = .request r → Updates a.1 a.2.1 w r finding status →
    BringsBackNone w.db.findings finding status

section Step

variable {cfg : Config} {tick : Tick} {w : World} {user : User}

theorem mem_of_ownedFinding {db : Db} {findingId : Int} {finding : Finding} {project : Project}
    (h : ownedFinding user db findingId = .ok (finding, project)) :
    finding ∈ db.findings.rows ∧ finding.id = findingId := by
  unfold ownedFinding at h
  cases hf : db.findings.find? findingId with
  | none => rw [hf] at h; cases h
  | some f =>
      rw [hf] at h
      dsimp only at h
      split at h
      · cases h
      · split at h
        · cases h
        · cases h
          exact Table.find?_eq_some_iff.mp hf

/-- What an update that goes through leaves. -/
theorem Updates.findings {r : Request} {finding : Finding} {status : FindingStatus}
    (h : Updates cfg tick w r finding status) :
    finding ∈ w.db.findings.rows ∧ (handle cfg tick w r).2.db.findings =
      w.db.findings.modify finding.id (·.patched status tick.now) := by
  obtain ⟨gate, findingId, user, project, he, hu, ho⟩ := h
  obtain ⟨hm, hid⟩ := mem_of_ownedFinding ho
  refine ⟨hm, ?_⟩
  rw [handle_of_gate gate, Request.dispatch, he]
  simp only [hu, userBody, updateFindingStatus, ho, hid]

/-- **What a request does to the findings**: nothing, a sync, or a status update. -/
theorem findings_handle (cfg : Config) (tick : Tick) (w : World) (r : Request) :
    (handle cfg tick w r).2.db.findings = w.db.findings ∨
    (∃ results projectId, (handle cfg tick w r).2.db.findings =
      (syncFindings w.db.findings results projectId tick.findingTime).2) ∨
    ∃ finding status, Updates cfg tick w r finding status := by
  have left := leaves_handle cfg tick w r
  generalize (handle cfg tick w r).2 = w' at left ⊢
  cases left with
  | refused => exact .inl rfl
  | stamped he hk => exact .inl rfl
  | unguarded he => exact .inl (findings_openBody _)
  | @ofUser route user hg he hu =>
      cases route with
      | create_project body => exact .inl findings_createProject
      | evaluate_agent_action agentId body projectId => exact .inl findings_evaluateAction
      | update_finding_status findingId status =>
          cases ho : ownedFinding user w.db findingId with
          | error e =>
              left
              simp only [userBody, updateFindingStatus, ho]
          | ok fp => exact .inr (.inr ⟨fp.1, status, hg, findingId, user, fp.2, he, hu, ho⟩)
      | generate req =>
          have only : OnlyLogs w.db (generate cfg tick req (getProvider tick.sdks) w.db
            w.counts user).db := onlyLogs_generate _ _ user
          exact .inl only.findings
      | get_me => exact .inl rfl
      | list_projects => exact .inl rfl
      | list_agent_actions agentId n projectId => exact .inl rfl
      | get_finding findingId => exact .inl rfl
  | ofProject he hp => exact .inl (findings_projectBody _)
  | @ofKey p route project keys he hp =>
      rcases @findings_keyBody cfg tick { w.db with apiKeys := keys } project route with
        h | ⟨results, h⟩
      · exact .inl h
      · exact .inr (.inl ⟨results, some project.id, h⟩)

end Step

/-- One step keeps the invariant exactly when it brings back no second live finding. -/
theorem atMostOneLive_step_iff (w : World) (a : Config × Tick × Happening) (w' : World)
    (hs : ConfiguredStep w a w') (h : AtMostOneLive w.db.findings) :
    AtMostOneLive w'.db.findings ↔ NoSecondLive w a w' := by
  obtain ⟨cfg, tick, happening⟩ := a
  rcases step_cases hs with ⟨r, rfl, hw⟩ | ⟨hr, _, he⟩
  · constructor
    · rintro h' r' finding status ⟨⟩ updates
      obtain ⟨hm, hu⟩ := updates.findings
      rw [hw, hu] at h'
      exact (atMostOneLive_modify_iff h hm status tick.now).mp h'
    · intro hn
      rw [hw]
      rcases findings_handle cfg tick w r with
        hf | ⟨results, projectId, hf⟩ | ⟨f, status, updates⟩
      · rw [hf]
        exact h
      · rw [hf]
        exact atMostOneLive_syncFindings h results projectId tick.findingTime
      · obtain ⟨hm, hu⟩ := updates.findings
        rw [hu]
        exact (atMostOneLive_modify_iff h hm status tick.now).mpr (hn r f status rfl updates)
  · rw [he]
    exact iff_of_true h fun r _ _ h' => absurd h' (hr r)

/-- **At most one live finding per test.**  It holds throughout a run of the process exactly when no
status update of the run brings a finding back beside a live one of its test and project. -/
theorem atMostOneLive_run_iff {as : List (Config × Tick × Happening)} {w : World} :
    Run.All ConfiguredStep (fun _ _ w' => AtMostOneLive w'.db.findings) .empty as w ↔
      Run.All ConfiguredStep NoSecondLive .empty as w :=
  Run.All.within_iff (I := fun w : World => AtMostOneLive w.db.findings) atMostOneLive_step_iff
    (fun f hf => nomatch (show f ∈ [] from hf))

/-! ### A finding that is reopened -/

/-- A user resolves the finding of a sync, syncs again, and opens the first finding again. -/
def reopening : List Request :=
  [⟨"", none, .unguarded (.signup ⟨"a@x.com", "password"⟩)⟩,
    ⟨"Bearer a", none, .ofUser (.create_project ⟨"p", "model", none, none⟩)⟩,
    ⟨"Bearer a", none, .ofKey 1 (.sync_security_findings none "dashboard")⟩,
    ⟨"Bearer a", none, .ofUser (.update_finding_status 1 .RESOLVED)⟩,
    ⟨"Bearer a", none, .ofKey 1 (.sync_security_findings none "dashboard")⟩,
    ⟨"Bearer a", none, .ofUser (.update_finding_status 1 .OPEN)⟩]

theorem run_configured {cfg : Config} {w w' : World} {hs : List (Tick × Happening)}
    (h : Run (Step cfg) w hs w') : Run ConfiguredStep w (hs.map (cfg, ·)) w' :=
  h.map (cfg, ·) fun _ _ _ hs => hs

/-- Two findings of the one test are open. -/
theorem not_atMostOneLive_reopening :
    (serveAll .demo .zero .empty reopening).db.findings.rows.map
        (fun f => (f.id, f.testId, f.projectId, f.status)) =
      [(1, "t1".toList, some 1, .OPEN), (2, "t1".toList, some 1, .OPEN)] ∧
    ¬ ∀ as w, Run ConfiguredStep .empty as w → AtMostOneLive w.db.findings := by
  have rows : (serveAll .demo .zero .empty reopening).db.findings.rows.map
      (fun f => (f.id, f.testId, f.projectId, f.status)) =
    [(1, "t1".toList, some 1, .OPEN), (2, "t1".toList, some 1, .OPEN)] := by decide +kernel
  refine ⟨rows, fun h => ?_⟩
  have one := h _ _ (run_configured (@run_serveAll .demo .zero reopening .empty))
  obtain ⟨f, gs, hfs, hf, hgs⟩ := List.map_eq_cons_iff.mp rows
  obtain ⟨g, _, rfl, hg, -⟩ := List.map_eq_cons_iff.mp hgs
  simp only [Prod.mk.injEq] at hf hg
  have live {x : Finding} (hx : x.status = .OPEN) : x.live = true := by
    rw [Finding.live, hx]
    rfl
  have same := one f (by simp [hfs]) g (by simp [hfs]) (live hf.2.2.2) (live hg.2.2.2)
    (hf.2.1.trans hg.2.1.symm) (hf.2.2.1.trans hg.2.2.1.symm)
  exact absurd (hf.1.symm.trans ((congrArg Finding.id same).trans hg.1)) (by decide)

end SentinelAI
