import SentinelAI.Properties.Writes

/-!
# Properties — Isolation

What a caller learns of, and changes in, the projects of others.  A caller is a user, or the project
that an API key stands for.

* `frame`: a request that goes through an ownership check leaves every project out of the caller's
  scope as it is, with all its rows.
* `reads_same`: in two states that agree on what is the caller's, a request that reads a project
  gets one and the same answer.  The rows of a run are looked up by the id of the run alone; that
  they are the caller's rests on the invariant `WellFormed`.
* `project_isolation`: both, in the states that are reached.
-/

namespace SentinelAI
open Support

/-! ### Callers -/

inductive Caller where
  | user (id : Int)
  | key (projectId : Int)
deriving DecidableEq

/-- Who makes a request, as its dependency reads the header. -/
def Request.caller (cfg : Config) (tick : Tick) (r : Request) (db : Db) : Option Caller :=
  match r.endpoint with
  | .unguarded _ => none
  | .ofUser _ | .ofProject _ _ =>
      (getCurrentUser cfg tick.now db r.authorization).toOption.map fun user => .user user.id
  | .ofKey _ _ =>
      if startsWith (cfg.U.lower r.authorization) "apikey " then
        (verifyApiKey cfg tick db (strip (r.authorization.drop 7))).1.map fun project =>
          .key project.id
      else if startsWith (cfg.U.lower r.authorization) "bearer " then
        (tokenUser cfg tick.now db (strip (r.authorization.drop 7))).toOption.map fun user =>
          .user user.id
      else none

/-- The projects of a caller. -/
def InScope (db : Db) : Caller → Int → Prop
  | .user u, q => Owns db u q
  | .key p, q => q = p

/-- The route goes through `require_project`, `require_project_or_api_key`, `owned_project` or
`_owned_finding`. -/
def Endpoint.checked : Endpoint → Bool
  | .ofProject _ _ | .ofKey _ _ => true
  | .ofUser (.get_finding _) | .ofUser (.update_finding_status _ _) | .ofUser (.generate _)
  | .ofUser (.evaluate_agent_action _ _ (some _))
  | .ofUser (.list_agent_actions _ _ (some _)) => true
  | _ => false

/-! ### Frame -/

section Frame

variable {cfg : Config} {tick : Tick} {w : World} {r : Request} {q : Int}

theorem requireProject_eq_ok {db : Db} {header : Str} {p : Int} {project : Project} :
    requireProject cfg tick db header p = .ok project ↔
      ∃ user, getCurrentUser cfg tick.now db header = .ok user ∧
        ownedProject db p user.id = .ok project := by
  unfold requireProject
  cases getCurrentUser cfg tick.now db header <;> simp

/-- A request to a route of project `p` writes to the rows of `p` only. -/
theorem writes_ofProject {p : Int} {route : ProjectRoute} (he : r.endpoint = .ofProject p route) :
    Writes p w.db (handle cfg tick w r).2.db := by
  unfold handle
  split
  · exact .refl
  dsimp only
  rw [Request.dispatch, he]
  dsimp only
  cases hp : requireProject cfg tick w.db r.authorization p with
  | error e => exact .refl
  | ok project =>
      obtain ⟨user, -, ho⟩ := requireProject_eq_ok.mp hp
      exact (owns_of_ownedProject ho).2 ▸ writes_projectBody route

theorem frame_ofUser {user : User} {route : UserRoute}
    (hc : (Endpoint.ofUser route).checked = true) (hq : ¬ Owns w.db user.id q) :
    SameProject q w.db (userBody cfg tick user w route).2.db := by
  have other {p : Int} (h : Owns w.db user.id p) : q ≠ p := fun e => hq (e ▸ h)
  cases route with
  | update_finding_status findingId status =>
      rcases writes_updateFindingStatus tick user w.db findingId status with h | ⟨p, hp, h⟩
      · exact (congrArg (SameProject q w.db) h).mpr (.refl q w.db)
      · exact h.same (other hp)
  | evaluate_agent_action agentId body projectId =>
      cases projectId with
      | none => cases hc
      | some p =>
          rcases writes_evaluateAction cfg tick user w.db p agentId body with h | ⟨hp, h⟩
          · exact (congrArg (SameProject q w.db) h).mpr (.refl q w.db)
          · exact h.same (other hp)
  | generate req =>
      cases ho : ownedProject w.db req.projectId user.id with
      | error e =>
          have : (generate cfg tick req (getProvider tick.sdks) w.db w.counts user).db = w.db := by
            rw [generate, ho]
          exact (congrArg (SameProject q w.db) this).mpr (.refl q w.db)
      | ok project => exact (writes_generate _ _ user).same (other (owns_of_ownedProject ho).1)
  | get_finding findingId => exact .refl q w.db
  | list_agent_actions agentId n projectId => exact .refl q w.db
  | get_me => cases hc
  | create_project body => cases hc
  | list_projects => cases hc

/-- A key that is tried is stamped in its own project, and hands on that one. -/
theorem scope_verifyApiKey {db : Db} {rawKey : Str}
    (hq : ∀ project, (verifyApiKey cfg tick db rawKey).1 = some project → q ≠ project.id) :
    SameProject q db (verifyApiKey cfg tick db rawKey).2 := by
  rcases writes_verifyApiKey cfg tick db rawKey with h | ⟨p, h, hw⟩
  · exact (congrArg (SameProject q db) h).mpr (.refl q db)
  · obtain ⟨project, hv, rfl⟩ := Option.map_eq_some_iff.mp h
    exact hw.same (hq project hv)

/-- The dependency that takes an API key writes to the caller's project, and hands on one of the
caller's. -/
theorem scope_requireProjectOrApiKey {p : Int} {route : KeyRoute} (he : r.endpoint = .ofKey p route)
    {db : Db} (hq : ∀ U, r.caller cfg tick db = some U → ¬ InScope db U q) :
    SameProject q db (requireProjectOrApiKey cfg tick db r.authorization p).2 ∧
      ∀ project, (requireProjectOrApiKey cfg tick db r.authorization p).1 = .ok project →
        q ≠ project.id := by
  rw [Request.caller, he] at hq
  dsimp only at hq
  unfold requireProjectOrApiKey
  split at hq
  · -- the caller is the project of a key
    rename_i hk
    rw [if_pos hk]
    have other : ∀ project, (verifyApiKey cfg tick db (strip (r.authorization.drop 7))).1 =
        some project → q ≠ project.id := by
      intro project hv
      rw [hv] at hq
      exact hq (.key project.id) rfl
    have stamped := scope_verifyApiKey other
    rcases hv : verifyApiKey cfg tick db (strip (r.authorization.drop 7)) with ⟨_ | project, db'⟩
    · rw [hv] at stamped
      exact ⟨stamped, fun _ h => nomatch h⟩
    · rw [hv] at stamped other
      refine ⟨stamped, fun project' h => ?_⟩
      dsimp only at h
      split at h
      · cases h
        exact other project rfl
      · cases h
  · rename_i hk
    rw [if_neg hk]
    split at hq
    · -- the caller is the user of a token
      rename_i hb
      rw [if_pos hb]
      refine ⟨.refl q db, fun project h => ?_⟩
      cases hu : tokenUser cfg tick.now db (strip (r.authorization.drop 7)) with
      | error e => rw [hu] at h; cases h
      | ok user =>
          rw [hu] at h hq
          obtain ⟨hp, hid⟩ := owns_of_ownedProject h
          intro e
          exact hq (.user user.id) rfl (show Owns db user.id q from (e.trans hid) ▸ hp)
    · rename_i hb
      rw [if_neg hb]
      exact ⟨.refl q db, fun _ h => nomatch h⟩

/-- **Frame.**  A request that goes through an ownership check leaves each project out of its
caller's scope as it is, with all its rows. -/
theorem frame (hc : r.endpoint.checked = true) (hf : FreshRunId w (tick, .request r))
    (hq : ∀ U, r.caller cfg tick w.db = some U → ¬ InScope w.db U q) :
    SameProject q w.db (handle cfg tick w r).2.db := by
  have left := leaves_handle cfg tick w r
  generalize (handle cfg tick w r).2 = w' at left ⊢
  cases left with
  | refused => exact .refl q w.db
  | stamped he hk => exact hk ▸ (scope_requireProjectOrApiKey he hq).1
  | unguarded he => rw [he] at hc; cases hc
  | ofUser hg he hu =>
      rw [Request.caller, he] at hq
      rw [hu] at hq
      exact frame_ofUser (he ▸ hc) (hq _ rfl)
  | ofProject he hp =>
      rw [Request.caller, he] at hq
      obtain ⟨user, hu, ho⟩ := requireProject_eq_ok.mp hp
      rw [hu] at hq
      obtain ⟨hown, hid⟩ := owns_of_ownedProject ho
      refine (writes_projectBody _).same fun e => hq (.user user.id) rfl ?_
      exact show Owns w.db user.id q from (e.trans hid) ▸ hown
  | @ofKey p route project keys he hp =>
      have hs := scope_requireProjectOrApiKey he hq
      rw [hp] at hs
      refine hs.1.trans
        ((writes_keyBody route fun category source h => ?_).same (hs.2 project rfl))
      exact hf r p category source rfl (h ▸ he)

end Frame

/-! ### Agreement -/

/-- Two databases agree on whether there is a user, on the user's workspaces and projects, and on
every row of a project of the user's. -/
structure AgreeUser (u : Int) (d d' : Db) : Prop where
  user : (d'.users.find? u).isSome = (d.users.find? u).isSome
  workspaces : d'.workspaces.rows.filter (·.ownerUserId == u) =
    d.workspaces.rows.filter (·.ownerUserId == u)
  projects : ∀ ws ∈ d.workspaces.rows, ws.ownerUserId = u → projectsIn d' ws.id = projectsIn d ws.id
  rows : ∀ p, Owns d u p → SameProject p d d'

/-- Two databases agree on what is the caller's. -/
def Agree : Caller → Db → Db → Prop
  | .user u, d, d' => AgreeUser u d d'
  | .key p, d, d' => SameProject p d d'

section Agreement

variable {u p : Int} {d d' : Db}

theorem SameProject.symm (h : SameProject p d d') : SameProject p d' d :=
  ⟨h.project.symm, h.callLogs.symm, h.findings.symm, h.testRunResults.symm,
    h.agentActionLogs.symm, h.securityEvents.symm, h.apiKeys.symm, h.baselines.symm⟩

/-- The workspaces of the user are in both. -/
theorem mem_workspaces_of_eq
    (h : d'.workspaces.rows.filter (·.ownerUserId == u) =
      d.workspaces.rows.filter (·.ownerUserId == u)) {ws : Workspace} (ho : ws.ownerUserId = u) :
    ws ∈ d'.workspaces.rows ↔ ws ∈ d.workspaces.rows := by
  have : ws ∈ d'.workspaces.rows.filter (·.ownerUserId == u) ↔
      ws ∈ d.workspaces.rows.filter (·.ownerUserId == u) := by rw [h]
  simpa [ho] using this

theorem ownedProject_transfer (ho : ∀ ws : Workspace, ws.ownerUserId = u →
      ws ∈ d.workspaces.rows → ws ∈ d'.workspaces.rows)
    (hp : ∀ ws ∈ d.workspaces.rows, ws.ownerUserId = u → projectsIn d' ws.id = projectsIn d ws.id)
    {project : Project} (h : ownedProject d p u = .ok project) :
    ownedProject d' p u = .ok project := by
  obtain ⟨hf, ws, hw, hu⟩ := ownedProject_eq_ok.mp h
  obtain ⟨hm, hk⟩ := Table.find?_eq_some_iff.mp hf
  obtain ⟨hwm, hwk⟩ := Table.find?_eq_some_iff.mp hw
  have hwk : ws.id = project.workspaceId := hwk
  have hin : project ∈ projectsIn d' ws.id := by
    rw [hp ws hwm hu]
    exact List.mem_filter.mpr ⟨hm, beq_iff_eq.mpr hwk.symm⟩
  exact ownedProject_eq_ok.mpr ⟨Table.find?_eq_some_iff.mpr ⟨List.mem_of_mem_filter hin, hk⟩, ws,
    Table.find?_eq_some_iff.mpr ⟨ho ws hu hwm, hwk⟩, hu⟩

/-- The ownership check gives the same in both. -/
theorem AgreeUser.ownedProject_eq (h : AgreeUser u d d') (p : Int) :
    ownedProject d' p u = ownedProject d p u := by
  -- a project that is the user's in one is so in the other, and the errors are all one
  have there {project : Project} (ho : ownedProject d p u = .ok project) :
      ownedProject d' p u = .ok project :=
    ownedProject_transfer (fun ws hu => (mem_workspaces_of_eq h.workspaces hu).mpr) h.projects ho
  have back {project : Project} (ho : ownedProject d' p u = .ok project) :
      ownedProject d p u = .ok project := by
    refine ownedProject_transfer (fun ws hu => (mem_workspaces_of_eq h.workspaces hu).mp)
      (fun ws hm hu => ?_) ho
    exact (h.projects ws ((mem_workspaces_of_eq h.workspaces hu).mp hm) hu).symm
  cases hd : ownedProject d p u with
  | ok project => exact there hd
  | error e =>
      cases hd' : ownedProject d' p u with
      | ok project => rw [back hd'] at hd; cases hd
      | error e' => rw [ownedProject_eq_error hd, ownedProject_eq_error hd']

theorem owns_iff_ok : Owns d u p ↔ ∃ project, ownedProject d p u = .ok project := by
  simp only [ownedProject_eq_ok]
  exact exists_congr fun project => ⟨fun ⟨ws, h₁, h₂, h₃⟩ => ⟨h₁, ws, h₂, h₃⟩,
    fun ⟨h₁, ws, h₂, h₃⟩ => ⟨ws, h₁, h₂, h₃⟩⟩

theorem AgreeUser.owns_iff (h : AgreeUser u d d') : Owns d' u p ↔ Owns d u p := by
  rw [owns_iff_ok, owns_iff_ok, h.ownedProject_eq]

theorem AgreeUser.symm (h : AgreeUser u d d') : AgreeUser u d' d where
  user := h.user.symm
  workspaces := h.workspaces.symm
  projects ws hm hu :=
    (h.projects ws ((mem_workspaces_of_eq h.workspaces hu).mp hm) hu).symm
  rows p hp := (h.rows p (h.owns_iff.mp hp)).symm

theorem AgreeUser.trans {d₁ d₂ d₃ : Db} (h₁ : AgreeUser u d₁ d₂) (h₂ : AgreeUser u d₂ d₃) :
    AgreeUser u d₁ d₃ where
  user := h₂.user.trans h₁.user
  workspaces := h₂.workspaces.trans h₁.workspaces
  projects ws hm hu :=
    (h₂.projects ws ((mem_workspaces_of_eq h₁.workspaces hu).mpr hm) hu).trans
      (h₁.projects ws hm hu)
  rows p hp := (h₁.rows p hp).trans (h₂.rows p (h₁.owns_iff.mpr hp))

/-- A write to someone else's project leaves what is the user's. -/
theorem Write.agreeUser (h : Write p d d') (hp : ¬ Owns d u p) : AgreeUser u d d' where
  user := by cases h <;> rfl
  workspaces := by cases h <;> rfl
  projects ws hm hu := by
    cases h with
    | project g hg =>
        -- the project is in no workspace of the user's, and stays where it is
        have other : ∀ r ∈ d.projects.rows, r.id = p → (r.workspaceId == ws.id) = false := by
          intro r hr hk
          rw [beq_eq_false_iff_ne]
          intro he
          exact hp ⟨r, ws, Table.find?_eq_some_iff.mpr ⟨hr, hk⟩,
            Table.find?_eq_some_iff.mpr ⟨hm, he.symm⟩, hu⟩
        refine Table.filter_modify fun r hr hk => ⟨other r hr hk, ?_⟩
        have moved : (Row.setKey p (g r)).workspaceId = r.workspaceId := hg r
        rw [moved]
        exact other r hr hk
    | _ => rfl
  rows q hq := h.same fun (e : q = p) => hp (e ▸ hq)

theorem Writes.agreeUser (h : Writes p d d') (hp : ¬ Owns d u p) : AgreeUser u d d' := by
  induction h with
  | refl => exact ⟨rfl, rfl, fun _ _ _ => rfl, fun _ _ => .refl _ d⟩
  | tail _ h ih => exact ih.trans (h.agreeUser fun ho => hp (ih.owns_iff.mp ho))

variable {cfg : Config} {tick : Tick}

/-- A token of the user is one in both, whatever the rest of the account is. -/
theorem AgreeUser.exists_tokenUser {user : User} (h : AgreeUser user.id d d') {token : Str}
    (hu : tokenUser cfg tick.now d token = .ok user) :
    ∃ user', tokenUser cfg tick.now d' token = .ok user' ∧ user'.id = user.id := by
  obtain ⟨userId, hs, hf⟩ := tokenUser_eq_ok.mp hu
  have hid : user.id = userId := (Table.find?_eq_some_iff.mp hf).2
  have there : (d'.users.find? userId).isSome = true := by rw [← hid, h.user, hid, hf]; rfl
  obtain ⟨user', hf'⟩ := Option.isSome_iff_exists.mp there
  have hid' : user'.id = userId := (Table.find?_eq_some_iff.mp hf').2
  exact ⟨user', tokenUser_eq_ok.mpr ⟨userId, hs, hf'⟩, hid'.trans hid.symm⟩

theorem AgreeUser.exists_getCurrentUser {user : User} (h : AgreeUser user.id d d') {header : Str}
    (hu : getCurrentUser cfg tick.now d header = .ok user) :
    ∃ user', getCurrentUser cfg tick.now d' header = .ok user' ∧ user'.id = user.id := by
  obtain ⟨token, ht, hu⟩ := getCurrentUser_eq_ok.mp hu
  obtain ⟨user', hu', hid⟩ := h.exists_tokenUser hu
  exact ⟨user', getCurrentUser_eq_ok.mpr ⟨token, ht, hu'⟩, hid⟩

/-- A finding of someone else is not told from none. -/
theorem AgreeUser.ownedFinding_eq {user : User} (h : AgreeUser user.id d d') (findingId : Int) :
    ownedFinding user d' findingId = ownedFinding user d findingId := by
  have there {d d' : Db} (h : AgreeUser user.id d d') {fp : Finding × Project}
      (ho : ownedFinding user d findingId = .ok fp) : ownedFinding user d' findingId = .ok fp := by
    unfold ownedFinding at ho ⊢
    split at ho
    · cases ho
    · rename_i f hf
      split at ho
      · cases ho
      · rename_i p hp
        split at ho
        · cases ho
        · rename_i project hown
          cases ho
          obtain ⟨hm, hk⟩ := Table.find?_eq_some_iff.mp hf
          have hin : f ∈ of d'.findings p := by
            rw [(h.rows p (owns_of_ownedProject hown).1).findings]
            exact mem_of.mpr ⟨hm, hp⟩
          rw [Table.find?_eq_some_iff.mpr ⟨(mem_of.mp hin).1, hk⟩]
          dsimp only
          rw [hp]
          dsimp only
          rw [h.ownedProject_eq, hown]
  -- no finding, no project and no ownership read the same
  have not_found {d : Db} {e : Raised} (ho : ownedFinding user d findingId = .error e) :
      e = findingNotFound := by
    unfold ownedFinding at ho
    split at ho
    · exact (Except.error.inj ho).symm
    · split at ho
      · exact (Except.error.inj ho).symm
      · split at ho
        · exact (Except.error.inj ho).symm
        · cases ho
  cases hd : ownedFinding user d findingId with
  | ok fp => exact there h hd
  | error e =>
      cases hd' : ownedFinding user d' findingId with
      | ok fp => rw [there h.symm hd'] at hd; cases hd
      | error e' => rw [not_found hd, not_found hd']

/-- The projects listed are the same. -/
theorem AgreeUser.listProjects_eq {user : User} (h : AgreeUser user.id d d') :
    listProjects user d' = listProjects user d := by
  have hw : workspaceOf d' user.id = workspaceOf d user.id := by
    unfold workspaceOf
    rw [← List.head?_filter, ← List.head?_filter, h.workspaces]
  unfold listProjects
  rw [hw]
  cases hd : workspaceOf d user.id with
  | none => rfl
  | some ws =>
      dsimp only
      rw [h.projects ws (List.mem_of_find?_eq_some hd) (by simpa using List.find?_some hd)]

end Agreement

/-! ### Runs of a project -/

section Reads

variable {p : Int} {d d' : Db}

theorem runRows_same (h : SameProject p d d') (hd : WellFormed d) (hd' : WellFormed d')
    {runId : Str} (hr : ∃ r ∈ of d.testRunResults p, r.runId = runId) :
    runRows d'.testRunResults runId = runRows d.testRunResults runId := by
  rw [runRows_eq hd hr, runRows_eq hd' (h.testRunResults ▸ hr), h.testRunResults]

theorem runSnapshot_same (h : SameProject p d d') (hd : WellFormed d) (hd' : WellFormed d')
    {runId : Str} (hr : ∃ r ∈ of d.testRunResults p, r.runId = runId) :
    runSnapshot d'.testRunResults runId = runSnapshot d.testRunResults runId := by
  rw [runSnapshot, runSnapshot, runRows_same h hd hd' hr]

/-- A baseline of the project pins a run of the project. -/
theorem run_of_baseline (hd : WellFormed d) {b : Baseline} (hb : b ∈ of d.baselines p) :
    ∃ r ∈ of d.testRunResults p, r.runId = b.runId := by
  obtain ⟨hm, hp⟩ := mem_of.mp hb
  obtain ⟨r, hr, hid, hrp⟩ := hd.pinned b hm
  exact ⟨r, mem_of.mpr ⟨hr, hrp.trans hp⟩, hid⟩

theorem run_of_latestRunId {rows : List TestRunResult} {runId : Str}
    (h : latestRunId rows = some runId) : ∃ r ∈ rows, r.runId = runId := by
  obtain ⟨r, hr, hid⟩ := Option.map_eq_some_iff.mp h
  exact ⟨r, mem_orderDesc.mp (List.mem_of_head? hr), hid⟩

theorem mem_of_newestBaseline {baselines : List Baseline} {b : Baseline}
    (h : newestBaseline baselines = some b) : b ∈ baselines :=
  mem_orderDesc.mp (List.mem_of_head? h)

theorem mem_of_latestRun {rows : List TestRunResult} {since until' : Option Time}
    {r : TestRunResult} (h : r ∈ latestRun rows since until') : r ∈ rows := by
  unfold latestRun at h
  split at h
  · cases h
  · exact List.mem_of_mem_filter h

/-! ### What is read of a project -/

theorem latestRows_same (h : SameProject p d d') (hd : WellFormed d) (hd' : WellFormed d') :
    latestRows d'.testRunResults p = latestRows d.testRunResults p := by
  unfold latestRows
  rw [h.testRunResults]
  cases hl : latestRunId (of d.testRunResults p) with
  | none => rfl
  | some runId =>
      dsimp only
      rw [runRows_same h hd hd' (run_of_latestRunId hl)]

theorem dashboard_same (h : SameProject p d d') (hd : WellFormed d) (hd' : WellFormed d') :
    buildDashboardSummary d' p = buildDashboardSummary d p := by
  rw [buildDashboardSummary, buildDashboardSummary, latestRows_same h hd hd', h.testRunResults,
    h.findings]

theorem reportRows_same (h : SameProject p d d') : reportRows d' p = reportRows d p := by
  rw [reportRows, reportRows, h.project, h.testRunResults, h.findings, h.securityEvents,
    h.baselines]

theorem majorChanges_same {t t' : Table TestRunResult} {baseline : Option Baseline}
    {latest : List TestRunResult} {opened resolved : Nat}
    (hb : ∀ b, baseline = some b → runSnapshot t' b.runId = runSnapshot t b.runId)
    (hl : ∀ r ∈ latest, runSnapshot t' r.runId = runSnapshot t r.runId) :
    majorChanges t' baseline latest opened resolved =
      majorChanges t baseline latest opened resolved := by
  unfold majorChanges
  cases baseline with
  | none => rfl
  | some b =>
      cases latest with
      | nil => rfl
      | cons r rest =>
          dsimp only
          rw [hb b rfl, hl r List.mem_cons_self]

theorem executiveReport_same (h : SameProject p d d') (hd : WellFormed d) (hd' : WellFormed d')
    {since until' : Option Time} {agents : List AgentProfile} {now : Time} :
    executiveReport (reportRows d' p) since until' d'.testRunResults agents now =
      executiveReport (reportRows d p) since until' d.testRunResults agents now := by
  rw [reportRows_same h]
  unfold executiveReport
  dsimp only
  rw [majorChanges_same (fun b hb => ?_) fun r hr => ?_]
  · exact runSnapshot_same h hd hd' (run_of_baseline hd (mem_of_newestBaseline hb))
  · exact runSnapshot_same h hd hd' ⟨r, mem_of_latestRun hr, rfl⟩

variable {cfg : Config} {tick : Tick} {project : Project}

/-- A route that reads a project answers the same in both. -/
theorem projectBody_same (h : SameProject project.id d d') (hd : WellFormed d)
    (hd' : WellFormed d') {route : ProjectRoute} (hg : route.method = .GET) :
    (projectBody cfg tick project d' route).1 = (projectBody cfg tick project d route).1 := by
  cases route with
  | get_project => rfl
  | list_project_api_keys =>
      dsimp only [projectBody, listProjectApiKeys]
      rw [h.apiKeys]
  | list_baselines =>
      dsimp only [projectBody, listBaselines]
      rw [h.baselines]
  | list_events query =>
      dsimp only [projectBody, listEvents]
      rw [h.securityEvents]
  | get_executive_report since until' format =>
      dsimp only [projectBody, getExecutiveReport, buildExecutiveReport]
      cases loadProfiles cfg.U cfg.profiles with
      | none => rfl
      | some agents =>
          dsimp only
          rw [executiveReport_same h hd hd']
  | get_technical_report since until' format =>
      dsimp only [projectBody, getTechnicalReport, buildTechnicalReport]
      rw [reportRows_same h]
  | security_dashboard =>
      dsimp only [projectBody]
      rw [dashboard_same h hd hd']
  | list_findings status =>
      dsimp only [projectBody, listFindings]
      rw [h.findings]
  | list_calls n =>
      dsimp only [projectBody, listCalls]
      rw [h.callLogs]
  | update_project body => cases hg
  | create_project_api_key name => cases hg
  | revoke_project_api_key keyId => cases hg
  | create_security_baseline name runId => cases hg

theorem run_of_targetRun {runId : Option Str} {target : Str}
    (h : targetRun project d runId = some target) :
    ∃ r ∈ of d.testRunResults project.id, r.runId = target := by
  unfold targetRun at h
  split at h
  · exact run_of_latestRunId h
  · split at h
    · rename_i ha
      cases h
      simpa using ha
    · cases h

/-- The regression report is the same in both. -/
theorem regressionReport_same (h : SameProject project.id d d') (hd : WellFormed d)
    (hd' : WellFormed d') {baselineId : Option Int} {runId : Option Str} :
    regressionReport project d' baselineId runId = regressionReport project d baselineId runId := by
  have ht : targetRun project d' runId = targetRun project d runId := by
    unfold targetRun
    rw [h.testRunResults]
  unfold regressionReport
  dsimp only
  rw [h.baselines, ht]
  split
  · rfl
  · rename_i b hb
    have hmem : b ∈ of d.baselines project.id := by
      cases baselineId with
      | none => exact mem_of_newestBaseline hb
      | some id => exact List.mem_of_find?_eq_some hb
    cases hr : targetRun project d runId with
    | none => rfl
    | some target =>
        dsimp only
        have hf : findingsOf d' b = findingsOf d b := by
          unfold findingsOf
          rw [show b.projectId = some project.id from (mem_of.mp hmem).2]
          exact h.findings
        rw [buildRegressionReport, buildRegressionReport, hf,
          runSnapshot_same h hd hd' (run_of_baseline hd hmem),
          runSnapshot_same h hd hd' (run_of_targetRun hr)]

/-- A key that resolves to a project does so in both. -/
theorem resolveApiKey_same (hd' : WellFormed d') {rawKey : Str} {row : ProjectAPIKey}
    (hr : resolveApiKey cfg d rawKey = some (row, project)) (h : SameProject project.id d d') :
    resolveApiKey cfg d' rawKey = some (row, project) := by
  unfold resolveApiKey at hr ⊢
  split at hr
  · rename_i hk
    rw [if_pos hk]
    split at hr
    · cases hr
    · rename_i row' hf
      split at hr
      · cases hr
      · rename_i hv
        obtain ⟨project', hp, he⟩ := Option.map_eq_some_iff.mp hr
        cases he
        have hid : project.id = row.projectId := (Table.find?_eq_some_iff.mp hp).2
        have hin : row ∈ of d'.apiKeys project.id := by
          rw [h.apiKeys]
          exact mem_of.mpr ⟨List.mem_of_find?_eq_some hf, congrArg some hid.symm⟩
        have hhash : row.keyHash = cfg.sha256 rawKey := by simpa using List.find?_some hf
        cases hf' : d'.apiKeys.rows.find? (·.keyHash == cfg.sha256 rawKey) with
        | none =>
            exact absurd (beq_iff_eq.mpr hhash) (List.find?_eq_none.mp hf' row (mem_of.mp hin).1)
        | some row' =>
            have hhash' : row'.keyHash = cfg.sha256 rawKey := by simpa using List.find?_some hf'
            -- no two keys have one hash, so the key found there is the one found here
            have : row' = row := hd'.hashes row' (List.mem_of_find?_eq_some hf') row
              (mem_of.mp hin).1 (hhash'.trans hhash.symm)
            subst this
            dsimp only
            rw [if_neg hv, ← hid, h.project, hid, hp]
            rfl
  · cases hr

/-- The row of the actions of a project is the project's. -/
theorem listActions_same {user : User} (h : AgreeUser user.id d d') {agentId : Option Str}
    {n : Int} :
    listActions cfg user d' agentId n (some p) = listActions cfg user d agentId n (some p) := by
  unfold listActions ownedIfGiven
  dsimp only
  rw [h.ownedProject_eq]
  cases ho : ownedProject d p user.id with
  | error e => rfl
  | ok project =>
      -- the rows of the project, filtered by the agent
      have matching (d : Db) : matchingActions cfg d agentId (some p) =
          (of d.agentActionLogs p).filter
            fun r => given (agentId.filter (· ≠ [])) fun a => r.agentId == cfg.U.canon a := by
        rw [matchingActions, of, List.filter_filter]
        rfl
      rw [matching, matching, (h.rows p (owns_of_ownedProject ho).1).agentActionLogs]

end Reads

/-! ### Two runs -/

section TwoRuns

variable {cfg : Config} {tick : Tick} {r : Request} {U : Caller}

/-- The route reads the projects of its caller. -/
def Endpoint.readsProject : Endpoint → Bool
  | .unguarded _ => false
  | .ofUser .list_projects | .ofUser (.get_finding _)
  | .ofUser (.list_agent_actions _ _ (some _)) => true
  | .ofUser _ => false
  | .ofProject _ route => route.method == .GET
  | .ofKey _ route => route.method == .GET

theorem caller_of_user {x : Except Raised User}
    (h : x.toOption.map (fun user => Caller.user user.id) = some U) :
    ∃ user, x = .ok user ∧ U = .user user.id := by
  cases x with
  | error e => cases h
  | ok user => exact ⟨user, rfl, (Option.some.inj h).symm⟩

/-- The dependency that takes an API key gives the same in both, and the project it gives is one on
which they agree. -/
theorem requireProjectOrApiKey_same {p : Int} {route : KeyRoute} {d d' : Db}
    (he : r.endpoint = .ofKey p route) (hd' : WellFormed d') (hU : r.caller cfg tick d = some U)
    (h : Agree U d d') :
    (requireProjectOrApiKey cfg tick d' r.authorization p).1 =
        (requireProjectOrApiKey cfg tick d r.authorization p).1 ∧
      ∀ project, (requireProjectOrApiKey cfg tick d r.authorization p).1 = .ok project →
        SameProject project.id d d' := by
  rw [Request.caller, he] at hU
  dsimp only at hU
  split at hU
  · rename_i hk
    rw [requireProjectOrApiKey_of_key _ _ d p hk, requireProjectOrApiKey_of_key _ _ d' p hk]
    obtain ⟨project, hv, rfl⟩ := Option.map_eq_some_iff.mp hU
    rw [verifyApiKey_fst] at hv
    obtain ⟨⟨row, _⟩, hr, rfl⟩ := Option.map_eq_some_iff.mp hv
    rw [hr, resolveApiKey_same hd' hr h]
    refine ⟨rfl, fun project' hp => ?_⟩
    dsimp only at hp
    split at hp
    · cases hp
      exact h
    · cases hp
  · rename_i hk
    split at hU
    · rename_i hb
      obtain ⟨user, hu, rfl⟩ := caller_of_user hU
      have by_token (d : Db) (user : User)
          (hu : tokenUser cfg tick.now d (strip (r.authorization.drop 7)) = .ok user) :
          (requireProjectOrApiKey cfg tick d r.authorization p).1 = ownedProject d p user.id := by
        rw [requireProjectOrApiKey, if_neg hk, if_pos hb, hu]
      obtain ⟨user', hu', hid⟩ := AgreeUser.exists_tokenUser h hu
      rw [by_token d user hu, by_token d' user' hu', hid]
      refine ⟨h.ownedProject_eq p, fun project ho => ?_⟩
      obtain ⟨hown, hid⟩ := owns_of_ownedProject ho
      exact h.rows project.id (hid ▸ hown)
    · cases hU

/-- The stamp of a key does not show in the regression report. -/
theorem dispatch_regressionReport {w : World} {p : Int} {baselineId : Option Int}
    {runId : Option Str} (he : r.endpoint = .ofKey p (.regression_report baselineId runId)) :
    (r.dispatch cfg tick w).1 = (requireProjectOrApiKey cfg tick w.db r.authorization p).1.bind
      fun project => regressionReport project w.db baselineId runId := by
  have stamped (project : Project) : regressionReport project
      (requireProjectOrApiKey cfg tick w.db r.authorization p).2 baselineId runId =
        regressionReport project w.db baselineId runId := by
    obtain ⟨keys, h⟩ := requireProjectOrApiKey_frame cfg tick w.db r.authorization p
    rw [h]
    rfl
  rw [Request.dispatch, he]
  dsimp only
  rcases hr : requireProjectOrApiKey cfg tick w.db r.authorization p with ⟨e | project, db⟩
  · rfl
  · rw [hr] at stamped
    exact stamped project

/-- Of the user, a route that reads projects looks at the id only. -/
theorem userBody_of_id {user user' : User} (hid : user'.id = user.id) {route : UserRoute}
    {w : World} (hg : (Endpoint.ofUser route).readsProject = true) :
    (userBody cfg tick user' w route).1 = (userBody cfg tick user w route).1 := by
  cases route with
  | list_projects => dsimp only [userBody, listProjects]; rw [hid]
  | get_finding findingId => dsimp only [userBody, ownedFinding]; rw [hid]
  | list_agent_actions agentId n projectId =>
      dsimp only [userBody, listActions, ownedIfGiven]
      rw [hid]
  | _ => cases hg

theorem userBody_same {user : User} {route : UserRoute} {w w' : World}
    (hg : (Endpoint.ofUser route).readsProject = true) (h : AgreeUser user.id w.db w'.db) :
    (userBody cfg tick user w' route).1 = (userBody cfg tick user w route).1 := by
  cases route with
  | list_projects =>
      dsimp only [userBody]
      rw [h.listProjects_eq]
  | get_finding findingId =>
      dsimp only [userBody]
      rw [h.ownedFinding_eq]
  | list_agent_actions agentId n projectId =>
      cases projectId with
      | none => cases hg
      | some p =>
          dsimp only [userBody]
          rw [listActions_same h]
  | _ => cases hg

theorem dispatch_same {w w' : World} (hw : WellFormed w.db) (hw' : WellFormed w'.db)
    (hg : r.endpoint.readsProject = true) (hU : r.caller cfg tick w.db = some U)
    (h : Agree U w.db w'.db) : (r.dispatch cfg tick w').1 = (r.dispatch cfg tick w).1 := by
  cases he : r.endpoint with
  | unguarded route => rw [he] at hg; cases hg
  | ofUser route =>
      rw [he] at hg
      rw [Request.caller, he] at hU
      obtain ⟨user, hu, rfl⟩ := caller_of_user hU
      rw [Request.dispatch, Request.dispatch, he]
      dsimp only
      obtain ⟨user', hu', hid⟩ := AgreeUser.exists_getCurrentUser h hu
      rw [hu, hu']
      exact (userBody_of_id hid hg).trans (userBody_same hg h)
  | ofProject p route =>
      rw [he] at hg
      rw [Request.caller, he] at hU
      obtain ⟨user, hu, rfl⟩ := caller_of_user hU
      have hp {d : Db} {user : User}
          (hu : getCurrentUser cfg tick.now d r.authorization = .ok user) :
          requireProject cfg tick d r.authorization p = ownedProject d p user.id := by
        rw [requireProject, hu]
      obtain ⟨user', hu', hid⟩ := AgreeUser.exists_getCurrentUser h hu
      rw [Request.dispatch, Request.dispatch, he]
      dsimp only
      rw [hp hu, hp hu', hid, h.ownedProject_eq]
      cases ho : ownedProject w.db p user.id with
      | error e => rfl
      | ok project =>
          obtain ⟨hown, hid⟩ := owns_of_ownedProject ho
          exact projectBody_same (h.rows project.id (hid ▸ hown)) hw hw' (beq_iff_eq.mp hg)
  | ofKey p route =>
      rw [he] at hg
      obtain ⟨heq, hs⟩ := requireProjectOrApiKey_same he hw' hU h
      cases route with
      | sync_security_findings category source => cases hg
      | regression_report baselineId runId =>
          rw [dispatch_regressionReport he, dispatch_regressionReport he, heq]
          cases hr : (requireProjectOrApiKey cfg tick w.db r.authorization p).1 with
          | error e => rfl
          | ok project => exact regressionReport_same (hs project hr) hw hw'

/-- **Reads.**  In two states reached that agree on what is the caller's, a request that reads a
project is answered the same. -/
theorem reads_same {w w' : World} (hw : Reached cfg w) (hw' : Reached cfg w')
    (hg : r.endpoint.readsProject = true) (hU : r.caller cfg tick w.db = some U)
    (h : Agree U w.db w'.db) : (handle cfg tick w' r).1 = (handle cfg tick w r).1 := by
  unfold handle
  cases r.gate cfg tick with
  | error e => rfl
  | ok _ =>
      dsimp only
      rw [dispatch_same (wellFormed_run hw) (wellFormed_run hw') hg hU h]

/-- **Project isolation.**  A request that reads a project tells the states reached apart by what is
its caller's only, and a request that goes through an ownership check leaves the projects out of its
caller's scope as they are. -/
theorem project_isolation {w : World} (hw : Reached cfg w) :
    (∀ w' U, Reached cfg w' → r.endpoint.readsProject = true → r.caller cfg tick w.db = some U →
      Agree U w.db w'.db → (handle cfg tick w' r).1 = (handle cfg tick w r).1) ∧
    (r.endpoint.checked = true → FreshRunId w (tick, .request r) → ∀ q,
      (∀ U, r.caller cfg tick w.db = some U → ¬ InScope w.db U q) →
        SameProject q w.db (handle cfg tick w r).2.db) :=
  ⟨fun _ _ hw' hg hU h => reads_same hw hw' hg hU h, fun hc hf _ hq => frame hc hf hq⟩

/-- Users 1 and 2 sign up, and create a project each. -/
def twoOwners : List Request :=
  [⟨"", none, .unguarded (.signup ⟨"a@x.co", "12345678"⟩)⟩,
    ⟨"", none, .unguarded (.signup ⟨"b@x.co", "12345678"⟩)⟩,
    ⟨"Bearer a", none, .ofUser (.create_project { name := "p" })⟩,
    ⟨"Bearer b", none, .ofUser (.create_project { name := "q" })⟩]

/-- User 1 makes a key for project 1: project 2 stays as it is, and user 2, who asks for the
baselines of project 1 and for a report on project 2, is told nothing of it. -/
theorem project_isolation_key :
    let w := serveAll .demo .zero .empty twoOwners
    let key : Request := ⟨"Bearer a", none, .ofProject 1 (.create_project_api_key "k")⟩
    let w' := (handle .demo .zero w key).2
    let foreign : Request := ⟨"Bearer b", none, .ofProject 1 .list_baselines⟩
    let report : Request := ⟨"Bearer b", none, .ofKey 2 (.regression_report none none)⟩
    w.db.apiKeys.rows.length = 0 ∧ w'.db.apiKeys.rows.length = 1 ∧ SameProject 2 w.db w'.db ∧
      (handle .demo .zero w' foreign).1 = (handle .demo .zero w foreign).1 ∧
      (handle .demo .zero w' report).1 = (handle .demo .zero w report).1 := by
  intro w key w' foreign report
  have hw : Reached .demo w := reached_serveAll .zero twoOwners (by simp [twoOwners])
  have hw' : Reached .demo w' :=
    reached_serveAll .zero (twoOwners ++ [key]) (by simp [twoOwners, key])
  have first : key.caller .demo .zero w.db = some (.user 1) := by decide +kernel
  have second : foreign.caller .demo .zero w.db = some (.user 2) := by decide +kernel
  have second' : report.caller .demo .zero w.db = some (.user 2) := by decide +kernel
  have not_owned (p u : Int) (h : (ownedProject w.db p u).isOk = false) : ¬ Owns w.db u p := by
    intro ho
    obtain ⟨project, ho⟩ := owns_iff_ok.mp ho
    rw [ho] at h
    cases h
  have writes : Writes 1 w.db w'.db := writes_ofProject (r := key) rfl
  have agree : Agree (.user 2) w.db w'.db := writes.agreeUser (not_owned 1 2 (by decide +kernel))
  refine ⟨by decide +kernel, by decide +kernel, ?_, ?_, ?_⟩
  · refine (project_isolation hw).2 rfl (fun _ _ _ _ h he => ?_) 2 fun U hU => ?_
    · cases h
      cases he
    · rw [first] at hU
      cases hU
      exact not_owned 2 1 (by decide +kernel)
  · exact (project_isolation hw).1 w' _ hw' rfl second agree
  · exact (project_isolation hw).1 w' _ hw' rfl second' agree

end TwoRuns

end SentinelAI
