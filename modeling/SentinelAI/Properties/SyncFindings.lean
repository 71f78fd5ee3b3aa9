import SentinelAI.Properties.LiveFindings
import SentinelAI.Properties.SyncAtomicity

/-!
# Properties — SyncFindings

Which findings a sync opens.  Each result is looked at in a table that holds the findings opened for
the results before it, so that what the loop opens is what a list of the failed tests, each once,
leaves to be opened (`created_syncFindings`).

* `hasLive_syncFindings`: the tests that have a live finding after a sync.
* `syncsExactly`: a sync opens the findings it has to, and no others.
* `keptFindings_run`: what a run of the process changes of a finding.
* `sync_and_runs`: the two together.
-/

namespace SentinelAI
open Support

/-! ### What a sync has to open -/

/-- The tests that failed, each once, in the order of their first failures. -/
def failedTests (results : List TestResult) : List Str :=
  ((results.filter (·.status = .FAIL)).map (·.testId)).eraseDups

/-- The first failure of a test. -/
def firstFailure (results : List TestResult) (testId : Str) : Option TestResult :=
  results.find? fun r => r.status = .FAIL ∧ r.testId = testId

/-- The failed tests that have no live finding in the project. -/
def unopened (t : Table Finding) (results : List TestResult) (projectId : Option Int) : List Str :=
  (failedTests results).filter fun testId => !hasLive t testId projectId

/-- The rows of their findings, before the table gives them their keys. -/
def dueFindings (t : Table Finding) (results : List TestResult) (projectId : Option Int)
    (clock : Nat → Time) : List Finding :=
  ((unopened t results projectId).filterMap (firstFailure results)).mapIdx fun i r =>
    findingRow r projectId (clock i)

theorem mem_failedTests {results : List TestResult} {testId : Str} :
    testId ∈ failedTests results ↔ ∃ r ∈ results, r.status = .FAIL ∧ r.testId = testId := by
  simp only [failedTests, List.mem_eraseDups, List.mem_map, List.mem_filter, decide_eq_true_eq,
    and_assoc]

theorem mem_failedTests_append {results : List TestResult} {r : TestResult} {testId : Str} :
    testId ∈ failedTests (results ++ [r]) ↔
      testId ∈ failedTests results ∨ (r.status = .FAIL ∧ r.testId = testId) := by
  simp only [mem_failedTests, List.mem_append, List.mem_singleton, or_and_right, exists_or,
    exists_eq_left]

/-- One more result is one more failed test, if it failed and no earlier one of the test did. -/
theorem failedTests_append (results : List TestResult) (r : TestResult) :
    failedTests (results ++ [r]) = failedTests results ++
      if r.status = .FAIL ∧ r.testId ∉ failedTests results then [r.testId] else [] := by
  have mem : r.testId ∈ failedTests results ↔
      r.testId ∈ (results.filter (·.status = .FAIL)).map (·.testId) := List.mem_eraseDups
  simp only [mem]
  unfold failedTests
  rw [List.filter_append, List.map_append, List.eraseDups_append]
  congr 1
  by_cases hs : r.status = .FAIL
  · by_cases hm : r.testId ∈ (results.filter (·.status = .FAIL)).map (·.testId)
    · rw [if_neg fun h => h.2 hm]
      simp [List.removeAll, hs, hm]
    · rw [if_pos ⟨hs, hm⟩]
      simp [List.removeAll, List.eraseDups_cons, hs, hm]
  · rw [if_neg fun h => hs h.1]
    simp [hs]

/-- The first failure of a test that failed stays the first. -/
theorem firstFailure_append_of_mem {results : List TestResult} {testId : Str}
    (h : testId ∈ failedTests results) (r : TestResult) :
    firstFailure (results ++ [r]) testId = firstFailure results testId := by
  obtain ⟨s, hs, hf, ht⟩ := mem_failedTests.mp h
  unfold firstFailure
  rw [List.find?_append]
  cases hr : results.find? fun r => r.status = .FAIL ∧ r.testId = testId with
  | none => exact absurd (decide_eq_true ⟨hf, ht⟩) (List.find?_eq_none.mp hr s hs)
  | some first => rfl

/-- The failure of a test that had not failed is the first. -/
theorem firstFailure_append_of_not_mem {results : List TestResult} {r : TestResult}
    (hr : r.status = .FAIL) (h : r.testId ∉ failedTests results) :
    firstFailure (results ++ [r]) r.testId = some r := by
  have none_before : (results.find? fun s => s.status = .FAIL ∧ s.testId = r.testId) = none :=
    List.find?_eq_none.mpr fun s hs hp => h (mem_failedTests.mpr ⟨s, hs, of_decide_eq_true hp⟩)
  unfold firstFailure
  rw [List.find?_append, none_before, Option.none_or]
  exact List.find?_cons_of_pos (decide_eq_true ⟨hr, rfl⟩)

/-! ### The loop -/

section Loop

variable {t : Table Finding} {projectId : Option Int} {clock : Nat → Time}

theorem syncFindings_append (results : List TestResult) (r : TestResult) :
    syncFindings t (results ++ [r]) projectId clock =
      syncOne projectId clock (syncFindings t results projectId clock) r := by
  rw [syncFindings, List.foldl_append]
  rfl

theorem hasLive_insert_iff (r : TestResult) (now : Time) (testId : Str) :
    hasLive (t.insert (findingRow r projectId now)) testId projectId = true ↔
      hasLive t testId projectId = true ∨ r.testId = testId := by
  simp only [hasLive_iff, Table.mem_insert, or_and_right, exists_or, exists_eq_left]
  refine or_congr Iff.rfl ⟨fun h => h.1, fun h => ⟨h, rfl, rfl⟩⟩

/-- **After a sync** a test has a live finding if it had one, or failed. -/
theorem hasLive_syncFindings (results : List TestResult) (testId : Str) :
    hasLive (syncFindings t results projectId clock).2 testId projectId = true ↔
      hasLive t testId projectId = true ∨ testId ∈ failedTests results := by
  induction results using List.reverseRecOn generalizing testId with
  | nil => exact (or_iff_left List.not_mem_nil).symm
  | append_singleton results r ih =>
      rw [syncFindings_append, syncOne, mem_failedTests_append, ← or_assoc, ← ih]
      split
      · -- the result did not fail, or its test has a live finding already
        rename_i h
        refine (or_iff_left_of_imp ?_).symm
        rintro ⟨hs, rfl⟩
        exact h.resolve_left (not_not.mpr hs)
      · rename_i h
        have hs : r.status = .FAIL := not_not.mp (not_or.mp h).1
        rw [hasLive_insert_iff]
        exact or_congr Iff.rfl (and_iff_right hs).symm

variable (clock) in
/-- One more result is one more test to open a finding for, if it failed and its test has none. -/
theorem unopened_append (results : List TestResult) (r : TestResult) :
    unopened t (results ++ [r]) projectId = unopened t results projectId ++
      if r.status = .FAIL ∧
        hasLive (syncFindings t results projectId clock).2 r.testId projectId = false
      then [r.testId] else [] := by
  unfold unopened
  rw [failedTests_append, List.filter_append]
  congr 1
  have free : hasLive (syncFindings t results projectId clock).2 r.testId projectId = false ↔
      hasLive t r.testId projectId = false ∧ r.testId ∉ failedTests results := by
    rw [← Bool.not_eq_true, hasLive_syncFindings, not_or, Bool.not_eq_true]
  rw [apply_ite (List.filter _), List.filter_nil]
  by_cases hl : hasLive t r.testId projectId = true
  · simp [hl, free]
  · simp [hl, free]

/-- **What a sync opens** is what it has to, apart from the keys. -/
theorem created_syncFindings (results : List TestResult) :
    (syncFindings t results projectId clock).1.map (Row.setKey 0) =
      dueFindings t results projectId clock := by
  induction results using List.reverseRecOn with
  | nil => rfl
  | append_singleton results r ih =>
      -- the failures known so far are found as before
      have known : (unopened t results projectId).filterMap (firstFailure (results ++ [r])) =
          (unopened t results projectId).filterMap (firstFailure results) :=
        List.filterMap_congr fun testId h =>
          firstFailure_append_of_mem (List.mem_of_mem_filter h) r
      unfold dueFindings at ih ⊢
      rw [syncFindings_append, unopened_append clock, List.filterMap_append, known,
        syncOne]
      split
      · rename_i h
        rw [if_neg, List.filterMap_nil, List.append_nil, ih]
        rintro ⟨hs, hl⟩
        rcases h with h | h
        · exact h hs
        · exact Bool.false_ne_true (hl.symm.trans h)
      · rename_i h
        obtain ⟨hs, hl⟩ := not_or.mp h
        have hs : r.status = .FAIL := not_not.mp hs
        have hl : hasLive (syncFindings t results projectId clock).2 r.testId projectId = false :=
          Bool.not_eq_true _ ▸ hl
        have first : r.testId ∉ failedTests results := fun hm => by
          rw [(hasLive_syncFindings results r.testId).mpr (.inr hm)] at hl
          cases hl
        have opened := congrArg List.length ih
        rw [List.length_map, List.length_mapIdx] at opened
        rw [if_pos ⟨hs, hl⟩, List.filterMap_cons_some (firstFailure_append_of_not_mem hs first),
          List.filterMap_nil, List.mapIdx_append, List.map_append, ih, opened, List.mapIdx_cons,
          List.mapIdx_nil, Nat.zero_add]
        rfl

end Loop

/-! ### A sync, and a run of the process -/

/-- **A sync opens exactly the right findings.** -/
structure SyncsExactly (t : Table Finding) (results : List TestResult) (projectId : Option Int)
    (clock : Nat → Time) : Prop where
  /-- It opens a finding for each failed test that has none, with the fields of its first
  failure. -/
  created : (syncFindings t results projectId clock).1.map (Row.setKey 0) =
    dueFindings t results projectId clock
  opened : (syncFindings t results projectId clock).1.map (·.testId) =
    unopened t results projectId
  status : ∀ f ∈ (syncFindings t results projectId clock).1,
    f.status = .OPEN ∧ f.projectId = projectId
  /-- The rows that were there are as they were, and there are no others. -/
  rows : (syncFindings t results projectId clock).2.rows =
    t.rows ++ (syncFindings t results projectId clock).1
  complete : ∀ r ∈ results, r.status = .FAIL →
    hasLive (syncFindings t results projectId clock).2 r.testId projectId = true
  /-- Once more it opens none. -/
  again : ∀ clock',
    (syncFindings (syncFindings t results projectId clock).2 results projectId clock').1 = []

/-- Every finding of the first table is in the second, and differs at most in its status and in when
it was updated. -/
def KeptFindings (t t' : Table Finding) : Prop :=
  ∀ f ∈ t.rows, ∃ f' ∈ t'.rows, f' = { f with status := f'.status, updatedAt := f'.updatedAt }

section Exact

variable {t : Table Finding} {results : List TestResult} {projectId : Option Int}
  {clock : Nat → Time}

variable (clock) in
/-- The test of a finding that is due is the failed one. -/
theorem testId_dueFindings : (dueFindings t results projectId clock).map (·.testId) =
    unopened t results projectId := by
  have first : ∀ ids : List Str, (∀ id ∈ ids, id ∈ failedTests results) →
      (ids.filterMap (firstFailure results)).map (·.testId) = ids := by
    intro ids h
    induction ids with
    | nil => rfl
    | cons id ids ih =>
        obtain ⟨r, hr, hf, ht⟩ := mem_failedTests.mp (h id List.mem_cons_self)
        cases he : firstFailure results id with
        | none => exact absurd (decide_eq_true ⟨hf, ht⟩) (List.find?_eq_none.mp he r hr)
        | some s =>
            have hs : s.status = .FAIL ∧ s.testId = id := by
              unfold firstFailure at he
              simpa using List.find?_some he
            rw [List.filterMap_cons_some he, List.map_cons, hs.2,
              ih fun id h' => h id (List.mem_cons_of_mem _ h')]
  have rows : ∀ l : List TestResult,
      (l.mapIdx fun i r => findingRow r projectId (clock i)).map (·.testId) = l.map (·.testId) :=
    fun l => List.ext_getElem (by simp) fun i _ _ => by simp [findingRow]
  rw [dueFindings, rows]
  exact first _ fun id h => List.mem_of_mem_filter h

theorem syncsExactly (t : Table Finding) (results : List TestResult) (projectId : Option Int)
    (clock : Nat → Time) : SyncsExactly t results projectId clock where
  created := created_syncFindings results
  opened := by
    rw [← testId_dueFindings clock, ← created_syncFindings, List.map_map]
    rfl
  status := by
    intro f hf
    have due := List.mem_map_of_mem (f := Row.setKey 0) hf
    rw [created_syncFindings] at due
    obtain ⟨i, hi, he⟩ := List.mem_mapIdx.mp due
    exact ⟨(congrArg Finding.status he).symm, (congrArg Finding.projectId he).symm⟩
  rows := rows_syncFindings t results projectId clock
  complete := by
    intro r hr hs
    exact (hasLive_syncFindings results r.testId).mpr (.inr (mem_failedTests.mpr ⟨r, hr, hs, rfl⟩))
  again := by
    intro clock'
    refine (created_eq_nil_iff clock').mpr fun r hr hs => ?_
    exact (hasLive_syncFindings results r.testId).mpr (.inr (mem_failedTests.mpr ⟨r, hr, hs, rfl⟩))

end Exact

section Kept

variable {t t' t'' : Table Finding}

theorem KeptFindings.refl (t : Table Finding) : KeptFindings t t := fun f hf => ⟨f, hf, rfl⟩

theorem KeptFindings.trans (h : KeptFindings t t') (h' : KeptFindings t' t'') :
    KeptFindings t t'' := by
  intro f hf
  obtain ⟨f₁, hf₁, he₁⟩ := h f hf
  obtain ⟨f₂, hf₂, he₂⟩ := h' f₁ hf₁
  refine ⟨f₂, hf₂, ?_⟩
  rw [he₁] at he₂
  exact he₂

/-- A sync keeps every finding as it is. -/
theorem keptFindings_syncFindings (results : List TestResult) (projectId : Option Int)
    (clock : Nat → Time) : KeptFindings t (syncFindings t results projectId clock).2 := by
  intro f hf
  rw [rows_syncFindings]
  exact ⟨f, List.mem_append_left _ hf, rfl⟩

/-- A status update changes its finding's status, and when it was updated. -/
theorem keptFindings_modify {f : Finding} (hf : f ∈ t.rows) (status : FindingStatus) (now : Time) :
    KeptFindings t (t.modify f.id (·.patched status now)) := by
  intro g hg
  by_cases hk : g.id = f.id
  · obtain rfl := Table.eq_of_key hg hf hk
    refine ⟨g.patched status now, (mem_modify_patched hg).mpr (.inr rfl), ?_⟩
    unfold Finding.patched
    split
    · rfl
    · rfl
  · exact ⟨g, (mem_modify_patched hf).mpr (.inl ⟨hg, hk⟩), rfl⟩

theorem keptFindings_step {w w' : World} {a : Config × Tick × Happening}
    (hs : ConfiguredStep w a w') : KeptFindings w.db.findings w'.db.findings := by
  obtain ⟨cfg, tick, happening⟩ := a
  rcases step_cases hs with ⟨r, rfl, hw⟩ | ⟨-, _, he⟩
  · rw [hw]
    rcases findings_handle cfg tick w r with
      h | ⟨results, projectId, h⟩ | ⟨finding, status, updates⟩
    · rw [h]
      exact .refl _
    · rw [h]
      exact keptFindings_syncFindings results projectId tick.findingTime
    · obtain ⟨hm, h⟩ := updates.findings
      rw [h]
      exact keptFindings_modify hm status tick.now
  · rw [he]
    exact .refl _

/-- A run of the process deletes no finding, and changes no more of one than its status. -/
theorem keptFindings_run {w w' : World} {as : List (Config × Tick × Happening)}
    (h : Run ConfiguredStep w as w') : KeptFindings w.db.findings w'.db.findings :=
  h.relates (R := fun w w' : World => KeptFindings w.db.findings w'.db.findings)
    (fun _ => .refl _) (fun _ _ _ h₁ h₂ => h₁.trans h₂) fun _ _ _ hs => keptFindings_step hs

end Kept

/-- **Findings.**  A sync opens exactly the right ones, whatever the table and the results; over
every run of the process a finding stays, and only its status and when it was updated change. -/
theorem sync_and_runs :
    (∀ t results projectId clock, SyncsExactly t results projectId clock) ∧
      ∀ w as w', Run ConfiguredStep w as w' → KeptFindings w.db.findings w'.db.findings :=
  ⟨syncsExactly, fun _ _ _ h => keptFindings_run h⟩

end SentinelAI
