import SentinelAI.Proxy.Regression
import SentinelAI.Support.Dict

/-!
# Properties — Comparison

What the comparison of two runs says of a test.  The rows of a run are collapsed under their tests
before anything is compared, so that a test has one row in each run: the last one.

* `mem_tests`: the bucket of a test is a function of its statuses in the two runs.
* `compareRuns_classifies`: runs without a repeated test are classified, every test exactly once.
* `masksNoFailure_iff`: with repeated tests the outcome depends on the order of the rows, unless the
  rows of a test agree in what the comparison reads.
-/

namespace SentinelAI
open Support

/-! ### The entry of a test -/

/-- The row that stands for a test in a run. -/
abbrev rowAt (rows : List Snapshot) (id : Str) : Option Snapshot := lastRow (·.testId) rows id

/-- The status of a test in a run. -/
def statusAt (rows : List Snapshot) (id : Str) : Option TestStatus := (rowAt rows id).map (·.status)

/-- The entry of a test that has the row `curr` in the current run and `old` in the baseline's. -/
def entryOf (old : Option Snapshot) (curr : Snapshot) : DiffEntry :=
  ⟨curr.testId, curr.category, old.map (·.status), curr.status, old.map (·.severity), curr.severity⟩

/-- The entries of a comparison, as the loop makes them. -/
def entries (base curr : List Snapshot) : List DiffEntry :=
  (byTestId curr).map (diffEntry (byTestId base))

section Entries

variable {base curr : List Snapshot} {id : Str}

theorem diffEntry_byTestId (c : Snapshot) :
    diffEntry (byTestId base) c = entryOf (rowAt base c.testId) c := by
  have h : (byTestId base).find? (·.testId == c.testId) = rowAt base c.testId := find?_dictRows
  rw [diffEntry, h, entryOf]

/-- The entries are those of the tests of the current run. -/
theorem mem_entries {e : DiffEntry} : e ∈ entries base curr ↔
    ∃ c, rowAt curr e.testId = some c ∧ e = entryOf (rowAt base e.testId) c := by
  rw [entries, List.mem_map]
  constructor
  · rintro ⟨c, hc, rfl⟩
    rw [diffEntry_byTestId]
    exact ⟨c, mem_dictRows.mp hc, rfl⟩
  · rintro ⟨c, hc, he⟩
    have hk : c.testId = e.testId := lastRow_key hc
    refine ⟨c, mem_dictRows.mpr (hk ▸ hc), ?_⟩
    rw [diffEntry_byTestId, hk, ← he]

theorem entries_testIds : (entries base curr).map (·.testId) = (byTestId curr).map (·.testId) := by
  rw [entries, List.map_map]
  rfl

theorem nodup_entries_testIds : ((entries base curr).map (·.testId)).Nodup := by
  rw [entries_testIds]
  exact nodup_dictRows_keys

/-- The tests whose entries a part of the loop keeps. -/
theorem mem_filter_entries {keep : DiffEntry → Bool} :
    id ∈ ((entries base curr).filter keep).map (·.testId) ↔
      ∃ c, rowAt curr id = some c ∧ keep (entryOf (rowAt base id) c) = true := by
  rw [List.mem_map]
  constructor
  · rintro ⟨e, he, rfl⟩
    obtain ⟨he, hq⟩ := List.mem_filter.mp he
    obtain ⟨c, hc, hec⟩ := mem_entries.mp he
    exact ⟨c, hc, hec ▸ hq⟩
  · rintro ⟨c, hc, hq⟩
    have hk : c.testId = id := lastRow_key hc
    refine ⟨entryOf (rowAt base id) c, List.mem_filter.mpr ⟨mem_entries.mpr ⟨c, ?_, ?_⟩, hq⟩, hk⟩
    · change rowAt curr c.testId = some c
      rw [hk, hc]
    · change entryOf (rowAt base id) c = entryOf (rowAt base c.testId) c
      rw [hk]

end Entries

/-! ### The buckets -/

/-- Where a comparison puts a test. -/
inductive Bucket where
  | regressions
  | fixed
  | unchanged
  | otherChanges
  | addedTests
  | removedTests
deriving DecidableEq

/-- The tests in a bucket. -/
def RunDiff.tests (d : RunDiff) : Bucket → List Str
  | .regressions => d.regressions.map (·.testId)
  | .fixed => d.fixed.map (·.testId)
  | .unchanged => d.unchanged.map (·.testId)
  | .otherChanges => d.otherChanges.map (·.testId)
  | .addedTests => d.addedTests
  | .removedTests => d.removedTests

/-- The bucket of a test that has these statuses in the two runs. -/
def bucketOf : Option TestStatus → Option TestStatus → Option Bucket
  | none, none => none
  | none, some _ => some .addedTests
  | some _, none => some .removedTests
  | some old, some new =>
      if old = new then some .unchanged
      else if old = .PASS ∧ new = .FAIL then some .regressions
      else if old = .FAIL ∧ new = .PASS then some .fixed
      else some .otherChanges

/-- What a bucket says of a test that has the statuses `old` in the baseline's run and `new` in the
current one. -/
def Bucket.Means (old new : TestStatus → Prop) : Bucket → Prop
  | .regressions => old .PASS ∧ new .FAIL
  | .fixed => old .FAIL ∧ new .PASS
  | .unchanged => ∃ s, old s ∧ new s
  | .otherChanges => ∃ s t, old s ∧ new t ∧ s ≠ t ∧ ¬(s = .PASS ∧ t = .FAIL) ∧
      ¬(s = .FAIL ∧ t = .PASS)
  | .addedTests => (∃ t, new t) ∧ ∀ s, ¬old s
  | .removedTests => (∃ s, old s) ∧ ∀ t, ¬new t

theorem bucketOf_eq_some_iff {old new : Option TestStatus} {k : Bucket} :
    bucketOf old new = some k ↔ k.Means (old = some ·) (new = some ·) := by
  cases old with
  | none => cases new <;> cases k <;> simp [bucketOf, Bucket.Means]
  | some s =>
      cases new with
      | none => cases k <;> simp [bucketOf, Bucket.Means]
      | some t => cases s <;> cases t <;> cases k <;> simp [bucketOf, Bucket.Means]

section Buckets

variable {base curr : List Snapshot} {id : Str}

theorem statusAt_ne_none_iff : statusAt curr id ≠ none ↔ id ∈ (byTestId curr).map (·.testId) := by
  have h : id ∈ (byTestId curr).map (·.testId) ↔ id ∈ curr.map (·.testId) := mem_dictRows_keys
  rw [h, statusAt, ne_eq, Option.map_eq_none_iff, lastRow_eq_none_iff, not_not]

/-- The statuses of the entry belong in the bucket. -/
def DiffEntry.isIn (k : Bucket) (e : DiffEntry) : Bool :=
  bucketOf e.baselineStatus (some e.currentStatus) == some k

theorem regressions_eq :
    (compareRuns base curr).regressions = (entries base curr).filter (·.isIn .regressions) := by
  change (((entries base curr).filter _).filter _).filter _ = _
  rw [List.filter_filter, List.filter_filter]
  refine List.filter_congr fun e _ => ?_
  obtain ⟨_, _, _ | o, n, _, _⟩ := e
  · cases n <;> rfl
  · cases o <;> cases n <;> rfl

theorem fixed_eq : (compareRuns base curr).fixed = (entries base curr).filter (·.isIn .fixed) := by
  change (((entries base curr).filter _).filter _).filter _ = _
  rw [List.filter_filter, List.filter_filter]
  refine List.filter_congr fun e _ => ?_
  obtain ⟨_, _, _ | o, n, _, _⟩ := e
  · cases n <;> rfl
  · cases o <;> cases n <;> rfl

theorem unchanged_eq :
    (compareRuns base curr).unchanged = (entries base curr).filter (·.isIn .unchanged) := by
  change ((entries base curr).filter _).filter _ = _
  rw [List.filter_filter]
  refine List.filter_congr fun e _ => ?_
  obtain ⟨_, _, _ | o, n, _, _⟩ := e
  · cases n <;> rfl
  · cases o <;> cases n <;> rfl

theorem otherChanges_eq :
    (compareRuns base curr).otherChanges = (entries base curr).filter (·.isIn .otherChanges) := by
  change (((entries base curr).filter _).filter _).filter _ = _
  rw [List.filter_filter, List.filter_filter]
  refine List.filter_congr fun e _ => ?_
  obtain ⟨_, _, _ | o, n, _, _⟩ := e
  · cases n <;> rfl
  · cases o <;> cases n <;> rfl

/-- The tests whose entries have the statuses of a bucket of common tests are those in it. -/
theorem mem_filter_isIn {k : Bucket} (hk : k ≠ .removedTests) :
    id ∈ ((entries base curr).filter (·.isIn k)).map (·.testId) ↔
      bucketOf (statusAt base id) (statusAt curr id) = some k := by
  rw [mem_filter_entries, statusAt, statusAt]
  cases rowAt curr id with
  | none =>
      constructor
      · rintro ⟨c, hc, -⟩
        cases hc
      · intro he
        cases hb : rowAt base id with
        | none => rw [hb] at he; cases he
        | some b => rw [hb] at he; exact absurd (Option.some.inj he).symm hk
  | some c =>
      constructor
      · rintro ⟨c', hc', hq⟩
        cases hc'
        exact eq_of_beq hq
      · exact fun hq => ⟨c, rfl, beq_iff_eq.mpr hq⟩

/-- **The bucket of a test** is a function of its statuses in the two runs. -/
theorem mem_tests {k : Bucket} : id ∈ (compareRuns base curr).tests k ↔
    bucketOf (statusAt base id) (statusAt curr id) = some k := by
  cases k with
  | regressions =>
      rw [RunDiff.tests, regressions_eq]
      exact mem_filter_isIn nofun
  | fixed =>
      rw [RunDiff.tests, fixed_eq]
      exact mem_filter_isIn nofun
  | unchanged =>
      rw [RunDiff.tests, unchanged_eq]
      exact mem_filter_isIn nofun
  | otherChanges =>
      rw [RunDiff.tests, otherChanges_eq]
      exact mem_filter_isIn nofun
  | addedTests =>
      change id ∈ sortedSet _ ↔ _
      rw [mem_sortedSet, List.mem_filter, decide_eq_true_iff, ← statusAt_ne_none_iff,
        ← statusAt_ne_none_iff, bucketOf_eq_some_iff]
      exact and_congr Option.ne_none_iff_exists' (not_not.trans Option.eq_none_iff_forall_ne_some)
  | removedTests =>
      change id ∈ sortedSet _ ↔ _
      rw [mem_sortedSet, List.mem_filter, decide_eq_true_iff, ← statusAt_ne_none_iff,
        ← statusAt_ne_none_iff, bucketOf_eq_some_iff]
      exact and_congr Option.ne_none_iff_exists' (not_not.trans Option.eq_none_iff_forall_ne_some)

end Buckets

/-! ### Runs without a repeated test -/

/-- The test has the status in the run. -/
def HasStatus (rows : List Snapshot) (id : Str) (s : TestStatus) : Prop :=
  ∃ r ∈ rows, r.testId = id ∧ r.status = s

/-- The providers and models of a run. -/
def configs (rows : List Snapshot) : Set (Str × Str) := {p | ∃ r ∈ rows, (r.provider, r.model) = p}

/-- The lists of entries that a comparison singles out. -/
def RunDiff.parts (d : RunDiff) : List (List DiffEntry) :=
  [d.regressions, d.fixed, d.unchanged, d.otherChanges, d.newFailures, d.severityChanges]

/-- The entry says of its test what the two runs do. -/
structure DiffEntry.IsTrue (base curr : List Snapshot) (e : DiffEntry) : Prop where
  current : ∃ c ∈ curr, c.testId = e.testId ∧ c.category = e.category ∧
    c.status = e.currentStatus ∧ c.severity = e.currentSeverity
  baseline_status : ∀ s, e.baselineStatus = some s ↔ HasStatus base e.testId s
  baseline_severity : ∀ s, e.baselineSeverity = some s ↔
    ∃ b ∈ base, b.testId = e.testId ∧ b.severity = s

/-- The comparison classifies the tests of the two runs. -/
structure RunDiff.Classifies (base curr : List Snapshot) (d : RunDiff) : Prop where
  exactly_one : ∀ id, (∃ r ∈ base ++ curr, r.testId = id) ↔ ∃! k, id ∈ d.tests k
  means : ∀ k id, id ∈ d.tests k ↔ k.Means (HasStatus base id) (HasStatus curr id)
  once : ∀ k, (d.tests k).Nodup
  new_failures : ∀ id, id ∈ d.newFailures.map (·.testId) ↔
    id ∈ d.addedTests ∧ HasStatus curr id .FAIL
  severity_changes : ∀ id, id ∈ d.severityChanges.map (·.testId) ↔
    ∃ b ∈ base, ∃ c ∈ curr, b.testId = id ∧ c.testId = id ∧ b.severity ≠ c.severity
  parts_once : ∀ l ∈ d.parts, (l.map (·.testId)).Nodup
  per_test : (d.perTest.map (·.testId)).Perm (curr.map (·.testId))
  per_test_sorted : d.perTest.Pairwise fun e f => e.testId ≤ f.testId
  per_test_true : ∀ e ∈ d.perTest, e.IsTrue base curr
  parts_true : ∀ l ∈ d.parts, ∀ e ∈ l, e.IsTrue base curr
  config_changed : (("provider_config_changed" : String).toList, Json.bool true) ∈ d.toDict ↔
    configs base ≠ configs curr

section Classifies

variable {base curr : List Snapshot}

/-- What is looked up of a test in a run without repeated tests is there. -/
theorem rowAt_map_eq_some_iff {rows : List Snapshot} (h : (rows.map (·.testId)).Nodup) {id : Str}
    {β : Type} {f : Snapshot → β} {x : β} :
    (rowAt rows id).map f = some x ↔ ∃ r ∈ rows, r.testId = id ∧ f r = x := by
  rw [Option.map_eq_some_iff]
  constructor
  · rintro ⟨r, hr, hx⟩
    obtain ⟨hr, hk⟩ := (lastRow_of_nodup h).mp hr
    exact ⟨r, hr, hk, hx⟩
  · rintro ⟨r, hr, hk, hx⟩
    exact ⟨r, (lastRow_of_nodup h).mpr ⟨hr, hk⟩, hx⟩

theorem hasStatus_eq {rows : List Snapshot} (h : (rows.map (·.testId)).Nodup) (id : Str) :
    HasStatus rows id = (statusAt rows id = some ·) :=
  funext fun _ => propext (rowAt_map_eq_some_iff h).symm

theorem exists_iff_statusAt {rows : List Snapshot} {id : Str} :
    (∃ r ∈ rows, r.testId = id) ↔ statusAt rows id ≠ none := by
  rw [statusAt_ne_none_iff, ← List.mem_map]
  exact mem_dictRows_keys.symm

theorem exists_unique_bucket {old new : Option TestStatus} :
    (old ≠ none ∨ new ≠ none) ↔ ∃! k, bucketOf old new = some k := by
  have defined : (old ≠ none ∨ new ≠ none) ↔ bucketOf old new ≠ none := by
    cases old with
    | none => cases new <;> simp [bucketOf]
    | some s =>
        cases new with
        | none => simp [bucketOf]
        | some t => cases s <;> cases t <;> simp [bucketOf]
  rw [defined]
  constructor
  · intro h
    obtain ⟨k, hk⟩ := Option.ne_none_iff_exists'.mp h
    exact ⟨k, hk, fun k' hk' => Option.some.inj (hk'.symm.trans hk)⟩
  · rintro ⟨k, hk, -⟩
    rw [hk]
    nofun

/-- The lists of a comparison are parts of its entries, in their order. -/
theorem parts_sublist {l : List DiffEntry} (h : l ∈ (compareRuns base curr).parts) :
    l.Sublist (entries base curr) := by
  have changed (p q r : DiffEntry → Bool) :
      ((((entries base curr).filter p).filter q).filter r).Sublist (entries base curr) :=
    List.filter_sublist.trans (List.filter_sublist.trans List.filter_sublist)
  simp only [RunDiff.parts, List.mem_cons, List.not_mem_nil, or_false] at h
  rcases h with rfl | rfl | rfl | rfl | rfl | rfl
  · exact changed ..
  · exact changed ..
  · exact List.filter_sublist.trans List.filter_sublist
  · exact changed ..
  · exact List.filter_sublist
  · exact List.filter_sublist.trans List.filter_sublist

variable (base curr) in
theorem nodup_part {l : List DiffEntry} (h : l ∈ (compareRuns base curr).parts) :
    (l.map (·.testId)).Nodup :=
  nodup_entries_testIds.sublist ((parts_sublist h).map _)

theorem nodup_tests (k : Bucket) : ((compareRuns base curr).tests k).Nodup := by
  have sorted (l : List Str) : (sortedSet l).Nodup :=
    (List.perm_insertionSort _ _).nodup_iff.mpr (List.nodup_dedup l)
  cases k with
  | regressions => exact nodup_part base curr (by simp [RunDiff.parts])
  | fixed => exact nodup_part base curr (by simp [RunDiff.parts])
  | unchanged => exact nodup_part base curr (by simp [RunDiff.parts])
  | otherChanges => exact nodup_part base curr (by simp [RunDiff.parts])
  | addedTests => exact sorted _
  | removedTests => exact sorted _

theorem isTrue_of_mem_entries (hb : (base.map (·.testId)).Nodup) {e : DiffEntry}
    (he : e ∈ entries base curr) : e.IsTrue base curr := by
  obtain ⟨c, hc, hec⟩ := mem_entries.mp he
  rw [hec] at he ⊢
  have hk : c.testId = e.testId := lastRow_key hc
  refine ⟨⟨c, lastRow_mem hc, rfl, rfl, rfl, rfl⟩, fun s => ?_, fun s => ?_⟩
  · exact (rowAt_map_eq_some_iff hb).trans (by rw [HasStatus, ← hk]; rfl)
  · exact (rowAt_map_eq_some_iff hb).trans (by rw [← hk]; rfl)

theorem mem_newFailures {id : Str} : id ∈ (compareRuns base curr).newFailures.map (·.testId) ↔
    statusAt base id = none ∧ statusAt curr id = some .FAIL := by
  change id ∈ ((entries base curr).filter _).map _ ↔ _
  rw [mem_filter_entries, statusAt, statusAt, Option.map_eq_none_iff, Option.map_eq_some_iff]
  cases rowAt base id <;> simp [entryOf]

theorem mem_severityChanges {id : Str} :
    id ∈ (compareRuns base curr).severityChanges.map (·.testId) ↔
      ∃ b c, rowAt base id = some b ∧ rowAt curr id = some c ∧ b.severity ≠ c.severity := by
  change id ∈ (((entries base curr).filter _).filter _).map _ ↔ _
  rw [List.filter_filter, mem_filter_entries]
  cases rowAt base id <;> simp [entryOf]

instance : Std.Total fun a b : Str × Str => a.1 < b.1 ∨ (a.1 = b.1 ∧ a.2 ≤ b.2) where
  total a b := by
    rcases lt_trichotomy a.1 b.1 with h | h | h
    · exact .inl (.inl h)
    · exact (le_total a.2 b.2).imp (fun h' => .inr ⟨h, h'⟩) fun h' => .inr ⟨h.symm, h'⟩
    · exact .inr (.inl h)

instance : IsTrans (Str × Str) fun a b => a.1 < b.1 ∨ (a.1 = b.1 ∧ a.2 ≤ b.2) where
  trans a b c := by
    rintro (h | ⟨h, h'⟩) (k | ⟨k, k'⟩)
    · exact .inl (h.trans k)
    · exact .inl (k ▸ h)
    · exact .inl (h ▸ k)
    · exact .inr ⟨h.trans k, h'.trans k'⟩

instance : Std.Antisymm fun a b : Str × Str => a.1 < b.1 ∨ (a.1 = b.1 ∧ a.2 ≤ b.2) where
  antisymm a b := by
    rintro (h | ⟨h, h'⟩) (k | ⟨k, k'⟩)
    · exact absurd k h.not_gt
    · exact absurd k.symm h.ne
    · exact absurd h.symm k.ne
    · exact Prod.ext h (le_antisymm h' k')

/-- The configuration of the provider changed when the runs differ in their providers and models. -/
theorem config_changed_iff : (("provider_config_changed" : String).toList, Json.bool true) ∈
    (compareRuns base curr).toDict ↔ configs base ≠ configs curr := by
  have hd : (("provider_config_changed" : String).toList, Json.bool true) ∈
      (compareRuns base curr).toDict ↔ sortedPairs (base.map fun r => (r.provider, r.model)) ≠
        sortedPairs (curr.map fun r => (r.provider, r.model)) := by
    simp [RunDiff.toDict, compareRuns]
  have hs (rows : List Snapshot) (p : Str × Str) :
      p ∈ rows.map (fun r => (r.provider, r.model)) ↔ p ∈ configs rows := List.mem_map
  rw [hd, ne_eq, ne_eq, sortedPairs, sortedPairs, insertionSort_dedup_inj, Set.ext_iff]
  exact not_congr (forall_congr' fun p => iff_congr (hs base p) (hs curr p))

/-- **A comparison classifies every test exactly once**, in runs without a repeated test. -/
theorem compareRuns_classifies (hb : (base.map (·.testId)).Nodup)
    (hc : (curr.map (·.testId)).Nodup) : (compareRuns base curr).Classifies base curr where
  exactly_one id := by
    simp only [mem_tests, ← exists_unique_bucket, ← exists_iff_statusAt, List.mem_append,
      or_and_right, exists_or]
  means k id := by
    rw [mem_tests, bucketOf_eq_some_iff, hasStatus_eq hb, hasStatus_eq hc]
  once := nodup_tests
  new_failures id := by
    have added : id ∈ (compareRuns base curr).addedTests ↔ _ := mem_tests (k := .addedTests)
    rw [mem_newFailures, added, bucketOf_eq_some_iff, hasStatus_eq hc]
    constructor
    · rintro ⟨ho, hn⟩
      exact ⟨⟨⟨_, hn⟩, Option.eq_none_iff_forall_ne_some.mp ho⟩, hn⟩
    · rintro ⟨⟨-, ho⟩, hn⟩
      exact ⟨Option.eq_none_iff_forall_ne_some.mpr ho, hn⟩
  severity_changes id := by
    rw [mem_severityChanges]
    constructor
    · rintro ⟨b, c, hb', hc', hne⟩
      exact ⟨b, lastRow_mem hb', c, lastRow_mem hc', lastRow_key hb', lastRow_key hc', hne⟩
    · rintro ⟨b, hb', c, hc', hbk, hck, hne⟩
      exact ⟨b, c, (lastRow_of_nodup hb).mpr ⟨hb', hbk⟩, (lastRow_of_nodup hc).mpr ⟨hc', hck⟩, hne⟩
  parts_once l h := nodup_part base curr h
  per_test := by
    have keys : (byTestId curr).map (·.testId) = curr.map (·.testId) :=
      dictRows_map_key.trans (eraseDups_of_nodup hc)
    have ids : (entries base curr).map (·.testId) = _ := entries_testIds
    rw [← keys, ← ids]
    exact (List.perm_insertionSort _ _).map _
  per_test_sorted :=
    have : Std.Total fun e f : DiffEntry => e.testId ≤ f.testId := ⟨fun e f => le_total _ _⟩
    have : IsTrans DiffEntry fun e f => e.testId ≤ f.testId := ⟨fun _ _ _ => le_trans⟩
    List.pairwise_insertionSort _ _
  per_test_true e he := isTrue_of_mem_entries hb ((List.perm_insertionSort _ _).mem_iff.mp he)
  parts_true l hl e he := isTrue_of_mem_entries hb ((parts_sublist hl).subset he)
  config_changed := config_changed_iff

/-- The row of a test that came out with a status. -/
def sampleRow (testId : Str) (status : TestStatus) : Snapshot :=
  ⟨testId, "prompt_injection".toList, .high, status, "groq".toList, "llama-3.1-8b".toList⟩

theorem compareRuns_classifies_regression :
    (compareRuns [sampleRow ['a'] .PASS, sampleRow ['b'] .FAIL]
      [sampleRow ['c'] .FAIL, sampleRow ['a'] .FAIL]).Classifies
      [sampleRow ['a'] .PASS, sampleRow ['b'] .FAIL]
      [sampleRow ['c'] .FAIL, sampleRow ['a'] .FAIL] :=
  compareRuns_classifies (by decide) (by decide)

end Classifies

/-! ### Repeated tests -/

/-- The entry is one of a test that both runs have, or of a failure. -/
def DiffEntry.Counts (e : DiffEntry) : Prop := e.baselineStatus ≠ none ∨ e.currentStatus = .FAIL

/-- The comparisons single out the same entries, in whatever order. -/
structure RunDiff.Same (d d' : RunDiff) : Prop where
  regressions : d.regressions.Perm d'.regressions
  new_failures : d.newFailures.Perm d'.newFailures
  fixed : d.fixed.Perm d'.fixed
  unchanged : d.unchanged.Perm d'.unchanged
  other_changes : d.otherChanges.Perm d'.otherChanges

/-- Neither the number nor the order of the rows of a test masks its failure. -/
structure MasksNoFailure (base curr : List Snapshot) : Prop where
  order : ∀ base' curr' : List Snapshot, base'.Perm base → curr'.Perm curr →
    (compareRuns base' curr').Same (compareRuns base curr)
  failures : ∀ r ∈ curr, r.status = .FAIL →
    ∃ e ∈ (compareRuns base curr).perTest, e.testId = r.testId ∧ e.currentStatus = .FAIL

/-- The rows of a test agree in what the comparison reads of them. -/
structure RowsAgree (base curr : List Snapshot) : Prop where
  current : ∀ c ∈ curr, ∀ c' ∈ curr, c'.testId = c.testId → c.testId ∈ base.map (·.testId) →
    c'.category = c.category ∧ c'.severity = c.severity ∧ c'.status = c.status
  baseline : ∀ b ∈ base, ∀ b' ∈ base, b'.testId = b.testId → b.testId ∈ curr.map (·.testId) →
    b'.severity = b.severity ∧ b'.status = b.status
  added : ∀ c ∈ curr, ∀ c' ∈ curr, c'.testId = c.testId → c.testId ∉ base.map (·.testId) →
    c.status = .FAIL → c'.category = c.category ∧ c'.severity = c.severity ∧ c'.status = c.status

section Repeated

variable {base base' curr curr' : List Snapshot}

theorem newFailures_eq : (compareRuns base curr).newFailures = (entries base curr).filter
    fun e => e.baselineStatus.isNone && e.currentStatus == .FAIL := rfl

/-- What two comparisons single out alike, they have alike. -/
theorem mem_entries_of_same (h : (compareRuns base' curr').Same (compareRuns base curr))
    {e : DiffEntry} (he : e.Counts) : e ∈ entries base' curr' ↔ e ∈ entries base curr := by
  have through {keep : DiffEntry → Bool} (hq : keep e = true)
      (hp : ((entries base' curr').filter keep).Perm ((entries base curr).filter keep)) :
      e ∈ entries base' curr' ↔ e ∈ entries base curr := by
    have := hp.mem_iff (a := e)
    rwa [List.mem_filter, List.mem_filter, and_iff_left hq, and_iff_left hq] at this
  cases ho : e.baselineStatus with
  | none =>
      have hf := he.resolve_left (not_not.mpr ho)
      exact through (by rw [ho, hf]; rfl) h.new_failures
  | some o =>
      obtain ⟨k, hk, -⟩ := exists_unique_bucket.mp (.inl (Option.some_ne_none o))
      have hq : e.isIn k = true := by
        rw [DiffEntry.isIn, ho]
        exact beq_iff_eq.mpr hk
      have means := bucketOf_eq_some_iff.mp hk
      cases k with
      | regressions => exact through hq (regressions_eq ▸ regressions_eq ▸ h.regressions)
      | fixed => exact through hq (fixed_eq ▸ fixed_eq ▸ h.fixed)
      | unchanged => exact through hq (unchanged_eq ▸ unchanged_eq ▸ h.unchanged)
      | otherChanges => exact through hq (otherChanges_eq ▸ otherChanges_eq ▸ h.other_changes)
      | addedTests => exact absurd rfl (means.2 o)
      | removedTests => exact absurd rfl (means.2 e.currentStatus)

section SameEntries
variable (h : ∀ e : DiffEntry, e.Counts → (e ∈ entries base' curr' ↔ e ∈ entries base curr))
include h

theorem perm_filter_entries {keep : DiffEntry → Bool} (hq : ∀ e, keep e = true → e.Counts) :
    ((entries base' curr').filter keep).Perm ((entries base curr).filter keep) := by
  refine (List.perm_ext_iff_of_nodup ?_ ?_).mpr fun e => ?_
  · exact nodup_entries_testIds.of_map.filter _
  · exact nodup_entries_testIds.of_map.filter _
  · rw [List.mem_filter, List.mem_filter]
    exact and_congr_left fun hk => h e (hq e hk)

theorem perm_bucket {k : Bucket} (hk : k ≠ .addedTests) :
    ((entries base' curr').filter (·.isIn k)).Perm ((entries base curr).filter (·.isIn k)) := by
  refine perm_filter_entries h fun e he => .inl fun hn => hk ?_
  rw [DiffEntry.isIn, hn] at he
  exact (Option.some.inj (eq_of_beq he)).symm

theorem same_of_entries : (compareRuns base' curr').Same (compareRuns base curr) := by
  refine ⟨?_, ?_, ?_, ?_, ?_⟩
  · rw [regressions_eq, regressions_eq]
    exact perm_bucket h nofun
  · rw [newFailures_eq, newFailures_eq]
    exact perm_filter_entries h fun e he => .inr (eq_of_beq (Bool.and_eq_true_iff.mp he).2)
  · rw [fixed_eq, fixed_eq]
    exact perm_bucket h nofun
  · rw [unchanged_eq, unchanged_eq]
    exact perm_bucket h nofun
  · rw [otherChanges_eq, otherChanges_eq]
    exact perm_bucket h nofun

end SameEntries

/-- The comparisons single out the same entries when they have the same ones that count. -/
theorem same_iff : (compareRuns base' curr').Same (compareRuns base curr) ↔
    ∀ e : DiffEntry, e.Counts → (e ∈ entries base' curr' ↔ e ∈ entries base curr) :=
  ⟨fun h _ he => mem_entries_of_same h he, same_of_entries⟩

/-- The entry of a test, from its rows. -/
theorem entryOf_mem_entries {id : Str} {c : Snapshot} (hc : rowAt curr id = some c) :
    entryOf (rowAt base id) c ∈ entries base curr := by
  have hk : c.testId = id := lastRow_key hc
  exact mem_entries.mpr ⟨c, hk ▸ hc, by rw [← hk]; rfl⟩

/-- A test has one entry. -/
theorem entry_unique {id : Str} {c : Snapshot} {e : DiffEntry} (hc : rowAt curr id = some c)
    (he : e ∈ entries base curr) (hk : e.testId = id) : e = entryOf (rowAt base id) c := by
  obtain ⟨c', hc', he⟩ := mem_entries.mp he
  rw [hk] at hc' he
  cases hc.symm.trans hc'
  exact he

/-- Where the order of the rows does not matter, an entry that counts is the same in any order. -/
theorem entry_eq_of_order (h : ∀ base' curr' : List Snapshot, base'.Perm base → curr'.Perm curr →
      (compareRuns base' curr').Same (compareRuns base curr))
    {base₁ base₂ curr₁ curr₂ : List Snapshot} (hb₁ : base₁.Perm base) (hb₂ : base₂.Perm base)
    (hc₁ : curr₁.Perm curr) (hc₂ : curr₂.Perm curr) {id : Str} {c c' : Snapshot}
    (h₁ : rowAt curr₁ id = some c) (h₂ : rowAt curr₂ id = some c')
    (counts : (entryOf (rowAt base₁ id) c).Counts) :
    entryOf (rowAt base₁ id) c = entryOf (rowAt base₂ id) c' := by
  have mem := (same_iff.mp (h _ _ hb₁ hc₁) _ counts).mp (entryOf_mem_entries h₁)
  have hk : c.testId = id := lastRow_key h₁
  exact entry_unique h₂ ((same_iff.mp (h _ _ hb₂ hc₂) _ counts).mpr mem) hk

/-- Any row of a test can stand for it. -/
theorem exists_perm_rowAt {rows : List Snapshot} {r : Snapshot} (h : r ∈ rows) :
    ∃ rows' : List Snapshot, rows'.Perm rows ∧ rowAt rows' r.testId = some r :=
  exists_perm_lastRow h

theorem exists_rowAt {rows : List Snapshot} {id : Str} (h : id ∈ rows.map (·.testId)) :
    ∃ r, rowAt rows id = some r :=
  exists_lastRow h

theorem rowsAgree_of_order (h : ∀ base' curr' : List Snapshot, base'.Perm base → curr'.Perm curr →
    (compareRuns base' curr').Same (compareRuns base curr)) : RowsAgree base curr where
  current c hc c' hc' hk hb := by
    obtain ⟨curr₁, p₁, h₁⟩ := exists_perm_rowAt hc
    obtain ⟨curr₂, p₂, h₂⟩ := exists_perm_rowAt hc'
    obtain ⟨b, hb⟩ := exists_rowAt hb
    have same := entry_eq_of_order h (.refl base) (.refl base) p₁ p₂ h₁ (hk ▸ h₂)
      (.inl (by rw [hb]; nofun))
    exact ⟨(congrArg DiffEntry.category same).symm, (congrArg DiffEntry.currentSeverity same).symm,
      (congrArg DiffEntry.currentStatus same).symm⟩
  baseline b hb b' hb' hk hc := by
    obtain ⟨base₁, p₁, h₁⟩ := exists_perm_rowAt hb
    obtain ⟨base₂, p₂, h₂⟩ := exists_perm_rowAt hb'
    obtain ⟨c, hc⟩ := exists_rowAt hc
    have same := entry_eq_of_order h p₁ p₂ (.refl curr) (.refl curr) hc hc
      (.inl (by rw [h₁]; nofun))
    rw [h₁, ← hk, h₂] at same
    exact ⟨(Option.some.inj (congrArg DiffEntry.baselineSeverity same)).symm,
      (Option.some.inj (congrArg DiffEntry.baselineStatus same)).symm⟩
  added c hc c' hc' hk hn hf := by
    obtain ⟨curr₁, p₁, h₁⟩ := exists_perm_rowAt hc
    obtain ⟨curr₂, p₂, h₂⟩ := exists_perm_rowAt hc'
    have same := entry_eq_of_order h (.refl base) (.refl base) p₁ p₂ h₁ (hk ▸ h₂) (.inr hf)
    exact ⟨(congrArg DiffEntry.category same).symm, (congrArg DiffEntry.currentSeverity same).symm,
      (congrArg DiffEntry.currentStatus same).symm⟩

theorem RowsAgree.perm (h : RowsAgree base curr) (hb : base'.Perm base) (hc : curr'.Perm curr) :
    RowsAgree base' curr' where
  current c m c' m' hk hm :=
    h.current c (hc.subset m) c' (hc.subset m') hk ((hb.map _).subset hm)
  baseline b m b' m' hk hm :=
    h.baseline b (hb.subset m) b' (hb.subset m') hk ((hc.map _).subset hm)
  added c m c' m' hk hm :=
    h.added c (hc.subset m) c' (hc.subset m') hk fun hm' => hm ((hb.symm.map _).subset hm')

/-- Where the rows of a test agree, the entries that count do not depend on the order. -/
theorem RowsAgree.mem_entries (h : RowsAgree base curr) (hb : base'.Perm base)
    (hc : curr'.Perm curr) {e : DiffEntry} (he : e ∈ entries base' curr') (counts : e.Counts) :
    e ∈ entries base curr := by
  obtain ⟨c', hc', hec⟩ := SentinelAI.mem_entries.mp he
  have hk' : c'.testId = e.testId := lastRow_key hc'
  have mem' : c' ∈ curr := hc.subset (lastRow_mem hc')
  obtain ⟨c, hcr⟩ := exists_rowAt (List.mem_map.mpr ⟨c', mem', hk'⟩)
  have hk : c.testId = e.testId := lastRow_key hcr
  refine SentinelAI.mem_entries.mpr ⟨c, hcr, ?_⟩
  cases hb' : rowAt base' e.testId with
  | some b' =>
      have hbk' : b'.testId = e.testId := lastRow_key hb'
      have memb' : b' ∈ base := hb.subset (lastRow_mem hb')
      obtain ⟨b, hbr⟩ := exists_rowAt (List.mem_map.mpr ⟨b', memb', hbk'⟩)
      have hbk : b.testId = e.testId := lastRow_key hbr
      obtain ⟨h₁, h₂, h₃⟩ := h.current c (lastRow_mem hcr) c' mem' (hk'.trans hk.symm)
        (List.mem_map.mpr ⟨b, lastRow_mem hbr, hbk.trans hk.symm⟩)
      obtain ⟨h₄, h₅⟩ := h.baseline b (lastRow_mem hbr) b' memb' (hbk'.trans hbk.symm)
        (List.mem_map.mpr ⟨c, lastRow_mem hcr, hk.trans hbk.symm⟩)
      rw [hb'] at hec
      rw [hbr]
      refine hec.trans ?_
      simp only [entryOf, Option.map_some, hk', hk, h₁, h₂, h₃, h₄, h₅]
  | none =>
      have hn' : e.testId ∉ base'.map (·.testId) := lastRow_eq_none_iff.mp hb'
      have hn : e.testId ∉ base.map (·.testId) := fun hm => hn' ((hb.symm.map _).subset hm)
      have hbr : rowAt base e.testId = none := lastRow_eq_none_iff.mpr hn
      rw [hb'] at hec
      -- a test that the baseline does not have counts for its failure
      have hf : c'.status = .FAIL := by
        rw [hec] at counts
        exact counts.resolve_left fun hne => hne rfl
      obtain ⟨h₁, h₂, h₃⟩ := h.added c' mem' c (lastRow_mem hcr) (hk.trans hk'.symm)
        (by rw [hk']; exact hn) hf
      rw [hbr]
      refine hec.trans ?_
      simp only [entryOf, Option.map_none, hk', hk, h₁, h₂, h₃]

/-- **When no failure is masked**: exactly when the rows of a test agree. -/
theorem masksNoFailure_iff : MasksNoFailure base curr ↔ RowsAgree base curr := by
  refine ⟨fun h => rowsAgree_of_order h.order, fun h => ⟨fun base' curr' hb hc => ?_, ?_⟩⟩
  · exact same_iff.mpr fun e counts => ⟨fun he => h.mem_entries hb hc he counts,
      fun he => (h.perm hb hc).mem_entries hb.symm hc.symm he counts⟩
  · intro r hr hf
    obtain ⟨c, hc⟩ := exists_rowAt (List.mem_map.mpr ⟨r, hr, rfl⟩)
    have hk : c.testId = r.testId := lastRow_key hc
    -- the row that stands for the test agrees with the one that failed
    have hs : c.status = .FAIL := by
      by_cases hb : r.testId ∈ base.map (·.testId)
      · exact (h.current r hr c (lastRow_mem hc) hk hb).2.2.trans hf
      · exact (h.added r hr c (lastRow_mem hc) hk hb hf).2.2.trans hf
    exact ⟨_, (List.perm_insertionSort _ _).mem_iff.mpr (entryOf_mem_entries hc), hk, hs⟩

/-- A run whose last row of a test passed hides the row that failed. -/
theorem not_masksNoFailure_repeated : ¬MasksNoFailure [sampleRow ['a'] .PASS]
    [sampleRow ['a'] .FAIL, sampleRow ['a'] .PASS] := by
  intro h
  obtain ⟨e, he, -, hs⟩ := h.failures _ List.mem_cons_self rfl
  have perTest : (compareRuns [sampleRow ['a'] .PASS]
      [sampleRow ['a'] .FAIL, sampleRow ['a'] .PASS]).perTest =
        [entryOf (some (sampleRow ['a'] .PASS)) (sampleRow ['a'] .PASS)] := rfl
  rw [perTest, List.mem_singleton] at he
  rw [he] at hs
  cases hs

end Repeated

end SentinelAI
