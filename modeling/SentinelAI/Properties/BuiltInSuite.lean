import SentinelAI.Properties.Baselines
import SentinelAI.Proxy.Plugins

/-!
# Properties — BuiltInSuite

A process that runs the tests the program comes with.  Each of them gives its guardrail an input in
ASCII, on which the guardrail says the same under every version of the Unicode database, whether
Presidio is installed or not.

* `checkInjection_ascii`, `checkPii_ascii`: what the guardrails say of an ASCII text.
* `status_allTests`: how each test comes out.
* `expectedResults_run`: a process with these tests opens no finding, in any run.
-/

namespace SentinelAI
open Support

/-! ### Guardrails on ASCII -/

section Ascii

variable {U : Ucd} {text : Str}

theorem agree_isWord : ∀ c, isAscii c = true → U.isWord c = Ucd.ascii.isWord c := by
  intro c hc
  rw [Ucd.isWord, Ucd.isWord, if_pos hc, if_pos hc]

theorem agree_isDigit : ∀ c, isAscii c = true → U.isDigit c = Ucd.ascii.isDigit c := by
  intro c hc
  rw [Ucd.isDigit, Ucd.isDigit, if_pos hc, if_pos hc]

/-- Each pattern agrees with the one of a database that knows no other characters. -/
theorem agree_ATTACK_PATTERNS : List.Forall₂ (fun p q => p.1 = q.1 ∧
    Re.Agree (isAscii · = true) p.2 q.2) (ATTACK_PATTERNS U) (ATTACK_PATTERNS .ascii) := by
  have same : ∀ p : Str × Re, p.1 = p.1 ∧ Re.Agree (isAscii · = true) p.2 p.2 :=
    fun p => ⟨rfl, .refl p.2⟩
  refine .cons (same _) (.cons (same _) (.cons (same _) (.cons ⟨rfl, ?_⟩ (.cons (same _)
    (.cons (same _) (.cons (same _) (.cons (same _) (.cons (same _) (.cons (same _) .nil)))))))))
  -- the one pattern with word boundaries
  exact ⟨⟨agree_isWord, .refl _, agree_isWord, trivial⟩, .refl _⟩

/-- **The injection detector on ASCII** does not depend on the Unicode database. -/
theorem checkInjection_ascii (h : text.all isAscii = true) :
    checkInjection U text = checkInjection .ascii text := by
  have matched : ∀ {l l' : List (Str × Re)}, List.Forall₂ (fun p q => p.1 = q.1 ∧
      Re.Agree (isAscii · = true) p.2 q.2) l l' →
      (l.filter fun p => p.2.search text).map (·.1) =
        (l'.filter fun p => p.2.search text).map (·.1) := by
    intro l l' hl
    induction hl with
    | nil => rfl
    | @cons p q l l' hp _ ih =>
        rw [List.filter_cons, List.filter_cons, Re.search_agree hp.2 (List.all_eq_true.mp h)]
        split
        · rw [List.map_cons, List.map_cons, hp.1, ih]
        · exact ih
  unfold checkInjection
  dsimp only
  rw [matched agree_ATTACK_PATTERNS]

theorem checkInjection_flagged_iff :
    (checkInjection U text).flagged = true ↔ (checkInjection U text).matchedPatterns ≠ [] := by
  unfold checkInjection
  simp

theorem PiiPattern.agree (p : PiiPattern) :
    Re.Agree (isAscii · = true) (p.re U) (p.re .ascii) := by
  have digit : Re.Agree (isAscii · = true) (PiiPattern.digit U) (PiiPattern.digit .ascii) :=
    agree_isDigit
  cases p with
  | email => exact .refl _
  | phone =>
      exact ⟨agree_isWord,
        ⟨⟨.refl _, ⟨digit.times 1, digit.upTo 2⟩, .refl _, trivial⟩, trivial⟩,
        .refl _, digit.times 3, .refl _, .refl _, digit.times 3, .refl _,
        digit.times 4, agree_isWord, trivial⟩
  | card =>
      have one : Re.Agree (isAscii · = true) (.seq (PiiPattern.digit U)
          (.star true (Re.oneOf " -"))) (.seq (PiiPattern.digit .ascii)
          (.star true (Re.oneOf " -"))) := ⟨digit, .refl _⟩
      exact ⟨agree_isWord, ⟨one.times 13, one.upTo 3⟩, agree_isWord, trivial⟩
  | api_key => exact ⟨agree_isWord, .refl _, .refl _, .refl _, agree_isWord, trivial⟩

/-- **The scanner on ASCII** finds what its patterns find without Presidio, and perhaps more. -/
theorem checkPii_ascii {analyzer : Analyzer} (h : text.all isAscii = true)
    (hf : (checkPii .ascii none text).found = true) : (checkPii U analyzer text).found = true := by
  obtain ⟨p, hp⟩ := checkPii_none_found_iff.mp hf
  rw [← Re.search_agree p.agree (List.all_eq_true.mp h)] at hp
  obtain ⟨m, hm⟩ := List.exists_mem_of_ne_nil _ ((Re.findAll_ne_nil_iff p.minLen_pos text).mpr hp)
  have found : ⟨m.1, m.2, upperAscii p.name⟩ ∈ detected U analyzer text :=
    mem_detected.mpr (.inl ⟨p, hm, rfl⟩)
  exact checkPii_found_iff.mpr (List.ne_nil_of_mem found)

end Ascii

/-! ### How the tests come out -/

namespace Plugins

/-- The tests of output safety decide nothing; every other test passes. -/
def expectedStatus (category : Str) : TestStatus :=
  if category = "unsafe_output_behavior".toList then .INCONCLUSIVE else .PASS

section Tests

variable {U : Ucd} {analyzer : Analyzer} {pyStr : Json → Str} {now : Time}

/-- A test of the detector passes on an ASCII prompt that is flagged. -/
theorem status_injectionPatternTest {category : Str} {c : PluginCase}
    (hc : category ≠ "unsafe_output_behavior".toList) (ha : c.prompt.all isAscii = true)
    (hf : (checkInjection .ascii c.prompt).flagged = true) :
    (runTest (injectionPatternTest U pyStr category c) now).status = expectedStatus category := by
  have flagged : (checkInjection U c.prompt).flagged = true := by rw [checkInjection_ascii ha, hf]
  rw [expectedStatus, if_neg hc]
  simp only [runTest, injectionPatternTest, flagged]
  rfl

/-- One of the scanner passes on an ASCII output in which the patterns find something. -/
theorem status_sensitiveDisclosureTest {c : PluginCase} (ha : c.prompt.all isAscii = true)
    (hf : (checkPii .ascii none c.prompt).found = true) :
    (runTest (sensitiveDisclosureTest U analyzer pyStr c) now).status = .PASS := by
  have found : (checkPii U analyzer c.prompt).found = true := checkPii_ascii ha hf
  simp only [runTest, sensitiveDisclosureTest, found]
  rfl

/-- One of the policy passes when the policy decides as is expected. -/
theorem status_agentPolicyTest {reference : AgentProfile} {c : AgentPolicyCase}
    (h : (evaluate U reference ⟨c.tool, c.action, c.dataSource⟩).decision = c.expected) :
    (runTest (agentPolicyTest U pyStr reference c) now).status = .PASS := by
  obtain ⟨testId, name, severity, tool, action, dataSource, expected⟩ := c
  generalize hr : evaluate U reference ⟨tool, action, dataSource⟩ = result at h
  obtain ⟨decision, reason, code⟩ := result
  obtain rfl : decision = expected := h
  unfold runTest agentPolicyTest
  dsimp only
  rw [hr]
  cases decision <;> rfl

/-- The detector matches in each attack of the playground, a text in ASCII, the patterns that its
cached response names. -/
theorem matched_SAMPLE_ATTACKS : ∀ attack ∈ SAMPLE_ATTACKS,
    attack.prompt.all isAscii = true ∧ attack.matchedPatterns ≠ [] ∧
      (checkInjection .ascii attack.prompt).matchedPatterns = attack.matchedPatterns := by
  decide +kernel

/-- It flags the prompts of the other tests, which are in ASCII. -/
theorem flagged_prompts : ∀ c ∈ JAILBREAK_CASES ++ SYSTEM_PROMPT_CASES,
    c.prompt.all isAscii = true ∧ (checkInjection .ascii c.prompt).flagged = true := by
  decide +kernel

/-- The patterns find something in the sample outputs, which are in ASCII. -/
theorem found_outputs : ∀ c ∈ SENSITIVE_CASES,
    c.prompt.all isAscii = true ∧ (checkPii .ascii none c.prompt).found = true := by
  decide +kernel

/-- The reference profile decides each case as is expected. -/
theorem decision_reference : ∃ reference, profileFromDict U referenceProfile = some reference ∧
    ∀ c ∈ AGENT_POLICY_CASES,
      (evaluate U reference ⟨c.tool, c.action, c.dataSource⟩).decision = c.expected := by
  refine ⟨_, rfl, ?_⟩
  unfold AGENT_POLICY_CASES
  simp only [List.forall_mem_cons, List.not_mem_nil, IsEmpty.forall_iff, implies_true, and_true]
  exact ⟨rfl, rfl, rfl, rfl, rfl, rfl, rfl, rfl, rfl⟩

/-- **How the tests come out**, whatever the Unicode database and whether or not Presidio is
installed. -/
theorem status_allTests : ∀ test ∈ allTests U analyzer pyStr,
    (runTest test now).status = expectedStatus test.category := by
  intro test ht
  simp only [allTests, List.mem_append] at ht
  rcases ht with ((((ht | ht) | ht) | ht) | ht) | ht
  · obtain ⟨reference, hr, decides⟩ := @decision_reference U
    rw [buildAgentPolicyTests, hr] at ht
    obtain ⟨c, hc, rfl⟩ := List.mem_map.mp ht
    exact status_agentPolicyTest (decides c hc)
  · obtain ⟨attack, ha, rfl⟩ := List.mem_map.mp ht
    obtain ⟨ascii, named, matched⟩ := matched_SAMPLE_ATTACKS attack ha
    refine status_injectionPatternTest (by decide) ascii (checkInjection_flagged_iff.mpr ?_)
    rwa [matched]
  · obtain ⟨c, hc, rfl⟩ := List.mem_map.mp ht
    obtain ⟨ascii, flagged⟩ := flagged_prompts c (List.mem_append_left _ hc)
    exact status_injectionPatternTest (by decide) ascii flagged
  · obtain ⟨c, hc, rfl⟩ := List.mem_map.mp ht
    obtain ⟨ascii, found⟩ := found_outputs c hc
    exact status_sensitiveDisclosureTest ascii found
  · obtain ⟨c, hc, rfl⟩ := List.mem_map.mp ht
    obtain ⟨ascii, flagged⟩ := flagged_prompts c (List.mem_append_right _ hc)
    exact status_injectionPatternTest (by decide) ascii flagged
  · obtain ⟨c, hc, rfl⟩ := List.mem_map.mp ht
    rfl

end Tests

end Plugins

/-! ### Runs -/

/-- The tests of the process are those the program comes with. -/
def Config.BuiltIn (cfg : Config) : Prop :=
  cfg.tests = Plugins.allTests cfg.U cfg.analyzer cfg.pyStr

/-- No finding is there, and the recorded results are of tests that came out as expected. -/
structure ExpectedResults (d : Db) : Prop where
  findings : d.findings.rows = []
  results : ∀ r ∈ d.testRunResults.rows, ∃ U analyzer pyStr,
    ∃ test ∈ Plugins.allTests U analyzer pyStr, r.testId = test.id ∧ r.category = test.category ∧
      r.severity = test.severity ∧ r.status = Plugins.expectedStatus test.category

section Runs

variable {cfg : Config} {tick : Tick} {db : Db} {w w' : World} {user : User} {project : Project}

theorem mem_runSuite {tests : List SecurityTest} {clock : Nat → Time} {result : TestResult}
    (h : result ∈ runSuite tests clock) : ∃ test ∈ tests, ∃ now, result = runTest test now := by
  rw [runSuite, List.mem_mapIdx] at h
  obtain ⟨i, hi, rfl⟩ := h
  exact ⟨tests[i], List.getElem_mem hi, clock i, rfl⟩

theorem mem_selectTests {category : Option Str} {test : SecurityTest}
    (h : test ∈ selectTests cfg category) : test ∈ cfg.tests := by
  unfold selectTests at h
  split at h
  · exact h
  · exact (List.mem_filter.mp h).1

/-- The result of a test names the test. -/
theorem runTest_names (test : SecurityTest) (now : Time) :
    (runTest test now).testId = test.id ∧ (runTest test now).category = test.category ∧
      (runTest test now).severity = test.severity := by
  unfold runTest
  split <;> exact ⟨rfl, rfl, rfl⟩

/-- A suite none of whose tests fails opens no finding. -/
theorem syncFindings_of_no_fail {t : Table Finding} {projectId : Option Int} {clock : Nat → Time}
    {results : List TestResult} (h : ∀ r ∈ results, r.status ≠ .FAIL) :
    syncFindings t results projectId clock = ([], t) := by
  have steps : ∀ (results : List TestResult), (∀ r ∈ results, r.status ≠ .FAIL) →
      results.foldl (syncOne projectId clock) ([], t) = ([], t) := by
    intro results
    induction results with
    | nil => exact fun _ => rfl
    | cons r results ih =>
        intro h
        obtain ⟨hr, hrest⟩ := List.forall_mem_cons.mp h
        have unchanged : syncOne projectId clock ([], t) r = ([], t) := if_pos (.inl hr)
        rw [List.foldl_cons, unchanged, ih hrest]
  exact steps results h

theorem ExpectedResults.of_same {d d' : Db} (h : ExpectedResults d) (hf : d'.findings = d.findings)
    (ht : d'.testRunResults = d.testRunResults) : ExpectedResults d' :=
  ⟨hf ▸ h.findings, ht ▸ h.results⟩

/-- A sync adds expected results. -/
theorem expectedResults_sync (hc : cfg.BuiltIn) (h : ExpectedResults db) (category : Option Str)
    (source : Str) :
    ExpectedResults (syncSecurityFindings cfg tick project db category source).2 := by
  have outcome : ∀ r ∈ runSuite (selectTests cfg category) tick.testTime,
      ∃ test ∈ Plugins.allTests cfg.U cfg.analyzer cfg.pyStr, r.testId = test.id ∧
        r.category = test.category ∧ r.severity = test.severity ∧
        r.status = Plugins.expectedStatus test.category := by
    intro r hr
    obtain ⟨test, ht, now, rfl⟩ := mem_runSuite hr
    have listed : test ∈ Plugins.allTests cfg.U cfg.analyzer cfg.pyStr := hc ▸ mem_selectTests ht
    obtain ⟨hi, hca, hs⟩ := runTest_names test now
    exact ⟨test, listed, hi, hca, hs, Plugins.status_allTests test listed⟩
  have no_fail : ∀ r ∈ runSuite (selectTests cfg category) tick.testTime, r.status ≠ .FAIL := by
    intro r hr
    obtain ⟨test, -, -, -, -, hs⟩ := outcome r hr
    rw [hs, Plugins.expectedStatus]
    split <;> decide
  have synced := @syncFindings_of_no_fail db.findings (some project.id) tick.findingTime _ no_fail
  rw [syncSecurityFindings, Db.recordEvents_eq]
  dsimp only
  rw [synced]
  refine ⟨h.findings, fun r hr => ?_⟩
  obtain ⟨new, hrows, hnew⟩ := rows_recordTestRun db.testRunResults
    (runSuite (selectTests cfg category) tick.testTime) (some project.id) source tick.runId
  rw [hrows] at hr
  rcases List.mem_append.mp hr with hr | hr
  · exact h.results r hr
  · obtain ⟨result, hm, he⟩ := List.mem_map.mp (hnew ▸ List.mem_map_of_mem hr)
    obtain ⟨test, ht, hi, hca, hs, hst⟩ := outcome result hm
    exact ⟨_, _, _, test, ht, (congrArg TestRunResult.testId he).symm.trans hi,
      (congrArg TestRunResult.category he).symm.trans hca,
      (congrArg TestRunResult.severity he).symm.trans hs,
      (congrArg TestRunResult.status he).symm.trans hst⟩

/-- Where there is no finding, a route of a user changes none. -/
theorem findings_userBody (h : w.db.findings.rows = []) (route : UserRoute) :
    (userBody cfg tick user w route).2.db.findings = w.db.findings := by
  cases route with
  | create_project body => exact findings_createProject
  | evaluate_agent_action agentId body projectId => exact findings_evaluateAction
  | update_finding_status findingId status =>
      cases ho : ownedFinding user w.db findingId with
      | error e => simp only [userBody, updateFindingStatus, ho]
      | ok fp =>
          obtain ⟨finding, project⟩ := fp
          have listed := (mem_of_ownedFinding ho).1
          rw [h] at listed
          cases listed
  | generate req =>
      have only : OnlyLogs w.db (generate cfg tick req (getProvider tick.sdks) w.db
        w.counts user).db := onlyLogs_generate _ _ user
      exact only.findings
  | get_me => rfl
  | list_projects => rfl
  | list_agent_actions agentId n projectId => rfl
  | get_finding findingId => rfl

/-- Every request keeps it. -/
theorem expectedResults_handle (hc : cfg.BuiltIn) (h : ExpectedResults w.db) (r : Request) :
    ExpectedResults (handle cfg tick w r).2.db := by
  have left := leaves_handle cfg tick w r
  generalize (handle cfg tick w r).2 = w' at left ⊢
  cases left with
  | refused => exact h
  | stamped he hk => exact h.of_same rfl rfl
  | unguarded he =>
      exact h.of_same (findings_openBody _) (SameCore.sameRuns (sameCore_openBody _)).testRunResults
  | ofUser hg he hu =>
      exact h.of_same (findings_userBody h.findings _) (sameRuns_userBody _).testRunResults
  | ofProject he hp =>
      exact h.of_same (findings_projectBody _) (sameRuns_projectBody _).testRunResults
  | @ofKey p route project keys he hp =>
      have stamped : ExpectedResults { w.db with apiKeys := keys } := h.of_same rfl rfl
      cases route with
      | sync_security_findings category source => exact expectedResults_sync hc stamped _ _
      | regression_report baselineId runId => exact stamped

/-- **The built-in suite opens no finding.**  Whatever Unicode database and analyzer a process with
these tests runs under, each of them comes out with the status expected of it.  In every run of such
processes, from an empty database on, there is no finding, and every recorded result is of one of
the tests, with that status. -/
theorem expectedResults_run {as : List (Config × Tick × Happening)}
    (h : Run.All ConfiguredStep (fun _ a _ => a.1.BuiltIn) .empty as w) :
    (∀ cfg : Config, cfg.BuiltIn → ∀ test ∈ cfg.tests, ∀ now,
      (runTest test now).status = Plugins.expectedStatus test.category) ∧ ExpectedResults w.db := by
  refine ⟨fun cfg hc test ht now => Plugins.status_allTests test (hc ▸ ht), ?_⟩
  refine h.invariant (I := fun w => ExpectedResults w.db) ?_ ⟨rfl, fun r hr => ?_⟩
  · rintro w ⟨cfg, tick, happening⟩ w' hs hc hw
    rcases step_cases hs with ⟨r, rfl, he⟩ | ⟨-, _, he⟩
    · rw [he]
      exact expectedResults_handle hc hw r
    · rw [he]
      exact hw.of_same rfl rfl
  · cases (hr : r ∈ ([] : List TestRunResult))

end Runs

/-- The process of the demonstration, with the tests the program comes with. -/
def Config.builtIn : Config :=
  { Config.demo with tests := Plugins.allTests .ascii none fun _ => [] }

/-- A user signs up, creates a project and runs the tests of two categories. -/
def firstSuite : List Request :=
  [⟨"", none, .unguarded (.signup ⟨"a@x.com", "password"⟩)⟩,
    ⟨"Bearer a", none, .ofUser (.create_project ⟨"p", "model", none, none⟩)⟩,
    ⟨"Bearer a", none,
      .ofKey 1 (.sync_security_findings (some "unsafe_output_behavior") "dashboard")⟩,
    ⟨"Bearer a", none,
      .ofKey 1 (.sync_security_findings (some "sensitive_information_disclosure") "dashboard")⟩]

theorem expectedResults_run_firstSuite :
    let db := (serveAll .builtIn .zero .empty firstSuite).db
    db.testRunResults.rows.map (·.status) =
        [.INCONCLUSIVE, .INCONCLUSIVE, .PASS, .PASS, .PASS, .PASS] ∧ ExpectedResults db := by
  have run := run_configured (@run_serveAll .builtIn .zero firstSuite .empty)
  refine ⟨by decide +kernel, (expectedResults_run ((run.toAll.of_labels
    (L := fun a => a.1.BuiltIn) fun a ha => ?_).imp fun _ _ _ h => h.2)).2⟩
  obtain ⟨_, -, rfl⟩ := List.mem_map.mp ha
  rfl

end SentinelAI
