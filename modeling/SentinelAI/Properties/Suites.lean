import SentinelAI.Proxy.Runner

/-!
# Properties — Suites

One bad test and the suite it is in.  Behind the two guarded calls of a plugin the runner makes the
text of an exception, and reads two attributes of the evidence, with no guard: a test that returns
no evidence takes the results of all the others with it.

* `survives_iff`: which tests have the result they should have.
* `neverBreaks_iff`: a suite does what it should exactly when each of its tests does.
* `not_neverBreaks_none`: a test that returns `None`, beside one that passes.
-/

namespace SentinelAI.Plugin
open Support

/-- The plugin of the test does not do what it promises: it raises, or returns no evidence. -/
inductive Misbehaves (test : SecurityTest) : Prop where
  | run {exc : PyException} (h : test.run = .error exc)
  | evidence {returned : Returned} (h : test.run = .ok returned) (hr : ¬ returned.IsRaw)
  | evaluate {returned : Returned} {exc : PyException} (h : test.run = .ok returned)
      (he : test.evaluate returned = .error exc)

/-- The result is the test's, and says so where the test misbehaved. -/
structure ResultOf (test : SecurityTest) (result : TestResult) : Prop where
  testId : result.testId = test.id
  category : result.category = test.category
  severity : result.severity = test.severity
  error : Misbehaves test → result.status = .status .ERROR

/-- **A suite never breaks**: it has one result for each test, in order, that of the test alone. -/
def NeverBreaks (tests : List SecurityTest) (clock : Nat → Time) : Prop :=
  ∃ results, runSuite tests clock = some results ∧ results.length = tests.length ∧
    ∀ i test, tests[i]? = some test → ∃ result, results[i]? = some result ∧
      ResultOf test result ∧ runSuite [test] (fun _ => clock i) = some [result]

/-- What the runner does without a guard does not raise, and a value that is no evidence is not
evaluated to anything but an error. -/
def Survives (test : SecurityTest) : Prop :=
  match test.run with
  | .error exc => exc.text.isSome
  | .ok returned =>
      returned.provider.isSome ∧ returned.model.isSome ∧
        match test.evaluate returned with
        | .error exc => exc.text.isSome
        | .ok verdict => returned.IsRaw ∨ verdict.1 = .status .ERROR

/-! ### One test -/

section Test

variable {test : SecurityTest} {now : Time}

/-- A test whose execution raises has a result exactly when the exception has a text. -/
theorem runTest_of_raised {exc : PyException} (h : test.run = .error exc) :
    (∃ result, runTest test now = some result ∧ ResultOf test result) ↔ exc.text.isSome := by
  have run : runTest test now = exc.text.map (executionRaised test now) := by rw [runTest, h]
  rw [run]
  cases exc.text with
  | none => exact iff_of_false (fun ⟨_, h, _⟩ => nomatch h) (fun h => nomatch h)
  | some text => exact iff_of_true ⟨_, rfl, rfl, rfl, rfl, fun _ => rfl⟩ rfl

/-- One whose execution returns has a result exactly when the evaluation comes to a pair, and both
attributes are there. -/
theorem runTest_of_returned {returned : Returned} (h : test.run = .ok returned)
    {result : TestResult} : runTest test now = some result ↔
      ∃ v provider model, verdict test returned = some v ∧ returned.provider = some provider ∧
        returned.model = some model ∧ evaluated test now returned v provider model = result := by
  have run : runTest test now = (verdict test returned).bind fun v =>
      returned.provider.bind fun provider => returned.model.bind fun model =>
        some (evaluated test now returned v provider model) := by
    rw [runTest, h]
    rfl
  rw [run]
  simp only [Option.bind_eq_some_iff, Option.some.injEq, exists_and_left]

variable (now) in
/-- **Which tests** have the result they should have: those that survive. -/
theorem survives_iff (test : SecurityTest) :
    Survives test ↔ ∃ result, runTest test now = some result ∧ ResultOf test result := by
  unfold Survives
  cases h : test.run with
  | error exc => exact (runTest_of_raised h).symm
  | ok returned =>
      simp only [runTest_of_returned h, verdict]
      cases he : test.evaluate returned with
      | error exc =>
          constructor
          · rintro ⟨hp, hm, ht⟩
            obtain ⟨provider, hp⟩ := Option.isSome_iff_exists.mp hp
            obtain ⟨model, hm⟩ := Option.isSome_iff_exists.mp hm
            obtain ⟨text, ht⟩ := Option.isSome_iff_exists.mp ht
            exact ⟨_, ⟨_, provider, model, Option.map_eq_some_iff.mpr ⟨text, ht, rfl⟩, hp, hm, rfl⟩,
              rfl, rfl, rfl, fun _ => rfl⟩
          · rintro ⟨_, ⟨v, provider, model, hv, hp, hm, -⟩, -⟩
            obtain ⟨text, ht, -⟩ := Option.map_eq_some_iff.mp hv
            exact ⟨Option.isSome_of_eq_some hp, Option.isSome_of_eq_some hm,
              Option.isSome_of_eq_some ht⟩
      | ok v =>
          constructor
          · rintro ⟨hp, hm, hs⟩
            obtain ⟨provider, hp⟩ := Option.isSome_iff_exists.mp hp
            obtain ⟨model, hm⟩ := Option.isSome_iff_exists.mp hm
            refine ⟨_, ⟨v, provider, model, rfl, hp, hm, rfl⟩, rfl, rfl, rfl, fun bad => ?_⟩
            cases bad with
            | run h' => cases h.symm.trans h'
            | evidence h' hr =>
                cases h.symm.trans h'
                exact hs.resolve_left hr
            | evaluate h' he' =>
                cases h.symm.trans h'
                cases he.symm.trans he'
          · rintro ⟨_, ⟨v', provider, model, ⟨⟩, hp, hm, rfl⟩, hr⟩
            refine ⟨Option.isSome_of_eq_some hp, Option.isSome_of_eq_some hm, ?_⟩
            by_cases raw : returned.IsRaw
            · exact .inl raw
            · exact .inr (hr.error (.evidence h raw))

end Test

/-! ### A suite -/

/-- **Suites.**  One bad test does not break a suite exactly when every exception that a plugin
raises has a text, and a value that is no evidence has the two attributes and is evaluated to an
error. -/
theorem neverBreaks_iff (tests : List SecurityTest) (clock : Nat → Time) :
    NeverBreaks tests clock ↔ ∀ test ∈ tests, Survives test := by
  constructor
  · rintro ⟨results, -, -, h⟩ test hm
    obtain ⟨i, hi⟩ := List.mem_iff_getElem?.mp hm
    obtain ⟨result, -, hr, alone⟩ := h i test hi
    rw [runSuite_singleton] at alone
    obtain ⟨result', ht, ⟨⟩⟩ := Option.map_eq_some_iff.mp alone
    exact (survives_iff (clock i) test).mpr ⟨result, ht, hr⟩
  · intro h
    have returns : ∀ test ∈ tests, ∀ now, ∃ result, runTest test now = some result := by
      intro test hm now
      obtain ⟨result, ht, -⟩ := (survives_iff now test).mp (h test hm)
      exact ⟨result, ht⟩
    obtain ⟨results, hs⟩ := exists_runSuite clock returns
    refine ⟨results, hs, ?_, fun i test hi => ?_⟩
    · have lengths := congrArg List.length (runSuite_eq_some_iff.mp hs)
      rw [List.length_mapIdx, List.length_map] at lengths
      exact lengths.symm
    · obtain ⟨result, ht, hr⟩ := (survives_iff (clock i) test).mp (h test (List.mem_of_getElem? hi))
      have same := runSuite_getElem hs i
      rw [hi, Option.map_some, ht] at same
      obtain ⟨result', hi', ⟨⟩⟩ := Option.map_eq_some_iff.mp same.symm
      refine ⟨result, hi', hr, ?_⟩
      rw [runSuite_singleton, ht]
      rfl

/-- A test that keeps its promises survives. -/
theorem survives_plugin (test : SentinelAI.SecurityTest) : Survives test.plugin := by
  obtain ⟨id, name, category, description, severity, attackInput, expectedBehavior, run,
    evaluate⟩ := test
  cases run with
  | error exc => rfl
  | ok evidence =>
      refine ⟨rfl, rfl, ?_⟩
      dsimp only [SentinelAI.SecurityTest.plugin]
      cases evaluate evidence with
      | error exc => rfl
      | ok v => exact .inl trivial

/-! ### A test that returns nothing -/

/-- A test that returns what it is given, which is to pass. -/
def returning (id : Str) (returned : Returned) : SecurityTest where
  id
  name := "n"
  category := "c"
  description := "d"
  severity := .high
  attackInput := "a"
  expectedBehavior := "e"
  run := .ok returned
  evaluate
    | .raw _ => .ok (.status .PASS, .str "blocked")
    | _ => .error ⟨some "'NoneType' object has no attribute 'raw_output'"⟩

/-- A test that passes, and one that returns `None`. -/
def badSuite : List SecurityTest :=
  [returning "t1" (.raw ⟨"a", .null, "local", "m", none, .obj []⟩), returning "t2" .None]

/-- **A test that returns `None`.**  Its evaluation raises, which is caught; the suite raises all
the same, and the test that passes has no result. -/
theorem not_neverBreaks_none :
    (runSuite (badSuite.take 1) (fun _ => 0)).isSome = true ∧
      verdict (returning "t2" .None) .None = some (.status .ERROR,
        .str "Evaluation raised: 'NoneType' object has no attribute 'raw_output'".toList) ∧
      runSuite badSuite (fun _ => 0) = none ∧ ¬ NeverBreaks badSuite fun _ => 0 := by
  have raises : runSuite badSuite (fun _ => 0) = none := rfl
  refine ⟨rfl, rfl, raises, ?_⟩
  rintro ⟨results, hs, -⟩
  cases raises.symm.trans hs

end SentinelAI.Plugin
