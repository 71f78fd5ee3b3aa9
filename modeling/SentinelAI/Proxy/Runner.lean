import SentinelAI.Proxy.Engine

/-!
# Proxy — Runner

`proxy/engine/runner.py` on tests that keep no promise.  A plugin may return anything and raise
anything: what it returns need not be a `RawExecution`, and the exceptions it raises need not have a
text.  The two calls of the plugin are guarded; what is made of their outcomes is not, and may
raise.

* `runSuite_eq_some_iff`: a suite comes to results exactly when each of its tests does.
* `runSuite_plugin`: on tests that keep their promises it is the `runSuite` of the engine, and does
  not raise.
-/

namespace SentinelAI.Plugin
open Support

/-- An exception, by what `str` makes of it: a text, or another exception. -/
structure PyException where
  text : Option Str

/-- What the execution of a test returns. -/
inductive Returned where
  | raw (evidence : RawExecution)
  /-- A `RawExecution` whose fields hold other values: a dataclass does not check them. -/
  | mistyped (provider model : Json)
  /-- Another value, with what reading the two attributes gives, if it does not raise. -/
  | other (provider model : Option Json)

namespace Returned

def None : Returned := .other none none

/-- `isinstance(evidence, RawExecution)` -/
def IsRaw : Returned → Prop
  | .raw _ | .mistyped _ _ => True
  | .other _ _ => False

/-- `evidence.provider` -/
def provider : Returned → Option Json
  | .raw evidence => some (.str evidence.provider)
  | .mistyped provider _ => some provider
  | .other provider _ => provider

/-- `evidence.model` -/
def model : Returned → Option Json
  | .raw evidence => some (.str evidence.model)
  | .mistyped _ model => some model
  | .other _ model => model

end Returned

/-- The first of the pair that an evaluation returns. -/
inductive AnyStatus where
  | status (status : TestStatus)
  | other (value : Json)

structure SecurityTest where
  id : Str
  name : Str
  category : Str
  description : Str
  severity : Severity
  attackInput : Str
  expectedBehavior : Str
  run : Except PyException Returned
  evaluate : Returned → Except PyException (AnyStatus × Json)

structure TestResult where
  testId : Str
  name : Str
  category : Str
  severity : Severity
  status : AnyStatus
  detail : Json
  evidence : Returned
  executedAt : Time
  reproduction : Json

/-- The result of a test whose execution raised `exc`. -/
def executionRaised (test : SecurityTest) (now : Time) (exc : Str) : TestResult where
  testId := test.id
  name := test.name
  category := test.category
  severity := test.severity
  status := .status .ERROR
  detail := .str ("Execution raised: ".toList ++ exc)
  evidence := .raw ⟨test.attackInput, .null, "none", "none", none, .obj []⟩
  executedAt := now
  reproduction := .obj [("attack_input", .str test.attackInput)]

/-- The result of a test whose execution returned `evidence`. -/
def evaluated (test : SecurityTest) (now : Time) (evidence : Returned)
    (verdict : AnyStatus × Json) (provider model : Json) : TestResult where
  testId := test.id
  name := test.name
  category := test.category
  severity := test.severity
  status := verdict.1
  detail := verdict.2
  evidence
  executedAt := now
  reproduction := .obj [("attack_input", .str test.attackInput), ("provider", provider),
    ("model", model)]

/-- `status, detail = test.evaluate(evidence)`, and what is put in its place where it raises. -/
def verdict (test : SecurityTest) (evidence : Returned) : Option (AnyStatus × Json) :=
  match test.evaluate evidence with
  | .ok verdict => some verdict
  | .error exc => exc.text.map fun text =>
      (.status .ERROR, .str ("Evaluation raised: ".toList ++ text))

/-- `run_test`, or nothing where it raises. -/
def runTest (test : SecurityTest) (now : Time) : Option TestResult :=
  match test.run with
  | .error exc => exc.text.map (executionRaised test now)
  | .ok evidence => do
      let verdict ← verdict test evidence
      let provider ← evidence.provider
      let model ← evidence.model
      return evaluated test now evidence verdict provider model

/-- `run_suite`, or nothing where it raises: the results of `tests`, the `i`-th of which ends at
`clock i`. -/
def runSuite : List SecurityTest → (Nat → Time) → Option (List TestResult)
  | [], _ => some []
  | test :: tests, clock => do
      let result ← runTest test (clock 0)
      let results ← runSuite tests fun i => clock (i + 1)
      return result :: results

/-! ### A suite and its tests -/

theorem runSuite_cons_eq_some_iff {test : SecurityTest} {tests : List SecurityTest}
    {clock : Nat → Time} {results : List TestResult} :
    runSuite (test :: tests) clock = some results ↔
      ∃ result rest, runTest test (clock 0) = some result ∧
        runSuite tests (fun i => clock (i + 1)) = some rest ∧ result :: rest = results := by
  change (runTest test (clock 0)).bind (fun result => (runSuite tests fun i => clock (i + 1)).bind
    fun rest => some (result :: rest)) = some results ↔ _
  simp only [Option.bind_eq_some_iff, Option.some.injEq, exists_and_left]

/-- **A suite** comes to results exactly when each of its tests does, and they are its results. -/
theorem runSuite_eq_some_iff {tests : List SecurityTest} {clock : Nat → Time}
    {results : List TestResult} :
    runSuite tests clock = some results ↔
      (tests.mapIdx fun i test => runTest test (clock i)) = results.map some := by
  induction tests generalizing clock results with
  | nil =>
      simp only [runSuite, List.mapIdx_nil, Option.some.injEq, List.nil_eq, List.map_eq_nil_iff]
  | cons test tests ih =>
      rw [runSuite_cons_eq_some_iff, List.mapIdx_cons, eq_comm, List.map_eq_cons_iff]
      constructor
      · rintro ⟨result, rest, ht, hs, rfl⟩
        exact ⟨result, rest, rfl, ht.symm, (ih.mp hs).symm⟩
      · rintro ⟨result, rest, rfl, ht, hs⟩
        exact ⟨result, rest, ht.symm, ih.mpr hs.symm, rfl⟩

/-- The results of a suite are those that its tests have alone. -/
theorem runSuite_getElem {tests : List SecurityTest} {clock : Nat → Time}
    {results : List TestResult} (h : runSuite tests clock = some results) (i : Nat) :
    (tests[i]?).map (fun test => runTest test (clock i)) = (results[i]?).map some := by
  have same := congrArg (fun l => l[i]?) (runSuite_eq_some_iff.mp h)
  rwa [List.getElem?_mapIdx, List.getElem?_map] at same

theorem runSuite_singleton (test : SecurityTest) (now : Time) :
    runSuite [test] (fun _ => now) = (runTest test now).map fun result => [result] := by
  cases h : runTest test now with
  | none => rw [runSuite, h]; rfl
  | some result => rw [runSuite, h]; rfl

/-- A suite of tests none of which raises does not raise. -/
theorem exists_runSuite {tests : List SecurityTest} (clock : Nat → Time)
    (h : ∀ test ∈ tests, ∀ now, ∃ result, runTest test now = some result) :
    ∃ results, runSuite tests clock = some results := by
  induction tests generalizing clock with
  | nil => exact ⟨[], rfl⟩
  | cons test tests ih =>
      obtain ⟨ht, hs⟩ := List.forall_mem_cons.mp h
      obtain ⟨result, hr⟩ := ht (clock 0)
      obtain ⟨rest, hrest⟩ := ih (fun i => clock (i + 1)) hs
      exact ⟨result :: rest, runSuite_cons_eq_some_iff.mpr ⟨result, rest, hr, hrest, rfl⟩⟩

end SentinelAI.Plugin

namespace SentinelAI
open Support

/-! ### Tests that keep their promises -/

/-- A test of the engine, as one that a plugin brings: it returns evidence, or raises an exception
that has a text. -/
def SecurityTest.plugin (test : SecurityTest) : Plugin.SecurityTest where
  id := test.id
  name := test.name
  category := test.category
  description := test.description
  severity := test.severity
  attackInput := test.attackInput
  expectedBehavior := test.expectedBehavior
  run :=
    match test.run with
    | .ok evidence => .ok (.raw evidence)
    | .error exc => .error ⟨some exc⟩
  evaluate returned :=
    match returned with
    | .raw evidence =>
        match test.evaluate evidence with
        | .ok verdict => .ok (.status verdict.1, .str verdict.2)
        | .error exc => .error ⟨some exc⟩
    | _ => .error ⟨some "no evidence"⟩

def TestResult.plugin (result : TestResult) : Plugin.TestResult where
  testId := result.testId
  name := result.name
  category := result.category
  severity := result.severity
  status := .status result.status
  detail := .str result.detail
  evidence := .raw result.evidence
  executedAt := result.executedAt
  reproduction := result.reproduction

/-- On a test that keeps its promises `run_test` does not raise, and gives the result of the
engine. -/
theorem runTest_plugin (test : SecurityTest) (now : Time) :
    Plugin.runTest test.plugin now = some (runTest test now).plugin := by
  obtain ⟨id, name, category, description, severity, attackInput, expectedBehavior, run,
    evaluate⟩ := test
  cases run with
  | error exc => rfl
  | ok evidence =>
      unfold Plugin.runTest Plugin.verdict runTest SecurityTest.plugin
      dsimp only
      cases evaluate evidence with
      | ok verdict => rfl
      | error exc => rfl

/-- **Tests that keep their promises**: the suite does not raise, and its results are those of the
engine. -/
theorem runSuite_plugin (tests : List SecurityTest) (clock : Nat → Time) :
    Plugin.runSuite (tests.map (·.plugin)) clock =
      some ((runSuite tests clock).map (·.plugin)) := by
  rw [Plugin.runSuite_eq_some_iff]
  refine List.ext_getElem? fun i => ?_
  simp only [runSuite, List.getElem?_mapIdx, List.getElem?_map]
  cases tests[i]? with
  | none => rfl
  | some test => exact congrArg some (runTest_plugin test (clock i))

end SentinelAI
