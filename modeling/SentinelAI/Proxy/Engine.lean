import SentinelAI.Proxy.Models

/-!
# Proxy — Engine

`proxy/engine/models.py` and `proxy/engine/runner.py`: security tests and their results.  A test
brings its execution and its evaluation along, each of which may raise with a message; which tests
there are is up to the plugins that register them.
-/

namespace SentinelAI
open Support

/-- What happened when a test was executed. -/
structure RawExecution where
  rawInput : Str
  rawOutput : Json
  provider : Str
  model : Str
  statusCode : Option Int := none
  extra : Json := .obj []

structure SecurityTest where
  id : Str
  name : Str
  category : Str
  description : Str
  severity : Severity
  attackInput : Str
  expectedBehavior : Str
  run : Except Str RawExecution
  evaluate : RawExecution → Except Str (TestStatus × Str)

structure TestResult where
  testId : Str
  name : Str
  category : Str
  severity : Severity
  status : TestStatus
  detail : Str
  evidence : RawExecution
  executedAt : Time
  reproduction : Json

/-- A plugin that raises yields an `ERROR` result. -/
def runTest (test : SecurityTest) (now : Time) : TestResult :=
  match test.run with
  | .error exc =>
      { testId := test.id
        name := test.name
        category := test.category
        severity := test.severity
        status := .ERROR
        detail := "Execution raised: ".toList ++ exc
        evidence := ⟨test.attackInput, .null, "none", "none", none, .obj []⟩
        executedAt := now
        reproduction := .obj [("attack_input", .str test.attackInput)] }
  | .ok evidence =>
      let verdict := match test.evaluate evidence with
        | .ok verdict => verdict
        | .error exc => (.ERROR, "Evaluation raised: ".toList ++ exc)
      { testId := test.id
        name := test.name
        category := test.category
        severity := test.severity
        status := verdict.1
        detail := verdict.2
        evidence
        executedAt := now
        reproduction := .obj [("attack_input", .str test.attackInput),
          ("provider", .str evidence.provider), ("model", .str evidence.model)] }

/-- The results of `tests`, the `i`-th of which ends at `clock i`. -/
def runSuite (tests : List SecurityTest) (clock : Nat → Time) : List TestResult :=
  tests.mapIdx fun i test => runTest test (clock i)

def RawExecution.toJson (r : RawExecution) : Json :=
  .obj [("raw_input", .str r.rawInput), ("raw_output", r.rawOutput), ("provider", .str r.provider),
    ("model", .str r.model), ("status_code", .opt .int r.statusCode), ("extra", r.extra)]

def TestResult.toJson (r : TestResult) : Json :=
  .obj [("test_id", .str r.testId), ("name", .str r.name), ("category", .str r.category),
    ("severity", .str r.severity.value), ("status", .str r.status.value), ("detail", .str r.detail),
    ("evidence", r.evidence.toJson), ("executed_at", .time r.executedAt),
    ("reproduction", r.reproduction)]

end SentinelAI
