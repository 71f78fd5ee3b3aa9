import SentinelAI.Agents.Graph

/-!
# Frontend — Review

What a reviewer is shown of a run and what is recorded with the decision:
`frontend/components/review_screen.py`, and the two components of `web/components/review` that read
the policy verdict.
-/

namespace SentinelAI
open Support

inductive SystemVerdict where
  | compliant
  | non_compliant
deriving DecidableEq, Repr

def SystemVerdict.value : SystemVerdict → Str
  | .compliant => "compliant"
  | .non_compliant => "non_compliant"

/-- What `compute_display` returns. -/
structure Display where
  extractedFields : Json
  forensicsResult : Json
  policyVerdict : Json
  reportText : Json
  verdict : SystemVerdict
  confidence : Json
  hallucinationPct : Json
  errors : List NodeError
  injectionDuringExtraction : Bool
  injectionMatchedPatterns : Json

/-- `e.get("code") == "injection_detected"` -/
def NodeError.injectionDetected (e : NodeError) : Bool :=
  match e.code with
  | .str code => code == "injection_detected".toList
  | _ => false

def computeDisplay (state : FraudCaseState) : Except PyError Display := do
  let reportGuardrails := state.reportGuardrails.or (.obj [])
  let hallucination := (← reportGuardrails.getOr "hallucination" .null).or (.obj [])
  let hallucinationScore ← hallucination.getOr "score" (.num 0)
  let confidence ← hallucinationScore.oneMinus
  let policyVerdict := state.policyVerdict.or (.obj [])
  let compliant ← policyVerdict.getOr "compliant" (.bool true)
  let extractionGuardrails := state.extractionGuardrails.or (.obj [])
  let ocrInjection := (← extractionGuardrails.getOr "injection" .null).or (.obj [])
  let flagged ← ocrInjection.getOr "flagged" .null
  let matchedPatterns ← ocrInjection.getOr "matched_patterns" (.arr [])
  return {
    extractedFields := state.extractedFields
    forensicsResult := state.forensicsResult
    policyVerdict
    reportText := state.reportText
    verdict := if compliant.truthy then .compliant else .non_compliant
    confidence
    hallucinationPct := hallucinationScore
    errors := state.errors
    injectionDuringExtraction := flagged.truthy || state.errors.any (·.injectionDetected)
    injectionMatchedPatterns := matchedPatterns }

/-- A row of review decisions, before the table gives it its key and its time. -/
structure ReviewDecision where
  sessionId : Str
  receiptRef : Str
  systemVerdict : Str
  confidence : Json
  hallucinationPct : Json
  humanDecision : Str
  reviewerNotes : Option Str

/-- The row that `record_review_decision` adds. -/
def recordReviewDecision (sessionId receiptRef : Str) (display : Display)
    (humanDecision notes : Str) : ReviewDecision where
  sessionId
  receiptRef
  systemVerdict := display.verdict.value
  confidence := display.confidence
  hallucinationPct := display.hallucinationPct
  humanDecision
  reviewerNotes := if notes = [] then none else some notes

/-! ### The web components -/

/-- Truth in JavaScript, in which empty lists and objects are true. -/
def jsTruthy : Json → Bool
  | .arr _ => true
  | .obj _ => true
  | v => v.truthy

/-- `policy?.compliant ?? true`, taken for its truth. -/
def compliantOr (policy : Json) : Bool :=
  match policy with
  | .obj items =>
      match items.lookup "compliant".toList with
      | none => true
      | some .null => true
      | some v => jsTruthy v
  | _ => true

/-- Whether the badge of `VerdictCard` says "Compliant". -/
def VerdictCard.compliant (policy : Json) : Bool := compliantOr policy

/-- What `decide` of `HumanDecisionPanel` posts to `/v1/review-decisions`, which stores it. -/
def HumanDecisionPanel.decide (sessionId receiptRef : Str) (policy confidence : Json)
    (hallucinationPct : Json) (humanDecision notes : Str) : ReviewDecision where
  sessionId
  receiptRef
  systemVerdict :=
    (if compliantOr policy then SystemVerdict.compliant else .non_compliant).value
  confidence
  hallucinationPct
  humanDecision
  reviewerNotes := some notes

end SentinelAI
