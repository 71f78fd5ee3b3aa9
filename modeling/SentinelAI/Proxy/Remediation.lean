import SentinelAI.Proxy.Models

/-!
# Proxy — Remediation

`proxy/remediation.py`: static guidance for each category of test, with what the project says of
itself.
-/

namespace SentinelAI
open Support

structure Remediation where
  observed : Str
  analysis : Str
  securityImpact : Str
  expectedFix : Str
  whyItAddresses : Str
  componentsToReview : List Str
  additionalControls : List Str
  verificationGuidance : Str
  confidence : Str

namespace Remediation

def prompt_injection : Remediation where
  observed := "The attack input reached the model without being flagged by the injection detector."
  analysis :=
    "The detector's pattern set did not match this phrasing of an instruction-override attempt."
  securityImpact :=
    "An attacker can override intended behavior via crafted input, bypassing the guardrail " ++
      "meant to catch it."
  expectedFix := "Add or tighten the detector pattern that missed this input."
  whyItAddresses :=
    "A matching pattern causes the request to be blocked before it reaches the model."
  componentsToReview :=
    ["proxy/redteam/attack_library.py",
     "proxy/middleware/injection_detector.py"]
  additionalControls :=
    ["Keep untrusted content out of the system role.",
     "Re-run the suite to confirm the block."]
  verificationGuidance :=
    "Retest this finding after the pattern change; it must transition FAIL -> PASS with no " ++
      "other test regressing."
  confidence := "HIGH CONFIDENCE"

def jailbreak : Remediation where
  observed := "A role-override or persona-switch attempt was not blocked by the detector."
  analysis :=
    "The phrasing used to request a persona/role change fell outside the current pattern set."
  securityImpact :=
    "A successful jailbreak can unlock behavior the system prompt was meant to restrict."
  expectedFix := "Extend role-override / persona patterns for the missed phrasing."
  whyItAddresses :=
    "Matching the phrasing causes the request to be blocked before reaching the model."
  componentsToReview :=
    ["proxy/redteam/attack_library.py",
     "proxy/middleware/injection_detector.py"]
  additionalControls :=
    ["Keep a hard-scoped system prompt so a partial bypass cannot unlock general behavior."]
  verificationGuidance :=
    "Retest this finding after the pattern change; it must transition FAIL -> PASS."
  confidence := "HIGH CONFIDENCE"

def system_prompt_extraction : Remediation where
  observed := "A request asking the model to reveal its system prompt was not blocked."
  analysis := "The extraction phrasing used fell outside the current pattern set."
  securityImpact :=
    "A leaked system prompt can expose internal instructions and make other attacks easier to " ++
      "craft."
  expectedFix := "Block the extraction phrasing in the detector."
  whyItAddresses :=
    "Matching the phrasing causes the request to be blocked before reaching the model."
  componentsToReview := ["proxy/redteam/attack_library.py"]
  additionalControls :=
    ["Never place secrets or credentials in system prompts — assume any system prompt can " ++
      "eventually leak."]
  verificationGuidance :=
    "Retest this finding after the pattern change; it must transition FAIL -> PASS."
  confidence := "HIGH CONFIDENCE"

def sensitive_information_disclosure : Remediation where
  observed :=
    "Model output contained a sensitive-data pattern (PII, secret, or credential) that was not " ++
      "caught."
  analysis := "The PII/secret scanner's pattern or entity-type set did not match this instance."
  securityImpact :=
    "Sensitive data reaching a caller can violate privacy requirements and leak credentials."
  expectedFix :=
    "Extend proxy/middleware/pii_scanner.py for the missed type and set the response policy to " ++
      "redact or block."
  whyItAddresses := "A matched type is redacted or blocked before the response reaches the caller."
  componentsToReview := ["proxy/middleware/pii_scanner.py"]
  additionalControls := ["Gateway deployments: set GATEWAY_RESPONSE_PII_ACTION to redact or block."]
  verificationGuidance :=
    "Retest this finding after the scanner change; it must transition FAIL -> PASS."
  confidence := "HIGH CONFIDENCE"

def unsafe_output_behavior : Remediation where
  observed := "Model output matched a category considered unsafe for this test but was not flagged."
  analysis :=
    "No automated harmful-content classifier exists for this category yet — the finding is based " ++
      "on a static check, not model-based classification."
  securityImpact :=
    "Unsafe output reaching a caller can cause real harm depending on the application built on " ++
      "top of this guardrail."
  expectedFix :=
    "Review the output manually and, if a real gap exists, wire a moderation check into the " ++
      "evaluator."
  whyItAddresses := "A working classifier would catch this category going forward."
  componentsToReview := ["proxy/engine/plugins/unsafe_output_tests.py"]
  additionalControls := []
  verificationGuidance := "Manual review required before this can be retested automatically."
  confidence := "REQUIRES INVESTIGATION"

def agent_policy_bypass : Remediation where
  observed :=
    "An agent policy evaluation resolved to a decision other than the one the test expected."
  analysis :=
    "The evaluator in proxy/agent_policy.py did not apply default-deny or canonical matching as " ++
      "expected for this input."
  securityImpact :=
    "An incorrect policy decision could allow an unauthorized tool action or block a legitimate " ++
      "one."
  expectedFix := "Fix the evaluator so the request resolves to the expected decision."
  whyItAddresses :=
    "Correct evaluation logic produces the correct decision for this and equivalent inputs."
  componentsToReview := ["proxy/agent_policy.py"]
  additionalControls :=
    ["Keep default-deny and exact canonical matching intact for any future change here."]
  verificationGuidance :=
    "Retest this finding after the evaluator fix; it must transition FAIL -> PASS with no other " ++
      "agent-policy test regressing."
  confidence := "HIGH CONFIDENCE"

/-- `_DEFAULT` -/
def DEFAULT : Remediation where
  observed := "A security test recorded a FAIL result."
  analysis := "No category-specific guidance is registered for this test category."
  securityImpact := "Unknown without further investigation — treat as a real gap until reviewed."
  expectedFix :=
    "Reproduce with the recorded input, identify the guardrail that should have caught it, and " ++
      "fix it."
  whyItAddresses := "N/A — investigation needed before a specific fix can be recommended."
  componentsToReview := []
  additionalControls := []
  verificationGuidance :=
    "Re-run the suite after any change; the finding must transition FAIL -> PASS."
  confidence := "INSUFFICIENT EVIDENCE"

end Remediation

/-- `_REMEDIATION` -/
def REMEDIATION : List (Str × Remediation) :=
  [("prompt_injection", .prompt_injection),
    ("jailbreak", .jailbreak),
    ("system_prompt_extraction", .system_prompt_extraction),
    ("sensitive_information_disclosure", .sensitive_information_disclosure),
    ("unsafe_output_behavior", .unsafe_output_behavior),
    ("agent_policy_bypass", .agent_policy_bypass)]

/-- `_project_context_notes`: only what was declared on the project. -/
def projectContextNotes (project : Option Project) : List Str :=
  match project with
  | none => []
  | some p =>
      let note (label : Str) (value : Option Str) : List Str :=
        match value with
        | none => []
        | some v => if v = [] then [] else [label ++ v]
      ["Target: \"".toList ++ p.name ++ "\" (".toList ++ p.targetType ++ ").".toList] ++
        note "Repository: " p.repoUrl ++ note "Project notes: " p.description

/-- `remediation_for` -/
def remediationFor (category : Str) (project : Option Project) : Json :=
  let base := (REMEDIATION.lookup category).getD .DEFAULT
  .obj [("observed", .str base.observed), ("analysis", .str base.analysis),
    ("security_impact", .str base.securityImpact), ("expected_fix", .str base.expectedFix),
    ("why_it_addresses", .str base.whyItAddresses),
    ("components_to_review", .strs base.componentsToReview),
    ("additional_controls", .strs base.additionalControls),
    ("verification_guidance", .str base.verificationGuidance),
    ("confidence", .str base.confidence),
    ("project_context", .strs (projectContextNotes project))]

end SentinelAI
