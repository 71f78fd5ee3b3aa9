import SentinelAI.Proxy.InjectionDetector
import SentinelAI.Proxy.PiiScanner
import SentinelAI.Proxy.Provider

/-!
# Gateway — Pipeline

`gateway/pipeline.py`: inspection of a request, policy, the provider, inspection of its answer,
policy again.  A run returns the result together with what it did on the way: the audit events, the
monitoring events, and the messages that were sent to a provider.

* `runPipeline_sent`: a request that is not blocked is sent as the request policy leaves it.
* `runPipeline_output`: an answer is the provider's text, as the response policy leaves it.
-/

namespace SentinelAI
open Support

inductive PIIAction where
  | allow
  | redact
  | block
deriving DecidableEq, Repr

def PIIAction.value : PIIAction → Str
  | .allow => "allow"
  | .redact => "redact"
  | .block => "block"

inductive GatewayDecision where
  | ALLOW
  | BLOCK
  | ERROR
deriving DecidableEq, Repr

def GatewayDecision.value : GatewayDecision → Str
  | .ALLOW => "ALLOW"
  | .BLOCK => "BLOCK"
  | .ERROR => "ERROR"

structure GatewayPolicy where
  blockOnInjection : Bool := true
  requestPiiAction : PIIAction := .redact
  responsePiiAction : PIIAction := .redact
  storeRawContent : Bool := false

structure GatewayResult where
  requestId : Str
  decision : GatewayDecision
  statusCode : Nat
  output : Option Str
  reason : Str
  provider : Option Str := none
  model : Option Str := none
  requestInspection : Json := .obj []
  responseInspection : Json := .obj []
  requestModified : Bool := false
  responseModified : Bool := false

/-- What `event_sink` is called with. -/
structure GatewayEvent where
  eventType : EventType
  severity : Severity
  category : Str
  application : Option Str
  summary : Str
  details : Json

/-- What a run leaves behind. -/
structure PipelineRun where
  result : GatewayResult
  audit : List Json
  events : List GatewayEvent
  /-- The messages a provider was called with. -/
  sent : Option (List Message)

/-- What a run is given by its surroundings: the two scanners' parameters, the hash, the drawn id,
the router (which raises `KeyError` on an unknown route), and whether there is an event sink. -/
structure PipelineEnv where
  U : Ucd
  analyzer : Analyzer
  sha256 : Str → Str
  requestId : Str
  providerFor : Option Str → Option Provider
  eventSink : Bool

variable (env : PipelineEnv)

def PipelineEnv.check (text : Str) : PIIResult := checkPii env.U env.analyzer text

def PipelineEnv.redact (text : Str) : Str := (redactPii env.U env.analyzer text).1

def fingerprint (text : Str) : List (Str × Json) :=
  [("length", .int text.length), ("sha256", .str (env.sha256 text))]

def audit (stage : Str) (policy : GatewayPolicy) (raw : Option Str) (fields : List (Str × Json)) :
    Json :=
  let event : List (Str × Json) := [("request_id", .str env.requestId), ("stage", .str stage)]
  let stored (text : Str) : List (Str × Json) :=
    if policy.storeRawContent then [("raw", .str (env.redact text))] else []
  let content : List (Str × Json) :=
    match raw with
    | none => []
    | some text => [("content", .obj (fingerprint env text ++ stored text))]
  .obj (event ++ fields ++ content)

def emit (eventType : EventType) (severity : Severity) (category summary : Str)
    (application : Option Str) (details : List (Str × Json)) : List GatewayEvent :=
  if env.eventSink then
    [⟨eventType, severity, category, application, summary,
      .obj (("request_id", .str env.requestId) :: details)⟩]
  else []

/-- The outbound messages and `request_modified`. -/
def requestPolicy (policy : GatewayPolicy) (messages : List Message) : List Message × Bool :=
  if (env.check (untrusted messages)).found ∧ policy.requestPiiAction = .redact then
    -- system messages are neither inspected nor redacted
    (messages.map fun m => if m.role = .system then m else ⟨m.role, env.redact m.content⟩, true)
  else (messages, false)

/-- The output and `response_modified`. -/
def responsePolicy (policy : GatewayPolicy) (text : Str) : Str × Bool :=
  if (env.check text).found ∧ policy.responsePiiAction = .redact then (env.redact text, true)
  else (text, false)

def piiInspection (pii : PIIResult) : Str × Json :=
  ("pii", .obj [("found", .bool pii.found), ("types", .strs pii.types)])

/-- Why a request is blocked before a provider is called, if it is. -/
def blockedRequest (policy : GatewayPolicy) (messages : List Message) : Option Str :=
  if (checkInjection env.U (untrusted messages)).flagged ∧ policy.blockOnInjection then
    some "Request matched a known attack pattern."
  else if (env.check (untrusted messages)).found ∧ policy.requestPiiAction = .block then
    some "Request contained PII/secrets and policy is 'block'."
  else none

def requestEvents (policy : GatewayPolicy) (messages : List Message)
    (application : Option Str) : List GatewayEvent :=
  let injection := checkInjection env.U (untrusted messages)
  let pii := env.check (untrusted messages)
  (if injection.flagged then
    emit env .attack_attempt .high "prompt_injection"
      ("Matched: ".toList ++ join ", " injection.matchedPatterns ++ ".".toList) application
      [("matched_patterns", .strs injection.matchedPatterns),
        ("blocked", .bool policy.blockOnInjection)]
  else []) ++
  if pii.found then
    emit env (if policy.requestPiiAction = .block then .request_blocked else .policy_violation)
      .medium "sensitive_data_inbound"
      ("Request contained: ".toList ++ join ", " pii.types ++ ".".toList) application
      [("types", .strs pii.types), ("action", .str policy.requestPiiAction.value)]
  else []

def responseEvents (policy : GatewayPolicy) (llm : LLMResponse) (application : Option Str) :
    List GatewayEvent :=
  let pii := env.check llm.text
  if pii.found then
    emit env (if policy.responsePiiAction = .block then .request_blocked else .policy_violation)
      (if "api_key".toList ∈ pii.types then .high else .medium) "sensitive_information_disclosure"
      ("Response contained: ".toList ++ join ", " pii.types ++ ".".toList) application
      [("types", .strs pii.types), ("action", .str policy.responsePiiAction.value),
        ("provider", .str llm.provider), ("model", .str llm.model)]
  else []

def requestInspection (messages : List Message) : List (Str × Json) :=
  let injection := checkInjection env.U (untrusted messages)
  [("injection", .obj [("flagged", .bool injection.flagged),
      ("matched_patterns", .strs injection.matchedPatterns)]),
    piiInspection (env.check (untrusted messages))]

/-- The result of a request that got no further than its inspection. -/
def refusal (messages : List Message) (decision : GatewayDecision) (statusCode : Nat)
    (reason : Str) : GatewayResult where
  requestId := env.requestId
  decision
  statusCode
  output := none
  reason
  requestInspection := .obj (requestInspection env messages)

section Run

variable (messages : List Message) (route : Option Str) (policy : GatewayPolicy)
  (application : Option Str)

/-- What is logged before the request policy decides. -/
def auditReceived : List Json :=
  [audit env "request_received" policy (some (untrusted messages))
      [("application", .opt .str application), ("route", .opt .str route)],
    audit env "request_inspected" policy none (requestInspection env messages)]

/-- What is logged before the provider is called. -/
def auditRouted : List Json :=
  auditReceived env messages route policy application ++
    [audit env "request_policy" policy none
      [("action", .str (if (requestPolicy env policy messages).2 then "redact" else "allow"))]]

/-- What is logged before the response policy decides. -/
def auditAnswered (llm : LLMResponse) : List Json :=
  auditRouted env messages route policy application ++
    [audit env "provider_called" policy none
        [("provider", .str llm.provider), ("model", .str llm.model),
          ("tokens_in", .int llm.tokensIn), ("tokens_out", .int llm.tokensOut),
          ("latency_ms", .int llm.latencyMs)],
      audit env "response_inspected" policy (some llm.text) [piiInspection (env.check llm.text)]]

def auditBlocked (reason stage : Str) : Json :=
  audit env "final_decision" policy none
    [("decision", .str "BLOCK"), ("stage_blocked", .str stage), ("reason", .str reason)]

def blockedRun (reason : Str) : PipelineRun where
  result := refusal env messages .BLOCK 403 reason
  audit := auditReceived env messages route policy application ++
    [auditBlocked env policy reason "request"]
  events := requestEvents env policy messages application
  sent := none

/-- The provider raises, or there is none for the route. -/
def failedRun (statusCode : Nat) (reason : Str) (sent : Option (List Message)) : PipelineRun where
  result := { refusal env messages .ERROR statusCode reason with
    requestModified := (requestPolicy env policy messages).2 }
  audit := auditRouted env messages route policy application ++
    [audit env "final_decision" policy none [("decision", .str "ERROR"), ("reason", .str reason)]]
  events := requestEvents env policy messages application
  sent

def allowedResult (llm : LLMResponse) : GatewayResult where
  requestId := env.requestId
  decision := .ALLOW
  statusCode := 200
  output := some (responsePolicy env policy llm.text).1
  reason := "Allowed."
  provider := some llm.provider
  model := some llm.model
  requestInspection := .obj (requestInspection env messages)
  responseInspection := .obj [piiInspection (env.check llm.text)]
  requestModified := (requestPolicy env policy messages).2
  responseModified := (responsePolicy env policy llm.text).2

def answeredResult (llm : LLMResponse) : GatewayResult :=
  if (env.check llm.text).found ∧ policy.responsePiiAction = .block then
    { allowedResult env messages policy llm with
      decision := .BLOCK
      statusCode := 403
      output := none
      reason := "Response contained PII/secrets and policy is 'block'."
      responseModified := false }
  else allowedResult env messages policy llm

def answeredRun (llm : LLMResponse) : PipelineRun :=
  let result := answeredResult env messages policy llm
  { result
    audit := auditAnswered env messages route policy application llm ++
      [if result.decision = .BLOCK then auditBlocked env policy result.reason "response"
        else audit env "final_decision" policy none
          [("decision", .str "ALLOW"), ("request_modified", .bool result.requestModified),
            ("response_modified", .bool result.responseModified)]]
    events := requestEvents env policy messages application ++
      responseEvents env policy llm application
    sent := some (requestPolicy env policy messages).1 }

def runPipeline : PipelineRun :=
  match blockedRequest env policy messages with
  | some reason => blockedRun env messages route policy application reason
  | none =>
      match env.providerFor route with
      | none =>
          failedRun env messages route policy application 400
            ("Unknown route '".toList ++ route.getD "None".toList ++ "'.".toList) none
      | some provider =>
          match provider (requestPolicy env policy messages).1 with
          | .error _ =>
              failedRun env messages route policy application 502 "Provider call failed."
                (some (requestPolicy env policy messages).1)
          | .ok llm => answeredRun env messages route policy application llm

end Run

/-! ### What a run sends and answers -/

variable {env} {messages : List Message} {route : Option Str} {policy : GatewayPolicy}
  {application : Option Str}

/-- The four ways a run ends. -/
theorem runPipeline_cases (env : PipelineEnv) (messages : List Message) (route : Option Str)
    (policy : GatewayPolicy) (application : Option Str) :
    (∃ reason, blockedRequest env policy messages = some reason ∧
      runPipeline env messages route policy application =
        blockedRun env messages route policy application reason) ∨
    (blockedRequest env policy messages = none ∧ env.providerFor route = none ∧
      ∃ reason, runPipeline env messages route policy application =
        failedRun env messages route policy application 400 reason none) ∨
    (∃ provider error, blockedRequest env policy messages = none ∧
      env.providerFor route = some provider ∧
      provider (requestPolicy env policy messages).1 = .error error ∧
      runPipeline env messages route policy application =
        failedRun env messages route policy application 502 "Provider call failed."
          (some (requestPolicy env policy messages).1)) ∨
    ∃ provider llm, blockedRequest env policy messages = none ∧
      env.providerFor route = some provider ∧
      provider (requestPolicy env policy messages).1 = .ok llm ∧
      runPipeline env messages route policy application =
        answeredRun env messages route policy application llm := by
  unfold runPipeline
  cases hb : blockedRequest env policy messages with
  | some reason => exact .inl ⟨reason, rfl, rfl⟩
  | none =>
      cases hr : env.providerFor route with
      | none => exact .inr (.inl ⟨rfl, rfl, _, rfl⟩)
      | some provider =>
          cases hp : provider (requestPolicy env policy messages).1 with
          | error e =>
              refine .inr (.inr (.inl ⟨provider, e, rfl, rfl, hp, ?_⟩))
              simp only [hp]
          | ok llm =>
              refine .inr (.inr (.inr ⟨provider, llm, rfl, rfl, hp, ?_⟩))
              simp only [hp]

theorem answeredResult_requestModified (llm : LLMResponse) :
    (answeredResult env messages policy llm).requestModified =
      (requestPolicy env policy messages).2 := by
  unfold answeredResult
  split <;> rfl

theorem answeredResult_output {llm : LLMResponse} {output : Str}
    (h : (answeredResult env messages policy llm).output = some output) :
    output = (responsePolicy env policy llm.text).1 := by
  unfold answeredResult at h
  split at h
  · cases h
  · exact (Option.some.inj h).symm

/-- A request that is not blocked is sent to the provider of its route as the request policy leaves
it, and the result says whether it was changed. -/
theorem runPipeline_sent (route : Option Str) (application : Option Str)
    (hb : blockedRequest env policy messages = none) :
    (∀ provider, env.providerFor route = some provider →
      (runPipeline env messages route policy application).sent =
        some (requestPolicy env policy messages).1) ∧
    (env.providerFor route = none →
      (runPipeline env messages route policy application).sent = none) ∧
    (runPipeline env messages route policy application).result.requestModified =
      (requestPolicy env policy messages).2 := by
  rcases runPipeline_cases env messages route policy application with
    ⟨reason, hb', -⟩ | ⟨-, hr, reason, hrun⟩ | ⟨provider, e, -, hr, -, hrun⟩ |
    ⟨provider, llm, -, hr, -, hrun⟩
  · rw [hb] at hb'
    cases hb'
  all_goals rw [hrun, hr]
  · exact ⟨fun _ h => (nomatch h), fun _ => rfl, rfl⟩
  · exact ⟨fun _ _ => rfl, fun h => (nomatch h), rfl⟩
  · exact ⟨fun _ _ => rfl, fun h => (nomatch h), answeredResult_requestModified llm⟩

/-- An output is the text of the answer, as the response policy leaves it. -/
theorem runPipeline_output {output : Str}
    (h : (runPipeline env messages route policy application).result.output = some output) :
    ∃ provider llm, env.providerFor route = some provider ∧
      provider (requestPolicy env policy messages).1 = .ok llm ∧
      output = (responsePolicy env policy llm.text).1 := by
  rcases runPipeline_cases env messages route policy application with
    ⟨reason, -, hrun⟩ | ⟨-, -, reason, hrun⟩ | ⟨provider, e, -, -, -, hrun⟩ |
    ⟨provider, llm, -, hr, hp, hrun⟩ <;> rw [hrun] at h
  · cases h
  · cases h
  · cases h
  · exact ⟨provider, llm, hr, hp, answeredResult_output h⟩

end SentinelAI
