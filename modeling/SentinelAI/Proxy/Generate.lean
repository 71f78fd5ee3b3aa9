import SentinelAI.Proxy.Events
import SentinelAI.Proxy.HallucinationScorer
import SentinelAI.Proxy.InjectionDetector
import SentinelAI.Proxy.Projects
import SentinelAI.Proxy.RateLimiter

/-!
# Proxy — Generate

`POST /v1/generate`, in the order in which its function goes on: the owner, the size, the
inspection, the quota, the provider, the answer.  Each exit but one logs the call.

* `generateFor_cases`: a request is refused before a provider is called, or one is called.
-/

namespace SentinelAI
open Support

def MAX_INPUT_CHARS : Nat := 50000

/-- What a call leaves behind. -/
structure Generated where
  result : Except Raised (Nat × GenerateResponse)
  db : Db
  counts : SessionCounts
  /-- The messages a provider was called with. -/
  sent : Option (List Message) := none

def Generated.answer (g : Generated) : Answer :=
  g.result.map fun r => ⟨r.1, .json r.2.toJson⟩

def noUsage : Usage := { provider := "none", model := "none" }

variable (cfg : Config) (tick : Tick) (req : GenerateRequest)

/-- The row of a call, before the table gives it its key. -/
def callRow (usage : Usage) (guardrails : Guardrails) (errorCode : Option GenerateError) :
    CallLog where
  id := 0
  projectId := some req.projectId
  sessionId := req.sessionId
  operation := req.operation.value
  provider := usage.provider
  model := usage.model
  latencyMs := usage.latencyMs
  tokensIn := usage.tokensIn
  tokensOut := usage.tokensOut
  costEstimateUsd := usage.costEstimateUsd
  guardrails := guardrails.toJson
  errorCode
  createdAt := tick.now

/-- `_log` -/
def logCall (usage : Usage) (guardrails : Guardrails) (errorCode : Option GenerateError)
    (db : Db) : Db :=
  { db with callLogs := db.callLogs.insert (callRow tick req usage guardrails errorCode) }

/-- An exit with an error: the call is logged, an event may be recorded. -/
def refuse (statusCode : Nat) (code : GenerateError) (message : Str) (usage : Usage)
    (guardrails : Guardrails) (event : Option EventFields) (db : Db) (counts : SessionCounts)
    (sent : Option (List Message)) : Generated :=
  let logged := logCall tick req usage guardrails (some code) db
  { result := .ok (statusCode, { guardrails, usage, error := some ⟨code, message⟩ })
    db := match event with
      | none => logged
      | some e => logged.recordEvent cfg tick 1 e
    counts
    sent }

/-- An event of this request. -/
def requestEvent (eventType : EventType) (severity category summary : Str)
    (details : List (Str × Json)) : EventFields where
  eventType
  severity
  category
  source := "proxy"
  summary
  application := some req.operation.value
  details := .obj details
  projectId := some req.projectId

/-- The provider that `provider_config` names, or the default one. -/
def activeProvider (provider : Provider) : Provider :=
  match req.providerConfig with
  | none => provider
  | some config =>
      match config.provider with
      | none => provider
      | some name => buildProvider tick.sdks name config.apiKey

/-- `_session_counts` is keyed on the user. -/
def quotaKey (user : User) : Str := "user:".toList ++ strInt user.id

def inboundText : Str := join "\n" (req.messages.map (·.content))

/-- The guardrails of a call before a provider is called. -/
def inspection : Guardrails where
  injection := checkInjection cfg.U (untrusted req.messages)
  pii := checkPii cfg.U cfg.analyzer (untrusted req.messages)

/-- The database after the inspection of a request. -/
def inspected (db : Db) : Db :=
  let pii := (inspection cfg req).pii
  if pii.found then
    db.recordEvent cfg tick 0
      (requestEvent req .policy_violation "medium" "sensitive_data_inbound"
        ("Inbound content contained: ".toList ++ join ", " pii.types ++ ".".toList)
        [("types", .strs pii.types)])
  else db

/-- The database after the inspection of an answer. -/
def scanned (llm : LLMResponse) (db : Db) : Db :=
  let pii := checkPii cfg.U cfg.analyzer llm.text
  if pii.found then
    db.recordEvent cfg tick 1
      { requestEvent req .policy_violation
          (if "api_key".toList ∈ pii.types then "high" else "medium")
          "sensitive_information_disclosure"
          ("Model output contained: ".toList ++ join ", " pii.types ++ ".".toList)
          [("types", .strs pii.types), ("provider", .str llm.provider)] with
        model := some llm.model }
  else db

/-- The guardrails of a call once a provider has answered. -/
def answeredGuardrails (llm : LLMResponse) : Guardrails :=
  let piiReq := (inspection cfg req).pii
  let piiResp := checkPii cfg.U cfg.analyzer llm.text
  { inspection cfg req with
    pii := ⟨piiReq.found || piiResp.found, false,
      cfg.setOrder (piiReq.types ++ piiResp.types).dedup⟩
    hallucination := match req.groundingContext with
      | none => none
      | some context => if context = [] then none else some (scoreGrounded cfg.U llm.text context) }

def answeredUsage (llm : LLMResponse) : Usage where
  provider := llm.provider
  model := llm.model
  tokensIn := llm.tokensIn
  tokensOut := llm.tokensOut
  latencyMs := tick.latencyMs

/-- The call succeeds with `output`. -/
def succeed (output : Json) (usage : Usage) (guardrails : Guardrails) (db : Db)
    (counts : SessionCounts) : Generated where
  result := .ok (200, { output, guardrails, usage })
  db := logCall tick req usage guardrails none db
  counts
  sent := some req.messages

/-- The provider has answered.  An unknown schema name raises `KeyError`, which nothing catches. -/
def answered (llm : LLMResponse) (db : Db) (counts : SessionCounts) : Generated :=
  let db := scanned cfg tick req llm db
  let guardrails := answeredGuardrails cfg req llm
  let usage := answeredUsage tick llm
  match req.schemaName.filter (· ≠ []) with
  | none => succeed tick req (.str llm.text) usage guardrails db counts
  | some name =>
      match validateStructuredOutput cfg.modelValidateJson name fun _ => llm.text with
      | .ok (value, retried) =>
          succeed tick req value usage { guardrails with schemaValid := true, retried } db counts
      | .error .SchemaValidationFailed =>
          refuse cfg tick req 422 .schema_validation_failed
            "Structured output failed validation after retry." usage
            { guardrails with schemaValid := false } none db counts (some req.messages)
      | .error .KeyError => { result := .error .unhandled, db, counts, sent := some req.messages }

/-- The provider is called. -/
def called (provider : Provider) (db : Db) (counts : SessionCounts) : Generated :=
  match activeProvider tick req provider req.messages with
  | .ok llm => answered cfg tick req llm db counts
  | .error (.missing_credentials message) =>
      refuse cfg tick req 400 .provider_credentials_missing message noUsage (inspection cfg req)
        none db counts (some req.messages)
  | .error (.failed message) =>
      refuse cfg tick req 502 .provider_failed message noUsage (inspection cfg req) none db counts
        (some req.messages)

/-- What is done for the owner of the project. -/
def generateFor (provider : Provider) (db : Db) (counts : SessionCounts) (user : User) :
    Generated :=
  let injection := (inspection cfg req).injection
  -- the size is looked at before anything is inspected
  if (inboundText req).length > MAX_INPUT_CHARS then
    refuse cfg tick req 413 .input_too_large "Input exceeds 50000 character limit." noUsage {}
      (some (requestEvent req .request_blocked "low" "input_size" "Input over 50000 chars rejected."
        [("length", .int (inboundText req).length)])) db counts none
  else
    let db := inspected cfg tick req db
    if injection.flagged then
      refuse cfg tick req 400 .injection_detected "Inbound content matched a known attack pattern."
        noUsage (inspection cfg req)
        (some (requestEvent req .attack_attempt "high" "prompt_injection"
          ("Blocked; matched: ".toList ++ join ", " injection.matchedPatterns ++ ".".toList)
          [("matched_patterns", .strs injection.matchedPatterns), ("blocked", .bool true)]))
        db counts none
    else
      let (allowed, counts) :=
        checkAndIncrement counts (quotaKey user) cfg.settings.rateLimitPerSession
      if allowed then called cfg tick req provider db counts
      else
        refuse cfg tick req 429 .rate_limit_exceeded "Per-session call limit reached." noUsage
          (inspection cfg req)
          (some (requestEvent req .request_blocked "low" "rate_limit"
            "Per-session call limit reached." [])) db counts none

def generate (provider : Provider) (db : Db) (counts : SessionCounts) (user : User) : Generated :=
  match ownedProject db req.projectId user.id with
  | .error e => { result := .error e, db, counts }
  | .ok _ => generateFor cfg tick req provider db counts user

/-! ### Where a call ends -/

/-- A provider is called: the request is not too large, matches no attack pattern, and is within the
quota. -/
def Called (counts : SessionCounts) (user : User) : Prop :=
  (inboundText req).length ≤ MAX_INPUT_CHARS ∧ (inspection cfg req).injection.flagged = false ∧
    counts (quotaKey user) < cfg.settings.rateLimitPerSession

variable {cfg tick req}

@[simp] theorem callLogs_inspected (db : Db) :
    (inspected cfg tick req db).callLogs = db.callLogs := by
  unfold inspected
  dsimp only
  split <;> rfl

@[simp] theorem callLogs_scanned (llm : LLMResponse) (db : Db) :
    (scanned cfg tick req llm db).callLogs = db.callLogs := by
  unfold scanned
  dsimp only
  split <;> rfl

/-- A request is refused before a provider is called, or one is called. -/
theorem generateFor_cases (cfg : Config) (tick : Tick) (req : GenerateRequest) (provider : Provider)
    (db : Db) (counts : SessionCounts) (user : User) :
    (¬ Called cfg req counts user ∧ ∃ statusCode code message usage guardrails event db',
      statusCode ≠ 200 ∧ db'.callLogs = db.callLogs ∧
      generateFor cfg tick req provider db counts user =
        refuse cfg tick req statusCode code message usage guardrails event db' counts none) ∨
    (Called cfg req counts user ∧ ∃ counts', generateFor cfg tick req provider db counts user =
      called cfg tick req provider (inspected cfg tick req db) counts') := by
  unfold generateFor Called
  dsimp only
  by_cases hl : (inboundText req).length > MAX_INPUT_CHARS
  · rw [if_pos hl]
    exact .inl ⟨fun h => absurd h.1 (by omega), _, _, _, _, _, _, db, by decide, rfl, rfl⟩
  · rw [if_neg hl]
    cases hf : (inspection cfg req).injection.flagged with
    | true =>
        rw [if_pos rfl]
        exact .inl ⟨fun h => (nomatch h.2.1), _, _, _, _, _, _, _, by decide, callLogs_inspected db,
          rfl⟩
    | false =>
        rw [if_neg (by decide), checkAndIncrement]
        by_cases hq : counts (quotaKey user) ≥ cfg.settings.rateLimitPerSession
        · rw [if_pos hq]
          dsimp only
          rw [if_neg (by decide)]
          exact .inl ⟨fun h => absurd h.2.2 (by omega), _, _, _, _, _, _, _, by decide,
            callLogs_inspected db, rfl⟩
        · rw [if_neg hq]
          dsimp only
          rw [if_pos rfl]
          exact .inr ⟨⟨by omega, rfl, by omega⟩, _, rfl⟩

/-! ### What a call leaves alone -/

/-- The second database differs from the first at most in the calls and the events. -/
def OnlyLogs (d d' : Db) : Prop :=
  d' = { d with callLogs := d'.callLogs, securityEvents := d'.securityEvents }

theorem OnlyLogs.trans {d₁ d₂ d₃ : Db} (h₁ : OnlyLogs d₁ d₂) (h₂ : OnlyLogs d₂ d₃) :
    OnlyLogs d₁ d₃ := by
  rw [OnlyLogs, h₂, h₁]

theorem OnlyLogs.findings {d d' : Db} (h : OnlyLogs d d') : d'.findings = d.findings := by
  rw [show d' = _ from h]

section OnlyLogs

variable {db : Db}

theorem onlyLogs_refuse {statusCode : Nat} {code : GenerateError} {message : Str} {usage : Usage}
    {guardrails : Guardrails} {event : Option EventFields} {counts : SessionCounts}
    {sent : Option (List Message)} :
    OnlyLogs db
      (refuse cfg tick req statusCode code message usage guardrails event db counts sent).db := by
  cases event <;> rfl

theorem onlyLogs_inspected : OnlyLogs db (inspected cfg tick req db) := by
  unfold inspected
  dsimp only
  split <;> rfl

theorem onlyLogs_scanned (llm : LLMResponse) : OnlyLogs db (scanned cfg tick req llm db) := by
  unfold scanned
  dsimp only
  split <;> rfl

theorem onlyLogs_answered (llm : LLMResponse) (counts : SessionCounts) :
    OnlyLogs db (answered cfg tick req llm db counts).db := by
  have scanned_only : OnlyLogs db (scanned cfg tick req llm db) := onlyLogs_scanned llm
  refine scanned_only.trans ?_
  unfold answered
  dsimp only
  split
  · rfl
  · split
    · rfl
    · exact onlyLogs_refuse
    · rfl

theorem onlyLogs_called (provider : Provider) (counts : SessionCounts) :
    OnlyLogs db (called cfg tick req provider db counts).db := by
  unfold called
  split
  · exact onlyLogs_answered _ counts
  · exact onlyLogs_refuse
  · exact onlyLogs_refuse

/-- A call changes no table but those of the calls and the events. -/
theorem onlyLogs_generate (provider : Provider) (counts : SessionCounts) (user : User) :
    OnlyLogs db (generate cfg tick req provider db counts user).db := by
  have inspected_only : OnlyLogs db (inspected cfg tick req db) := onlyLogs_inspected
  unfold generate
  split
  · rfl
  · unfold generateFor
    dsimp only
    split
    · exact onlyLogs_refuse
    · split
      · exact inspected_only.trans onlyLogs_refuse
      · split
        · exact inspected_only.trans (onlyLogs_called provider _)
        · exact inspected_only.trans onlyLogs_refuse

end OnlyLogs

end SentinelAI
