import SentinelAI.Proxy.Generate
import SentinelAI.Proxy.PyMessages

/-!
# Proxy — PyGenerate

`POST /v1/generate` on Python's own strings.  The checks of a request read a lone surrogate like any
character that is no letter, digit or white space, but two things ask for an encoding: a row of the
call log is bound by SQLite, and an answer is rendered.  Either raises `UnicodeEncodeError` on a
lone surrogate, which nothing catches; recording an event catches its own.  A row is not bound with
a count of tokens beyond 64 bits either, and the model of texts leaves that out too.

* `generateFor_cases`: a request is refused before a provider is called, or one is called.
* `generate_ofTexts`: on texts, the call is the one on texts.
-/

namespace SentinelAI.Py
open Support

structure ProviderConfig where
  provider : Option ProviderName
  apiKey : Option PyStr

structure GenerateRequest where
  sessionId : PyStr
  operation : Operation
  messages : List Message
  schemaName : Option PyStr
  groundingContext : Option PyStr
  projectId : Int
  providerConfig : Option ProviderConfig

/-- What a call leaves behind. -/
structure Generated where
  result : Except Raised (Nat × GenerateResponse)
  db : Db
  counts : SessionCounts
  /-- The messages a provider was called with. -/
  sent : Option (List Message)

/-- The request as its checks read it. -/
def GenerateRequest.texts (req : GenerateRequest) : SentinelAI.GenerateRequest where
  sessionId := req.sessionId.replaced
  operation := req.operation
  messages := req.messages.map (·.text PyStr.replace)
  schemaName := req.schemaName.map PyStr.replaced
  groundingContext := req.groundingContext.map PyStr.replaced
  projectId := req.projectId
  providerConfig := req.providerConfig.map fun c => ⟨c.provider, c.apiKey.map PyStr.replaced⟩

def ProviderError.message : ProviderError → PyStr
  | .failed message => message
  | .missing_credentials message => message

variable (cfg : Config) (tick : Tick) (build : ProviderName → Option PyStr → Provider)
  (req : GenerateRequest)

/-- The provider that `provider_config` names, or the default one. -/
def activeProvider (provider : Provider) : Provider :=
  match req.providerConfig with
  | none => provider
  | some config =>
      match config.provider with
      | none => provider
      | some name => build name config.apiKey

/-- An exit that does `g`, on texts, from the database `db`: its row may not be bound, and then
nothing is stored; or its answer may not be rendered once the row is. -/
def leave (db : Db) (binds renders : Prop) [Decidable binds] [Decidable renders]
    (sent : Option (List Message)) (g : SentinelAI.Generated) : Generated :=
  if ¬ binds then ⟨.error .unhandled, db, g.counts, sent⟩
  else if ¬ renders then ⟨.error .unhandled, g.db, g.counts, sent⟩
  else ⟨g.result, g.db, g.counts, sent⟩

/-- What is read of an answer: its text as the checks read it, its names as they are logged. -/
def LLMResponse.read (llm : LLMResponse) : SentinelAI.LLMResponse :=
  ⟨llm.text.replaced, llm.tokensIn, llm.tokensOut, llm.latencyMs, llm.model.escaped,
    llm.provider.escaped⟩

/-- The database after the inspection of an answer.  An event that cannot be bound is not
recorded. -/
def scanned (llm : LLMResponse) (db : Db) : Db :=
  if llm.model.Utf8 then SentinelAI.scanned cfg tick req.texts llm.read db else db

/-- SQLite takes the integer: one of 64 bits. -/
def Fits (n : Int) : Prop := -2 ^ 63 ≤ n ∧ n < 2 ^ 63

instance (n : Int) : Decidable (Fits n) := inferInstanceAs (Decidable (_ ∧ _))

/-- The row of an answered call can be bound. -/
def Binds (llm : LLMResponse) : Prop :=
  req.sessionId.Utf8 ∧ llm.provider.Utf8 ∧ llm.model.Utf8 ∧ Fits llm.tokensIn ∧ Fits llm.tokensOut

instance (llm : LLMResponse) : Decidable (Binds req llm) :=
  inferInstanceAs (Decidable (_ ∧ _ ∧ _ ∧ _ ∧ _))

/-- `model_validate_json` of the text: a string without an encoding is not valid. -/
def validateJson (text : PyStr) (model : SchemaModel) (raw : Str) : Option Json :=
  if text.Utf8 then cfg.modelValidateJson model raw else none

/-- The provider has answered. -/
def answered (llm : LLMResponse) (db : Db) (counts : SessionCounts) : Generated :=
  let db := scanned cfg tick req llm db
  let guardrails := answeredGuardrails cfg req.texts llm.read
  let usage := answeredUsage tick llm.read
  match req.texts.schemaName.filter (· ≠ []) with
  | none =>
      leave db (Binds req llm) llm.text.Utf8 (some req.messages)
        (succeed tick req.texts (.str llm.read.text) usage guardrails db counts)
  | some name =>
      match validateStructuredOutput (validateJson cfg llm.text) name fun _ => llm.read.text with
      | .ok (value, retried) =>
          leave db (Binds req llm) True (some req.messages)
            (succeed tick req.texts value usage { guardrails with schemaValid := true, retried } db
              counts)
      | .error .SchemaValidationFailed =>
          leave db (Binds req llm) True (some req.messages)
            (refuse cfg tick req.texts 422 .schema_validation_failed
              "Structured output failed validation after retry." usage
              { guardrails with schemaValid := false } none db counts (some req.texts.messages))
      | .error .KeyError => ⟨.error .unhandled, db, counts, some req.messages⟩

/-- The provider is called. -/
def called (provider : Provider) (db : Db) (counts : SessionCounts) : Generated :=
  match activeProvider build req provider req.messages with
  | .ok llm => answered cfg tick req llm db counts
  | .error (.missing_credentials message) =>
      leave db req.sessionId.Utf8 message.Utf8 (some req.messages)
        (refuse cfg tick req.texts 400 .provider_credentials_missing message.replaced noUsage
          (inspection cfg req.texts) none db counts (some req.texts.messages))
  | .error (.failed message) =>
      leave db req.sessionId.Utf8 message.Utf8 (some req.messages)
        (refuse cfg tick req.texts 502 .provider_failed message.replaced noUsage
          (inspection cfg req.texts) none db counts (some req.texts.messages))

/-- What is done for the owner of the project. -/
def generateFor (provider : Provider) (db : Db) (counts : SessionCounts) (user : User) :
    Generated :=
  let injection := (inspection cfg req.texts).injection
  let length := (inboundText req.texts).length
  if length > MAX_INPUT_CHARS then
    leave db req.sessionId.Utf8 True none
      (refuse cfg tick req.texts 413 .input_too_large "Input exceeds 50000 character limit." noUsage
        {} (some (requestEvent req.texts .request_blocked "low" "input_size"
          "Input over 50000 chars rejected." [("length", .int length)])) db counts none)
  else
    let db := inspected cfg tick req.texts db
    if injection.flagged then
      leave db req.sessionId.Utf8 True none
        (refuse cfg tick req.texts 400 .injection_detected
          "Inbound content matched a known attack pattern." noUsage (inspection cfg req.texts)
          (some (requestEvent req.texts .attack_attempt "high" "prompt_injection"
            ("Blocked; matched: ".toList ++ join ", " injection.matchedPatterns ++ ".".toList)
            [("matched_patterns", .strs injection.matchedPatterns), ("blocked", .bool true)]))
          db counts none)
    else
      let (allowed, counts) :=
        checkAndIncrement counts (quotaKey user) cfg.settings.rateLimitPerSession
      if allowed then called cfg tick build req provider db counts
      else
        leave db req.sessionId.Utf8 True none
          (refuse cfg tick req.texts 429 .rate_limit_exceeded "Per-session call limit reached."
            noUsage (inspection cfg req.texts)
            (some (requestEvent req.texts .request_blocked "low" "rate_limit"
              "Per-session call limit reached." [])) db counts none)

def generate (provider : Provider) (db : Db) (counts : SessionCounts) (user : User) : Generated :=
  match ownedProject db req.projectId user.id with
  | .error e => ⟨.error e, db, counts, none⟩
  | .ok _ => generateFor cfg tick build req provider db counts user

/-! ### Where a call ends -/

variable {cfg tick build req}

section Leave

variable {db : Db} {binds renders : Prop} [Decidable binds] [Decidable renders]
  {sent : Option (List Message)} {g : SentinelAI.Generated}

/-- An exit whose row is bound and whose answer is rendered. -/
theorem leave_of (hb : binds) (hr : renders) :
    leave db binds renders sent g = ⟨g.result, g.db, g.counts, sent⟩ := by
  rw [leave, if_neg (not_not.mpr hb), if_neg (not_not.mpr hr)]

/-- Any other raises. -/
theorem leave_of_not (h : ¬ (binds ∧ renders)) :
    (leave db binds renders sent g).result = .error .unhandled := by
  unfold leave
  split
  · rfl
  · rename_i hb
    rw [if_pos fun hr => h ⟨not_not.mp hb, hr⟩]

end Leave

/-- A request is refused before a provider is called, or one is called. -/
theorem generateFor_cases (cfg : Config) (tick : Tick)
    (build : ProviderName → Option PyStr → Provider) (req : GenerateRequest) (provider : Provider)
    (db : Db) (counts : SessionCounts) (user : User) :
    (¬ Called cfg req.texts counts user ∧ ∃ statusCode code message usage guardrails event db'
        counts', statusCode ≠ 200 ∧ db'.callLogs = db.callLogs ∧
      generateFor cfg tick build req provider db counts user =
        leave db' req.sessionId.Utf8 True none (refuse cfg tick req.texts statusCode code message
          usage guardrails event db' counts' none)) ∨
    (Called cfg req.texts counts user ∧ ∃ counts',
      generateFor cfg tick build req provider db counts user =
        called cfg tick build req provider (inspected cfg tick req.texts db) counts') := by
  unfold generateFor Called
  dsimp only
  by_cases hl : (inboundText req.texts).length > MAX_INPUT_CHARS
  · rw [if_pos hl]
    exact .inl ⟨fun h => absurd h.1 (by omega), _, _, _, _, _, _, db, _, by decide, rfl, rfl⟩
  · rw [if_neg hl]
    cases hf : (inspection cfg req.texts).injection.flagged with
    | true =>
        rw [if_pos rfl]
        exact .inl ⟨fun h => (nomatch h.2.1), _, _, _, _, _, _, _, _, by decide,
          callLogs_inspected db, rfl⟩
    | false =>
        rw [if_neg (by decide), checkAndIncrement]
        by_cases hq : counts (quotaKey user) ≥ cfg.settings.rateLimitPerSession
        · rw [if_pos hq]
          dsimp only
          rw [if_neg (by decide)]
          exact .inl ⟨fun h => absurd h.2.2 (by omega), _, _, _, _, _, _, _, _, by decide,
            callLogs_inspected db, rfl⟩
        · rw [if_neg hq]
          dsimp only
          rw [if_pos rfl]
          exact .inr ⟨⟨by omega, rfl, by omega⟩, _, rfl⟩

theorem callLogs_scanned (llm : LLMResponse) (db : Db) :
    (scanned cfg tick req llm db).callLogs = db.callLogs := by
  unfold scanned
  split
  · exact SentinelAI.callLogs_scanned llm.read db
  · rfl

/-! ### On texts -/

def GenerateRequest.ofTexts (req : SentinelAI.GenerateRequest) : GenerateRequest where
  sessionId := .ofStr req.sessionId
  operation := req.operation
  messages := req.messages.map .ofText
  schemaName := req.schemaName.map .ofStr
  groundingContext := req.groundingContext.map .ofStr
  projectId := req.projectId
  providerConfig := req.providerConfig.map fun c => ⟨c.provider, c.apiKey.map .ofStr⟩

/-- `build_provider` on texts. -/
def buildOfTexts (sdks : Sdks) (name : ProviderName) (apiKey : Option PyStr) : Provider :=
  .ofTexts (buildProvider sdks name (apiKey.map PyStr.escaped))

theorem map_replaced_ofStr (s : Option Str) : (s.map PyStr.ofStr).map PyStr.replaced = s := by
  cases s <;> simp

@[simp] theorem texts_request (req : SentinelAI.GenerateRequest) :
    (GenerateRequest.ofTexts req).texts = req := by
  have config : ((req.providerConfig.map fun c => ProviderConfig.mk c.provider
      (c.apiKey.map PyStr.ofStr)).map fun c => SentinelAI.ProviderConfig.mk c.provider
        (c.apiKey.map PyStr.replaced)) = req.providerConfig := by
    rcases req.providerConfig with _ | ⟨name, apiKey⟩
    · rfl
    · dsimp only [Option.map_some]
      rw [map_replaced_ofStr]
  rw [GenerateRequest.texts, GenerateRequest.ofTexts]
  dsimp only
  rw [PyStr.replaced_ofStr, map_text_ofText, map_replaced_ofStr, map_replaced_ofStr, config]

theorem read_ofTexts (llm : SentinelAI.LLMResponse) : (LLMResponse.ofTexts llm).read = llm := by
  simp [LLMResponse.ofTexts, LLMResponse.read]

theorem answerOfTexts_ok {answer : Except SentinelAI.ProviderError SentinelAI.LLMResponse}
    {llm : LLMResponse} (h : answerOfTexts answer = .ok llm) :
    ∃ llm', answer = .ok llm' ∧ llm = .ofTexts llm' := by
  cases answer with
  | error e => cases h
  | ok llm' =>
      cases h
      exact ⟨llm', rfl, rfl⟩

theorem answerOfTexts_error {answer : Except SentinelAI.ProviderError SentinelAI.LLMResponse}
    {e : ProviderError} (h : answerOfTexts answer = .error e) : e.message.Utf8 := by
  cases answer with
  | error e' =>
      cases h
      cases e' <;> exact PyStr.utf8_ofStr _
  | ok llm => cases h

/-- What a call on texts leaves behind, with any strings. -/
def Generated.ofTexts (g : SentinelAI.Generated) : Generated :=
  ⟨g.result, g.db, g.counts, g.sent.map (·.map .ofText)⟩

/-- An exit of a call on texts. -/
theorem leave_ofTexts {db : Db} {binds renders : Prop} [Decidable binds] [Decidable renders]
    {sent : Option (List Message)} {g : SentinelAI.Generated} (hb : binds) (hr : renders)
    (hs : g.sent.map (·.map .ofText) = sent) : leave db binds renders sent g = .ofTexts g := by
  rw [leave_of hb hr, ← hs]
  rfl

theorem activeProvider_ofTexts (req : SentinelAI.GenerateRequest) (provider : SentinelAI.Provider) :
    activeProvider (buildOfTexts tick.sdks) (.ofTexts req) (.ofTexts provider) =
      .ofTexts (SentinelAI.activeProvider tick req provider) := by
  unfold activeProvider SentinelAI.activeProvider GenerateRequest.ofTexts
  cases req.providerConfig with
  | none => rfl
  | some config =>
      obtain ⟨name, apiKey⟩ := config
      cases name with
      | none => rfl
      | some name => cases apiKey <;> simp [buildOfTexts]

theorem binds_ofTexts (req : SentinelAI.GenerateRequest) {llm : SentinelAI.LLMResponse}
    (h : Fits llm.tokensIn ∧ Fits llm.tokensOut) : Binds (.ofTexts req) (.ofTexts llm) :=
  ⟨PyStr.utf8_ofStr _, PyStr.utf8_ofStr _, PyStr.utf8_ofStr _, h⟩

theorem answered_ofTexts (req : SentinelAI.GenerateRequest) {llm : SentinelAI.LLMResponse}
    (h : Fits llm.tokensIn ∧ Fits llm.tokensOut) (db : Db) (counts : SessionCounts) :
    answered cfg tick (.ofTexts req) (.ofTexts llm) db counts =
      .ofTexts (SentinelAI.answered cfg tick req llm db counts) := by
  have utf8 : (LLMResponse.ofTexts llm).text.Utf8 := PyStr.utf8_ofStr _
  have binds : Binds (.ofTexts req) (.ofTexts llm) := binds_ofTexts req h
  have valid : validateJson cfg (LLMResponse.ofTexts llm).text = cfg.modelValidateJson := by
    funext model raw
    exact if_pos utf8
  have stored : scanned cfg tick (.ofTexts req) (.ofTexts llm) db =
      SentinelAI.scanned cfg tick req llm db := by
    rw [scanned, if_pos binds.2.2.1, texts_request, read_ofTexts]
  unfold answered SentinelAI.answered
  dsimp only
  rewrite [stored, valid, texts_request, read_ofTexts]
  cases req.schemaName.filter (· ≠ []) with
  | none => exact leave_ofTexts binds utf8 rfl
  | some name =>
      dsimp only
      rcases validateStructuredOutput cfg.modelValidateJson name fun _ => llm.text with
        (_ | _) | ⟨value, retried⟩
      · rfl
      · exact leave_ofTexts binds trivial rfl
      · exact leave_ofTexts binds trivial rfl

theorem called_ofTexts {req : SentinelAI.GenerateRequest} {provider : SentinelAI.Provider}
    (h : ∀ llm, SentinelAI.activeProvider tick req provider req.messages = .ok llm →
      Fits llm.tokensIn ∧ Fits llm.tokensOut) (db : Db) (counts : SessionCounts) :
    called cfg tick (buildOfTexts tick.sdks) (.ofTexts req) (.ofTexts provider) db counts =
      .ofTexts (SentinelAI.called cfg tick req provider db counts) := by
  have asked : activeProvider (buildOfTexts tick.sdks) (.ofTexts req) (.ofTexts provider)
      (GenerateRequest.ofTexts req).messages =
        answerOfTexts (SentinelAI.activeProvider tick req provider req.messages) := by
    rw [activeProvider_ofTexts]
    exact ofTexts_map_ofText _ _
  unfold called SentinelAI.called
  rewrite [asked, texts_request]
  have session : (GenerateRequest.ofTexts req).sessionId.Utf8 := PyStr.utf8_ofStr _
  rcases ha : SentinelAI.activeProvider tick req provider req.messages with
    (message | message) | llm
  · dsimp only [answerOfTexts, ProviderError.ofText]
    rewrite [PyStr.replaced_ofStr]
    exact leave_ofTexts session (PyStr.utf8_ofStr _) rfl
  · dsimp only [answerOfTexts, ProviderError.ofText]
    rewrite [PyStr.replaced_ofStr]
    exact leave_ofTexts session (PyStr.utf8_ofStr _) rfl
  · exact answered_ofTexts req (h llm ha) db counts

/-- **On texts**, and counts of tokens in 64 bits, the call is the one on texts. -/
theorem generate_ofTexts (cfg : Config) {tick : Tick} {req : SentinelAI.GenerateRequest}
    {provider : SentinelAI.Provider}
    (h : ∀ llm, SentinelAI.activeProvider tick req provider req.messages = .ok llm →
      Fits llm.tokensIn ∧ Fits llm.tokensOut) (db : Db) (counts : SessionCounts) (user : User) :
    generate cfg tick (buildOfTexts tick.sdks) (.ofTexts req) (.ofTexts provider) db counts user =
      .ofTexts (SentinelAI.generate cfg tick req provider db counts user) := by
  have session : (GenerateRequest.ofTexts req).sessionId.Utf8 := PyStr.utf8_ofStr _
  have owned : ownedProject db (GenerateRequest.ofTexts req).projectId user.id =
    ownedProject db req.projectId user.id := rfl
  unfold generate SentinelAI.generate
  rewrite [owned]
  cases ownedProject db req.projectId user.id with
  | error e => rfl
  | ok project =>
      dsimp only
      unfold generateFor SentinelAI.generateFor
      dsimp only
      rewrite [texts_request]
      split
      · exact leave_ofTexts session trivial rfl
      · split
        · exact leave_ofTexts session trivial rfl
        · split
          · exact called_ofTexts h _ _
          · exact leave_ofTexts session trivial rfl

end SentinelAI.Py
