import SentinelAI.Properties.Accounting
import SentinelAI.Proxy.Api

/-!
# Properties — ProxyMetadata

What two requests to `POST /v1/generate` have to share for the rows they leave to be the same, the
times aside: all but the contents of the messages, the grounding context and the key of
`provider_config`; and of these, their length, what is found in them, and how the call comes out.

* `sameRecords_generate`: two such calls leave tables that look alike.
* `handle_generate_metadataOnly`: the same, for two requests to the process.
-/

namespace SentinelAI
open Support

/-! ### Rows without their times -/

def CallLog.untimed (r : CallLog) : CallLog := { r with createdAt := 0 }

def SecurityEvent.untimed (e : SecurityEvent) : SecurityEvent := { e with createdAt := 0 }

theorem view_callLog : Table.View CallLog CallLog.untimed where
  key h := congrArg (·.id) h
  setKey i h := congrArg (fun r : CallLog => { r with id := i }) h

theorem view_securityEvent : Table.View SecurityEvent SecurityEvent.untimed where
  key h := congrArg (·.id) h
  setKey i h := congrArg (fun e : SecurityEvent => { e with id := i }) h

/-- The calls and the events that two databases hold are the same, the times aside. -/
structure SameRecords (d₁ d₂ : Db) : Prop where
  callLogs : d₁.callLogs.rows.map CallLog.untimed = d₂.callLogs.rows.map CallLog.untimed
  securityEvents : d₁.securityEvents.rows.map SecurityEvent.untimed =
    d₂.securityEvents.rows.map SecurityEvent.untimed

theorem SameRecords.refl (d : Db) : SameRecords d d := ⟨rfl, rfl⟩

/-! ### Two calls -/

/-- Two requests differ at most in the contents of their messages, in the grounding context and in
the key of `provider_config`. -/
structure SameButContent (r₁ r₂ : GenerateRequest) : Prop where
  sessionId : r₁.sessionId = r₂.sessionId
  operation : r₁.operation = r₂.operation
  schemaName : r₁.schemaName = r₂.schemaName
  projectId : r₁.projectId = r₂.projectId
  roles : r₁.messages.map (·.role) = r₂.messages.map (·.role)
  provider : r₁.providerConfig.map (·.provider) = r₂.providerConfig.map (·.provider)

/-- The lengths of two requests and what is found in them are the same. -/
structure SameInspection (cfg : Config) (r₁ r₂ : GenerateRequest) : Prop where
  length : (inboundText r₁).length = (inboundText r₂).length
  injection : checkInjection cfg.U (untrusted r₁.messages) =
    checkInjection cfg.U (untrusted r₂.messages)
  pii : checkPii cfg.U cfg.analyzer (untrusted r₁.messages) =
    checkPii cfg.U cfg.analyzer (untrusted r₂.messages)

/-- Two requests take the provider equally long, and the writes of the same events fail. -/
structure SameEffects (tick₁ tick₂ : Tick) : Prop where
  latencyMs : tick₁.latencyMs = tick₂.latencyMs
  eventFault : tick₁.eventFault = tick₂.eventFault

/-- Whether a text validates, and whether it was asked for twice. -/
def schemaOutcome (cfg : Config) (schemaName text : Str) : Except SchemaError Bool :=
  (validateStructuredOutput cfg.modelValidateJson schemaName fun _ => text).map (·.2)

/-- Two answers to `r₁` and `r₂` differ at most in their texts, and these are scanned, validated and
scored alike. -/
structure SameCompletion (cfg : Config) (r₁ r₂ : GenerateRequest) (a₁ a₂ : LLMResponse) :
    Prop where
  provider : a₁.provider = a₂.provider
  model : a₁.model = a₂.model
  tokensIn : a₁.tokensIn = a₂.tokensIn
  tokensOut : a₁.tokensOut = a₂.tokensOut
  pii : checkPii cfg.U cfg.analyzer a₁.text = checkPii cfg.U cfg.analyzer a₂.text
  schema : ∀ name ∈ r₁.schemaName,
    schemaOutcome cfg name a₁.text = schemaOutcome cfg name a₂.text
  hallucination : (answeredGuardrails cfg r₁ a₁).hallucination =
    (answeredGuardrails cfg r₂ a₂).hallucination

/-- Two calls of a provider come out alike. -/
inductive SameCall (cfg : Config) (r₁ r₂ : GenerateRequest) :
    Except ProviderError LLMResponse → Except ProviderError LLMResponse → Prop where
  | missing_credentials (m₁ m₂ : Str) :
      SameCall cfg r₁ r₂ (.error (.missing_credentials m₁)) (.error (.missing_credentials m₂))
  | failed (m₁ m₂ : Str) : SameCall cfg r₁ r₂ (.error (.failed m₁)) (.error (.failed m₂))
  | answered {a₁ a₂ : LLMResponse} (h : SameCompletion cfg r₁ r₂ a₁ a₂) :
      SameCall cfg r₁ r₂ (.ok a₁) (.ok a₂)

variable {cfg : Config} {tick₁ tick₂ : Tick} {r₁ r₂ : GenerateRequest} {d₁ d₂ : Db}

/-! ### What a call stores -/

theorem sameRecords_recordEvent (ht : SameEffects tick₁ tick₂) (hd : SameRecords d₁ d₂) (i : Nat)
    (e : EventFields) :
    SameRecords (d₁.recordEvent cfg tick₁ i e) (d₂.recordEvent cfg tick₂ i e) := by
  refine { hd with securityEvents := ?_ }
  unfold Db.recordEvent recordEvent
  rw [ht.eventFault]
  dsimp only
  split
  · exact hd.securityEvents
  · split
    · exact hd.securityEvents
    · split
      · exact hd.securityEvents
      · exact view_securityEvent.map_insert hd.securityEvents rfl

theorem SameButContent.requestEvent_eq (hr : SameButContent r₁ r₂) :
    requestEvent r₁ = requestEvent r₂ := by
  funext eventType severity category summary details
  simp only [requestEvent, hr.operation, hr.projectId]

variable (tick₁ tick₂) in
theorem sameRecords_logCall (hr : SameButContent r₁ r₂) (hd : SameRecords d₁ d₂) (usage : Usage)
    (guardrails : Guardrails) (errorCode : Option GenerateError) :
    SameRecords (logCall tick₁ r₁ usage guardrails errorCode d₁)
      (logCall tick₂ r₂ usage guardrails errorCode d₂) := by
  refine { hd with callLogs := view_callLog.map_insert hd.callLogs ?_ }
  simp only [callRow, CallLog.untimed, hr.projectId, hr.sessionId, hr.operation]

section Calls

variable (ht : SameEffects tick₁ tick₂) (hr : SameButContent r₁ r₂) (hd : SameRecords d₁ d₂)
include ht hr hd

/-- Two exits with one code, whatever their messages say. -/
theorem sameRecords_refuse {statusCode : Nat} {code : GenerateError} {m₁ m₂ : Str} {usage : Usage}
    {guardrails : Guardrails} {event : Option EventFields} {c₁ c₂ : SessionCounts}
    {s₁ s₂ : Option (List Message)} :
    SameRecords
      (refuse cfg tick₁ r₁ statusCode code m₁ usage guardrails event d₁ c₁ s₁).db
      (refuse cfg tick₂ r₂ statusCode code m₂ usage guardrails event d₂ c₂ s₂).db := by
  have logged := sameRecords_logCall tick₁ tick₂ hr hd usage guardrails
    (some code)
  unfold refuse
  cases event with
  | none => exact logged
  | some e => exact sameRecords_recordEvent ht logged 1 e

theorem sameRecords_inspected (hi : SameInspection cfg r₁ r₂) :
    SameRecords (inspected cfg tick₁ r₁ d₁) (inspected cfg tick₂ r₂ d₂) := by
  unfold inspected inspection
  dsimp only
  rw [hi.pii, hr.requestEvent_eq]
  split
  · exact sameRecords_recordEvent ht hd 0 _
  · exact hd

theorem sameRecords_scanned {a₁ a₂ : LLMResponse} (ha : SameCompletion cfg r₁ r₂ a₁ a₂) :
    SameRecords (scanned cfg tick₁ r₁ a₁ d₁) (scanned cfg tick₂ r₂ a₂ d₂) := by
  unfold scanned
  dsimp only
  rw [ha.pii, ha.model, ha.provider, hr.requestEvent_eq]
  split
  · exact sameRecords_recordEvent ht hd 1 _
  · exact hd

omit ht hr hd in
theorem answeredGuardrails_eq (hi : SameInspection cfg r₁ r₂) {a₁ a₂ : LLMResponse}
    (ha : SameCompletion cfg r₁ r₂ a₁ a₂) :
    answeredGuardrails cfg r₁ a₁ = answeredGuardrails cfg r₂ a₂ := by
  have hallucination := ha.hallucination
  simp only [answeredGuardrails] at hallucination
  simp only [answeredGuardrails, inspection, hi.injection, hi.pii, ha.pii, hallucination]

theorem sameRecords_answered (hi : SameInspection cfg r₁ r₂) {a₁ a₂ : LLMResponse}
    (ha : SameCompletion cfg r₁ r₂ a₁ a₂) (c₁ c₂ : SessionCounts) :
    SameRecords (answered cfg tick₁ r₁ a₁ d₁ c₁).db (answered cfg tick₂ r₂ a₂ d₂ c₂).db := by
  have scanned := sameRecords_scanned ht hr hd ha
  have guardrails := answeredGuardrails_eq hi ha
  have usage : answeredUsage tick₁ a₁ = answeredUsage tick₂ a₂ := by
    simp only [answeredUsage, ha.provider, ha.model, ha.tokensIn, ha.tokensOut, ht.latencyMs]
  unfold answered
  dsimp only
  rw [guardrails, usage, ← hr.schemaName]
  cases hs : r₁.schemaName.filter (· ≠ []) with
  | none => exact sameRecords_logCall _ _ hr scanned _ _ _
  | some name =>
      have outcome := ha.schema name (Option.mem_filter_iff.mp hs).1
      unfold schemaOutcome at outcome
      dsimp only
      -- the two texts validate alike, though not to one value
      generalize validateStructuredOutput cfg.modelValidateJson name (fun _ => a₁.text) = v₁
        at outcome ⊢
      generalize validateStructuredOutput cfg.modelValidateJson name (fun _ => a₂.text) = v₂
        at outcome ⊢
      cases v₁ with
      | error e₁ =>
          cases v₂ with
          | ok v₂ => cases outcome
          | error e₂ =>
              cases outcome
              cases e₁ with
              | KeyError => exact scanned
              | SchemaValidationFailed => exact sameRecords_refuse ht hr scanned
      | ok v₁ =>
          cases v₂ with
          | error e₂ => cases outcome
          | ok v₂ =>
              have retried : v₁.2 = v₂.2 := Except.ok.inj outcome
              dsimp only
              rw [retried]
              exact sameRecords_logCall _ _ hr scanned _ _ _

theorem sameRecords_called (hi : SameInspection cfg r₁ r₂) {p₁ p₂ : Provider}
    (hc : SameCall cfg r₁ r₂ (activeProvider tick₁ r₁ p₁ r₁.messages)
      (activeProvider tick₂ r₂ p₂ r₂.messages)) (c₁ c₂ : SessionCounts) :
    SameRecords (called cfg tick₁ r₁ p₁ d₁ c₁).db (called cfg tick₂ r₂ p₂ d₂ c₂).db := by
  have inspections : inspection cfg r₁ = inspection cfg r₂ := by
    simp only [inspection, hi.injection, hi.pii]
  unfold called
  rw [inspections]
  generalize activeProvider tick₁ r₁ p₁ r₁.messages = o₁ at hc ⊢
  generalize activeProvider tick₂ r₂ p₂ r₂.messages = o₂ at hc ⊢
  cases hc with
  | missing_credentials m₁ m₂ => exact sameRecords_refuse ht hr hd
  | failed m₁ m₂ => exact sameRecords_refuse ht hr hd
  | answered ha => exact sameRecords_answered ht hr hd hi ha c₁ c₂

end Calls

/-- **Two calls for one user** leave the same calls and events. -/
theorem sameRecords_generate (ht : SameEffects tick₁ tick₂) (hr : SameButContent r₁ r₂)
    (hi : SameInspection cfg r₁ r₂) {p₁ p₂ : Provider} {db : Db} {counts : SessionCounts}
    {user : User}
    (hc : Called cfg r₁ counts user → SameCall cfg r₁ r₂ (activeProvider tick₁ r₁ p₁ r₁.messages)
      (activeProvider tick₂ r₂ p₂ r₂.messages)) :
    SameRecords (generate cfg tick₁ r₁ p₁ db counts user).db
      (generate cfg tick₂ r₂ p₂ db counts user).db := by
  have inspected := sameRecords_inspected ht hr (.refl db) hi
  have inspections : inspection cfg r₁ = inspection cfg r₂ := by
    simp only [inspection, hi.injection, hi.pii]
  unfold generate
  rw [hr.projectId]
  cases ownedProject db r₂.projectId user.id with
  | error e => exact .refl db
  | ok project =>
      unfold generateFor
      dsimp only
      rw [hi.length, inspections, hr.requestEvent_eq]
      by_cases hl : (inboundText r₂).length > MAX_INPUT_CHARS
      · rw [if_pos hl, if_pos hl]
        exact sameRecords_refuse ht hr (.refl db)
      · rw [if_neg hl, if_neg hl]
        by_cases hf : (inspection cfg r₂).injection.flagged = true
        · rw [if_pos hf, if_pos hf]
          exact sameRecords_refuse ht hr inspected
        · rw [if_neg hf, if_neg hf]
          by_cases hq : counts (quotaKey user) < cfg.settings.rateLimitPerSession
          · have call := hc ⟨by rw [hi.length]; omega,
              by rw [inspections]; exact Bool.eq_false_of_not_eq_true hf, hq⟩
            have allowed : (checkAndIncrement counts (quotaKey user)
                cfg.settings.rateLimitPerSession).1 = true := by
              rw [checkAndIncrement, if_neg (by omega)]
            rw [if_pos allowed, if_pos allowed]
            exact sameRecords_called ht hr inspected hi call _ _
          · have refused : ¬ (checkAndIncrement counts (quotaKey user)
                cfg.settings.rateLimitPerSession).1 = true := by
              rw [checkAndIncrement, if_pos (by omega)]
              exact Bool.false_ne_true
            rw [if_neg refused, if_neg refused]
            exact sameRecords_refuse ht hr inspected

/-! ### Two requests -/

/-- Two requests under one header are let in as one user, or turned away. -/
structure SameCaller (cfg : Config) (tick₁ tick₂ : Tick) (db : Db) (header : Str) : Prop where
  gate : requireAuth cfg tick₁ .POST "/v1/generate" header =
    requireAuth cfg tick₂ .POST "/v1/generate" header
  user : getCurrentUser cfg tick₁.now db header = getCurrentUser cfg tick₂.now db header

/-- `POST /v1/generate` -/
def postGenerate (header : Str) (client : Option Str) (req : GenerateRequest) : Request :=
  ⟨header, client, .ofUser (.generate req)⟩

/-- **The rows are metadata only.**  Two requests of one caller in one state that differ at most in
content and key, are as long, are inspected alike, and come out alike where a provider is called,
leave the same calls and the same events, the times aside. -/
theorem handle_generate_metadataOnly {w : World} {header : Str} {client : Option Str}
    (hu : SameCaller cfg tick₁ tick₂ w.db header) (ht : SameEffects tick₁ tick₂)
    (hr : SameButContent r₁ r₂) (hi : SameInspection cfg r₁ r₂)
    (hc : ∀ user, getCurrentUser cfg tick₁.now w.db header = .ok user →
      Called cfg r₁ w.counts user →
      SameCall cfg r₁ r₂ (activeProvider tick₁ r₁ (getProvider tick₁.sdks) r₁.messages)
        (activeProvider tick₂ r₂ (getProvider tick₂.sdks) r₂.messages)) :
    SameRecords (handle cfg tick₁ w (postGenerate header client r₁)).2.db
      (handle cfg tick₂ w (postGenerate header client r₂)).2.db := by
  have gate₁ : (postGenerate header client r₁).gate cfg tick₁ =
    requireAuth cfg tick₂ .POST "/v1/generate" header := hu.gate
  have gate₂ : (postGenerate header client r₂).gate cfg tick₂ =
    requireAuth cfg tick₂ .POST "/v1/generate" header := rfl
  unfold handle
  rw [gate₁, gate₂]
  cases requireAuth cfg tick₂ .POST "/v1/generate" header with
  | error e => exact .refl w.db
  | ok u =>
      dsimp only [Request.dispatch, postGenerate]
      rw [hu.user] at hc ⊢
      cases hq : getCurrentUser cfg tick₂.now w.db header with
      | error e => exact .refl w.db
      | ok user => exact sameRecords_generate ht hr hi (hc user hq)

/-- The owner asks Groq under a key, which the SDK quotes when it refuses it. -/
def askWithKey (content apiKey : Str) : GenerateRequest :=
  { askAs none with
    messages := [⟨.user, content⟩]
    providerConfig := some ⟨some .groq, some apiKey⟩ }

def refusingSdks : Sdks := ⟨fun _ key _ => .error ("Invalid API key: ".toList ++ key),
  fun _ _ _ => .error [], [], []⟩

theorem sameButContent_askWithKey (c₁ c₂ k₁ k₂ : Str) :
    SameButContent (askWithKey c₁ k₁) (askWithKey c₂ k₂) := ⟨rfl, rfl, rfl, rfl, rfl, rfl⟩

/-- Nothing is found in a greeting. -/
theorem inspection_greeting {content : Str} (h : content ∈ ["hello".toList, "howdy".toList]) :
    checkInjection Ucd.ascii (untrusted [⟨.user, content⟩]) = {} ∧
      checkPii Ucd.ascii none (untrusted [⟨.user, content⟩]) = {} := by
  simp only [List.mem_cons, List.not_mem_nil, or_false] at h
  rcases h with rfl | rfl
  · exact ⟨by decide +kernel, by decide +kernel⟩
  · exact ⟨by decide +kernel, by decide +kernel⟩

theorem sameInspection_askWithKey :
    SameInspection .demo (askWithKey "hello" "gsk_a") (askWithKey "howdy" "gsk_b") := by
  have hello : checkInjection _ (untrusted [⟨.user, "hello"⟩]) = {} ∧ _ :=
    inspection_greeting (by simp)
  have howdy : checkInjection _ (untrusted [⟨.user, "howdy"⟩]) = {} ∧ _ :=
    inspection_greeting (by simp)
  have length : ∀ content ∈ ["hello".toList, "howdy".toList], ∀ apiKey,
      (inboundText (askWithKey content apiKey)).length = 5 := by
    simp [inboundText, askWithKey, join]
  exact ⟨(length _ (by simp) _).trans (length _ (by simp) _).symm, hello.1.trans howdy.1.symm,
    hello.2.trans howdy.2.symm⟩

theorem activeProvider_askWithKey {tick : Tick} (ht : tick.sdks = refusingSdks) (content : Str)
    {apiKey : Str} (h : apiKey ≠ []) (provider : Provider) (messages : List Message) :
    activeProvider tick (askWithKey content apiKey) provider messages =
      .error (.failed ("groq call failed: ".toList ++ ("Invalid API key: ".toList ++ apiKey))) := by
  have key : keyOr (some apiKey) [] = apiKey := if_neg h
  change GroqProvider tick.sdks (some apiKey) messages = _
  unfold GroqProvider
  rw [ht]
  dsimp only [refusingSdks]
  rw [key, if_neg h]

/-- Two questions under two keys, a second apart. -/
theorem handle_generate_metadataOnly_keys :
    SameRecords
      (handle .demo { Tick.zero with sdks := refusingSdks }
        ⟨{ ownerDb with users := Table.empty.insert owner }, fun _ => 0, fun _ => none⟩
        (postGenerate "Bearer a" none (askWithKey "hello" "gsk_a"))).2.db
      (handle .demo { Tick.zero with now := 1000000, sdks := refusingSdks }
        ⟨{ ownerDb with users := Table.empty.insert owner }, fun _ => 0, fun _ => none⟩
        (postGenerate "Bearer a" none (askWithKey "howdy" "gsk_b"))).2.db := by
  have let_in (tick : Tick) : requireAuth .demo tick .POST "/v1/generate" "Bearer a" = .ok () := rfl
  have owner_of (now : Time) : getCurrentUser .demo now
    { ownerDb with users := Table.empty.insert owner } "Bearer a" = .ok owner := rfl
  refine handle_generate_metadataOnly
    ⟨(let_in _).trans (let_in _).symm, (owner_of _).trans (owner_of _).symm⟩ ⟨rfl, rfl⟩
    (sameButContent_askWithKey _ _ _ _) sameInspection_askWithKey fun _ _ _ => ?_
  rw [activeProvider_askWithKey rfl _ (by decide), activeProvider_askWithKey rfl _ (by decide)]
  exact .failed _ _

end SentinelAI
