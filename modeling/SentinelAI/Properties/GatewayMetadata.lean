import SentinelAI.Properties.GatewayProtocol

/-!
# Properties — GatewayMetadata

What two runs of the gateway's pipeline have to share for their trails to be the same: of a text its
length, its hash and what the scanners find in it, of an answer besides these what the provider says
of itself.

* `runPipeline_metadataOnly`: two such runs log the same, and send the same to the event sink.
-/

namespace SentinelAI
open Support

/-! ### Two runs -/

variable {env₁ env₂ : PipelineEnv} {m₁ m₂ : List Message} {route : Option Str}
  {policy : GatewayPolicy} {application : Option Str}

/-- Two runs are named alike, and both have an event sink or none has. -/
structure SameLog (env₁ env₂ : PipelineEnv) : Prop where
  requestId : env₁.requestId = env₂.requestId
  eventSink : env₁.eventSink = env₂.eventSink

/-- Two texts have one length and one hash, and the scanner finds the same in both. -/
structure SameText (env₁ env₂ : PipelineEnv) (t₁ t₂ : Str) : Prop where
  length : t₁.length = t₂.length
  sha256 : env₁.sha256 t₁ = env₂.sha256 t₂
  check : env₁.check t₁ = env₂.check t₂

/-- The texts that are inspected of two requests also match the same attack patterns. -/
structure SameRequest (env₁ env₂ : PipelineEnv) (m₁ m₂ : List Message) : Prop
    extends SameText env₁ env₂ (untrusted m₁) (untrusted m₂) where
  injection : checkInjection env₁.U (untrusted m₁) = checkInjection env₂.U (untrusted m₂)

/-- Two answers differ at most in their texts. -/
structure SameAnswer (env₁ env₂ : PipelineEnv) (a₁ a₂ : LLMResponse) : Prop
    extends SameText env₁ env₂ a₁.text a₂.text where
  provider : a₁.provider = a₂.provider
  model : a₁.model = a₂.model
  tokensIn : a₁.tokensIn = a₂.tokensIn
  tokensOut : a₁.tokensOut = a₂.tokensOut
  latencyMs : a₁.latencyMs = a₂.latencyMs

/-- What the providers of two runs do: none is called, both raise, or both answer. -/
inductive SameOutcome (env₁ env₂ : PipelineEnv) :
    Option (Except ProviderError LLMResponse) → Option (Except ProviderError LLMResponse) →
      Prop where
  | none : SameOutcome env₁ env₂ none none
  | failed (e₁ e₂ : ProviderError) : SameOutcome env₁ env₂ (some (.error e₁)) (some (.error e₂))
  | answered {a₁ a₂ : LLMResponse} (h : SameAnswer env₁ env₂ a₁ a₂) :
      SameOutcome env₁ env₂ (some (.ok a₁)) (some (.ok a₂))

/-! ### What is logged -/

theorem audit_none_congr (hl : SameLog env₁ env₂) (stage : Str) (fields : List (Str × Json)) :
    audit env₁ stage policy none fields = audit env₂ stage policy none fields := by
  simp only [audit, hl.requestId]

/-- Of a text that is logged, no more is seen than what the two texts share. -/
theorem audit_some_congr (hraw : policy.storeRawContent = false) (hl : SameLog env₁ env₂)
    {t₁ t₂ : Str} (h : SameText env₁ env₂ t₁ t₂) (stage : Str) (fields : List (Str × Json)) :
    audit env₁ stage policy (some t₁) fields = audit env₂ stage policy (some t₂) fields := by
  simp [audit, fingerprint, hraw, hl.requestId, h.length, h.sha256]

theorem emit_congr (hl : SameLog env₁ env₂) : emit env₁ = emit env₂ := by
  funext eventType severity category summary application details
  simp only [emit, hl.requestId, hl.eventSink]

namespace SameRequest

variable (hr : SameRequest env₁ env₂ m₁ m₂)
include hr

theorem requestInspection_eq : requestInspection env₁ m₁ = requestInspection env₂ m₂ := by
  simp only [requestInspection, hr.injection, hr.check]

theorem blockedRequest_eq : blockedRequest env₁ policy m₁ = blockedRequest env₂ policy m₂ := by
  simp only [blockedRequest, hr.injection, hr.check]

/-- Both requests are modified, or none is. -/
theorem modified_eq : (requestPolicy env₁ policy m₁).2 = (requestPolicy env₂ policy m₂).2 := by
  unfold requestPolicy
  rw [hr.check]
  split <;> rfl

theorem requestEvents_eq (hl : SameLog env₁ env₂) :
    requestEvents env₁ policy m₁ application = requestEvents env₂ policy m₂ application := by
  simp only [requestEvents, hr.injection, hr.check, emit_congr hl]

theorem auditReceived_eq (hraw : policy.storeRawContent = false) (hl : SameLog env₁ env₂) :
    auditReceived env₁ m₁ route policy application =
      auditReceived env₂ m₂ route policy application := by
  simp only [auditReceived, audit_some_congr hraw hl hr.toSameText, audit_none_congr hl,
    hr.requestInspection_eq]

theorem auditRouted_eq (hraw : policy.storeRawContent = false) (hl : SameLog env₁ env₂) :
    auditRouted env₁ m₁ route policy application =
      auditRouted env₂ m₂ route policy application := by
  simp only [auditRouted, hr.auditReceived_eq hraw hl, hr.modified_eq, audit_none_congr hl]

end SameRequest

namespace SameAnswer

variable {a₁ a₂ : LLMResponse} (ha : SameAnswer env₁ env₂ a₁ a₂)
include ha

theorem responseEvents_eq (hl : SameLog env₁ env₂) :
    responseEvents env₁ policy a₁ application = responseEvents env₂ policy a₂ application := by
  simp only [responseEvents, ha.check, ha.provider, ha.model, emit_congr hl]

theorem auditAnswered_eq (hraw : policy.storeRawContent = false) (hl : SameLog env₁ env₂)
    (hr : SameRequest env₁ env₂ m₁ m₂) :
    auditAnswered env₁ m₁ route policy application a₁ =
      auditAnswered env₂ m₂ route policy application a₂ := by
  simp only [auditAnswered, hr.auditRouted_eq hraw hl, ha.provider, ha.model, ha.tokensIn,
    ha.tokensOut, ha.latencyMs, ha.check, audit_none_congr hl,
    audit_some_congr hraw hl ha.toSameText]

/-- Both answers are modified, or none is. -/
theorem modified_eq : (responsePolicy env₁ policy a₁.text).2 =
    (responsePolicy env₂ policy a₂.text).2 := by
  unfold responsePolicy
  rw [ha.check]
  split <;> rfl

variable (policy) in
/-- The decisions on two answers are one, with one reason. -/
theorem answeredResult_eq (hr : SameRequest env₁ env₂ m₁ m₂) :
    (answeredResult env₁ m₁ policy a₁).decision = (answeredResult env₂ m₂ policy a₂).decision ∧
    (answeredResult env₁ m₁ policy a₁).reason = (answeredResult env₂ m₂ policy a₂).reason ∧
    (answeredResult env₁ m₁ policy a₁).requestModified =
      (answeredResult env₂ m₂ policy a₂).requestModified ∧
    (answeredResult env₁ m₁ policy a₁).responseModified =
      (answeredResult env₂ m₂ policy a₂).responseModified := by
  refine ⟨?_, ?_, ?_, ?_⟩
  · unfold answeredResult
    rw [ha.check]
    split <;> rfl
  · unfold answeredResult
    rw [ha.check]
    split <;> rfl
  · rw [answeredResult_requestModified, answeredResult_requestModified, hr.modified_eq]
  · unfold answeredResult
    rw [ha.check]
    split
    · rfl
    · exact ha.modified_eq

end SameAnswer

/-! ### Two trails -/

section Ends

variable {env : PipelineEnv} {messages : List Message}
  (hb : blockedRequest env policy messages = none)
include hb

/-- A run that is not blocked ends as the answer of its provider says. -/
theorem runPipeline_of_unknown (h : providerAnswer env messages route policy = none) :
    runPipeline env messages route policy application =
      failedRun env messages route policy application 400
        ("Unknown route '".toList ++ route.getD "None".toList ++ "'.".toList) none := by
  rw [providerAnswer_of_not_blocked hb] at h
  simp only [runPipeline, hb, Option.map_eq_none_iff.mp h]

theorem runPipeline_of_failed {e : ProviderError}
    (h : providerAnswer env messages route policy = some (.error e)) :
    runPipeline env messages route policy application =
      failedRun env messages route policy application 502 "Provider call failed."
        (some (requestPolicy env policy messages).1) := by
  rw [providerAnswer_of_not_blocked hb] at h
  obtain ⟨provider, hp, ha⟩ := Option.map_eq_some_iff.mp h
  simp only [runPipeline, hb, hp, ha]

theorem runPipeline_of_answered {llm : LLMResponse}
    (h : providerAnswer env messages route policy = some (.ok llm)) :
    runPipeline env messages route policy application =
      answeredRun env messages route policy application llm := by
  rw [providerAnswer_of_not_blocked hb] at h
  obtain ⟨provider, hp, ha⟩ := Option.map_eq_some_iff.mp h
  simp only [runPipeline, hb, hp, ha]

end Ends

/-- Two runs log the same and send the same to the event sink. -/
def SameTrail (r₁ r₂ : PipelineRun) : Prop := r₁.audit = r₂.audit ∧ r₁.events = r₂.events

section Trails

variable (hraw : policy.storeRawContent = false) (hl : SameLog env₁ env₂)
  (hr : SameRequest env₁ env₂ m₁ m₂)
include hraw hl hr

theorem sameTrail_blockedRun (reason : Str) :
    SameTrail (blockedRun env₁ m₁ route policy application reason)
      (blockedRun env₂ m₂ route policy application reason) := by
  refine ⟨?_, hr.requestEvents_eq hl⟩
  simp only [blockedRun, auditBlocked, hr.auditReceived_eq hraw hl, audit_none_congr hl]

theorem sameTrail_failedRun (statusCode : Nat) (reason : Str)
    (sent₁ sent₂ : Option (List Message)) :
    SameTrail (failedRun env₁ m₁ route policy application statusCode reason sent₁)
      (failedRun env₂ m₂ route policy application statusCode reason sent₂) := by
  refine ⟨?_, hr.requestEvents_eq hl⟩
  simp only [failedRun, hr.auditRouted_eq hraw hl, audit_none_congr hl]

theorem sameTrail_answeredRun {a₁ a₂ : LLMResponse} (ha : SameAnswer env₁ env₂ a₁ a₂) :
    SameTrail (answeredRun env₁ m₁ route policy application a₁)
      (answeredRun env₂ m₂ route policy application a₂) := by
  obtain ⟨decision, reason, request, response⟩ := ha.answeredResult_eq policy hr
  refine ⟨?_, ?_⟩
  · simp only [answeredRun, auditBlocked, ha.auditAnswered_eq hraw hl hr, decision, reason, request,
      response, audit_none_congr hl]
  · simp only [answeredRun, hr.requestEvents_eq hl, ha.responseEvents_eq hl]

end Trails

/-- **The trail is metadata only.**  With no raw content stored, two runs under one policy, for one
route and application, log the same and send the same to the event sink, where their texts have one
length, one hash and one inspection, and their providers raise, or answer alike. -/
theorem runPipeline_metadataOnly (hraw : policy.storeRawContent = false)
    (hl : SameLog env₁ env₂) (hr : SameRequest env₁ env₂ m₁ m₂)
    (ho : SameOutcome env₁ env₂ (providerAnswer env₁ m₁ route policy)
      (providerAnswer env₂ m₂ route policy)) :
    SameTrail (runPipeline env₁ m₁ route policy application)
      (runPipeline env₂ m₂ route policy application) := by
  cases hb₂ : blockedRequest env₂ policy m₂ with
  | some reason =>
      have hb₁ : blockedRequest env₁ policy m₁ = some reason := hr.blockedRequest_eq.trans hb₂
      simp only [runPipeline, hb₁, hb₂]
      exact sameTrail_blockedRun hraw hl hr reason
  | none =>
      have hb₁ : blockedRequest env₁ policy m₁ = none := hr.blockedRequest_eq.trans hb₂
      generalize h₁ : providerAnswer env₁ m₁ route policy = o₁ at ho
      generalize h₂ : providerAnswer env₂ m₂ route policy = o₂ at ho
      cases ho with
      | none =>
          rw [runPipeline_of_unknown hb₁ h₁, runPipeline_of_unknown hb₂ h₂]
          exact sameTrail_failedRun hraw hl hr _ _ _ _
      | failed e₁ e₂ =>
          rw [runPipeline_of_failed hb₁ h₁, runPipeline_of_failed hb₂ h₂]
          exact sameTrail_failedRun hraw hl hr _ _ _ _
      | answered ha =>
          rw [runPipeline_of_answered hb₁ h₁, runPipeline_of_answered hb₂ h₂]
          exact sameTrail_answeredRun hraw hl hr ha

/-- The echo, with the SHA-256 of the one text that it is sent and answers. -/
def hashedEcho : PipelineEnv :=
  { echoEnv with
    sha256 := fun _ => "8f434346648f6b96df89dda901c5176b10a6d83961dd3c1ac88b59b2dc327aa4"
    eventSink := true }

/-- Two system prompts before one message. -/
theorem runPipeline_metadataOnly_system :
    SameTrail (runPipeline hashedEcho [⟨.system, "Be brief"⟩, ⟨.user, "hi"⟩] none {} none)
      (runPipeline hashedEcho [⟨.user, "hi"⟩] none {} none) :=
  runPipeline_metadataOnly rfl ⟨rfl, rfl⟩ ⟨⟨rfl, rfl, rfl⟩, rfl⟩
    (.answered ⟨⟨rfl, rfl, rfl⟩, rfl, rfl, rfl, rfl, rfl⟩)

end SentinelAI
