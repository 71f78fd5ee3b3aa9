import SentinelAI.Gateway.Encoding
import SentinelAI.Properties.GatewayProtocol

/-!
# Properties — GatewayEncoding

The decision protocol of the gateway, for requests and answers of Python's own strings.

* `decisionProtocol_of_encodes`: a run whose fingerprints are taken follows the protocol, since the
  run on its texts does.
* `decisionProtocol_iff`: no other run returns.
* `runPipeline_ofTexts`: `runPipeline` on texts is this run on them.
-/

namespace SentinelAI.Py
open Support

/-- What a run that returns `result` logs, calls and answers. -/
structure DecisionProtocol (env : PipelineEnv) (messages : List Message) (route : Option PyStr)
    (policy : GatewayPolicy) (application : Option PyStr) (result : GatewayResult) : Prop where
  returns : (runPipeline env messages route policy application).result = some result
  /-- The stages are one legal path: the one of the branch the run takes. -/
  path : ∃ path : GatewayPath,
    (runPipeline env messages route policy application).audit.map (·.get "stage") =
      path.stages.map .str ∧
    (path = .refused ↔ blockedRequest env.inspector policy (texts messages) ≠ none) ∧
    (path = .answered ↔ ∃ llm, providerAnswer env messages route policy = some (.ok llm))
  requestId : ∀ event ∈ (runPipeline env messages route policy application).audit,
    event.get "request_id" = .str result.requestId
  final : FinalDecision (runPipeline env messages route policy application).audit result.decision
  /-- `generate` is not called on a blocked request. -/
  refused : blockedRequest env.inspector policy (texts messages) ≠ none →
    (runPipeline env messages route policy application).sent = none
  /-- `generate` is called on nothing but the messages that the request policy leaves. -/
  sent : (runPipeline env messages route policy application).sent =
    (providerAnswer env messages route policy).map fun _ => outbound env messages policy
  /-- No second answer of a provider has a part in the run. -/
  once : ∀ providerFor, providerAnswer { env with providerFor } messages route policy =
      providerAnswer env messages route policy →
    runPipeline { env with providerFor } messages route policy application =
      runPipeline env messages route policy application
  outcome : Consistent result
  /-- Where the scan of an answer finds something, the policy decides what is returned of it, and
  the answer itself is returned under `allow` only. -/
  response : ∀ llm, providerAnswer env messages route policy = some (.ok llm) →
    ∃ text, llm.text = .ofStr text ∧ ((env.inspector.check text).found = true →
      result.output = (match policy.responsePiiAction with
        | .allow => some text
        | .redact => some (env.inspector.redact text)
        | .block => none) ∧
      (env.analyzer.Unbracketed text → result.output = some text →
        policy.responsePiiAction = .allow))

variable {env : PipelineEnv} {messages : List Message} {route : Option PyStr}
  {policy : GatewayPolicy} {application : Option PyStr}

/-- What the text run is answered. -/
theorem providerAnswer_onTexts :
    SentinelAI.providerAnswer (env.onTexts messages route policy) (texts messages)
        (route.map PyStr.escaped) policy =
      (providerAnswer env messages route policy).map fun answer => match answer with
        | .error e => .error (e.text PyStr.escape)
        | .ok llm => .ok (llm.texts PyStr.escape) := by
  have blocked : blockedRequest (env.onTexts messages route policy) policy (texts messages) =
    blockedRequest env.inspector policy (texts messages) := rfl
  unfold SentinelAI.providerAnswer providerAnswer
  rw [blocked, providerFor_onTexts]
  split
  · cases env.providerFor route <;> rfl
  · rfl

theorem answered_onTexts {llm : LLMResponse} :
    providerAnswer env messages route policy = some (.ok llm) →
    SentinelAI.providerAnswer (env.onTexts messages route policy) (texts messages)
      (route.map PyStr.escaped) policy = some (.ok (llm.texts PyStr.escape)) :=
  fun h => by rw [providerAnswer_onTexts, h]; rfl

/-- A run depends on the provider through one answer. -/
theorem runPipeline_congr {providerFor : Option PyStr → Option Provider}
    (h : providerAnswer { env with providerFor } messages route policy =
      providerAnswer env messages route policy) :
    runPipeline { env with providerFor } messages route policy application =
      runPipeline env messages route policy application := by
  unfold providerAnswer at h
  unfold runPipeline
  have taken (text : PyStr) :
    fingerprint { env with providerFor } text = fingerprint env text := rfl
  have blocked : blockedRequest { env with providerFor }.inspector policy (texts messages) =
    blockedRequest env.inspector policy (texts messages) := rfl
  have out : outbound { env with providerFor } messages policy = outbound env messages policy := rfl
  simp only [taken, blocked, out] at h ⊢
  cases fingerprint env (untrusted messages) with
  | none => rfl
  | some _ =>
      dsimp only
      cases hb : blockedRequest env.inspector policy (texts messages) with
      | some reason => rfl
      | none =>
          rw [if_pos hb, if_pos hb] at h
          dsimp only
          cases hr : providerFor route <;> cases hr' : env.providerFor route <;>
            rw [hr, hr'] at h
          · rfl
          · cases h
          · cases h
          · rename_i provider' provider
            have answers : provider' (outbound env messages policy) =
              provider (outbound env messages policy) := Option.some.inj h
            dsimp only
            rw [answers]
            rfl

theorem decisionProtocol_of_encodes (h : Encodes env messages route policy) :
    ∃ result, DecisionProtocol env messages route policy application result := by
  have run := @runPipeline_of_encodes env messages route policy application h
  have onTexts := SentinelAI.decisionProtocol (env.onTexts messages route policy) (texts messages)
    (route.map PyStr.escaped) policy (application.map PyStr.escaped)
  refine ⟨(SentinelAI.runPipeline (env.onTexts messages route policy) (texts messages)
    (route.map PyStr.escaped) policy (application.map PyStr.escaped)).result, ?_⟩
  exact
    { returns := by rw [run]; rfl
      path := by
        rw [run]
        obtain ⟨path, hs, hr, ha⟩ := onTexts.path
        refine ⟨path, hs, hr, ha.trans ?_⟩
        rw [providerAnswer_onTexts]
        rcases providerAnswer env messages route policy with _ | _ | llm <;> simp
      requestId := by rw [run]; exact onTexts.requestId
      final := by rw [run]; exact onTexts.final
      refused := fun hb => by
        rw [run, providerAnswer, if_neg hb]
        rfl
      sent := by rw [run]; rfl
      once := fun _ => runPipeline_congr
      outcome := onTexts.outcome
      response := fun llm answered => by
        refine ⟨llm.text.escaped, (PyStr.ofStr_render (h.answer llm answered)).symm, ?_⟩
        exact onTexts.response _ (answered_onTexts answered) }

/-- **The decision protocol.**  A run returns, and follows the protocol, exactly when what it takes
the fingerprint of has a UTF-8 encoding. -/
theorem decisionProtocol_iff (env : PipelineEnv) (messages : List Message) (route : Option PyStr)
    (policy : GatewayPolicy) (application : Option PyStr) :
    (∃ result, DecisionProtocol env messages route policy application result) ↔
      Encodes env messages route policy := by
  refine ⟨fun ⟨result, h⟩ => ?_, decisionProtocol_of_encodes⟩
  have returns : (runPipeline env messages route policy application).result.isSome = true :=
    congrArg Option.isSome h.returns
  exact runPipeline_result.mp returns

/-! ### Runs on texts -/

section OfTexts

variable {env : SentinelAI.PipelineEnv} {messages : List SentinelAI.Message} {route : Option Str}
  {policy : GatewayPolicy} {application : Option Str}

theorem outbound_ofTexts : outbound (.ofTexts env) (messages.map .ofText) policy =
    (SentinelAI.requestPolicy env policy messages).1.map .ofText := by
  have same : texts (messages.map .ofText) = messages := map_text_ofText messages
  unfold outbound SentinelAI.requestPolicy
  rw [same]
  have checked : (PipelineEnv.ofTexts env).inspector.check (SentinelAI.untrusted messages) =
    env.check (SentinelAI.untrusted messages) := rfl
  rw [checked]
  split
  · rw [List.map_map, List.map_map]
    refine List.map_congr_left fun m _ => ?_
    have escaped : (Message.ofText m).content.escaped = m.content := PyStr.escaped_ofStr _
    by_cases hs : m.role = .system
    · exact (if_pos hs).trans (congrArg Message.ofText (if_pos hs).symm)
    · refine (if_neg hs).trans (Eq.trans ?_ (congrArg Message.ofText (if_neg hs).symm))
      rw [escaped]
      rfl
  · rfl

theorem escaped_ofStr_route (route : Option Str) :
    (route.map PyStr.ofStr).map PyStr.escaped = route := by
  cases route <;> simp

theorem providerAnswer_ofTexts :
    providerAnswer (.ofTexts env) (messages.map .ofText) (route.map .ofStr) policy =
      (SentinelAI.providerAnswer env messages route policy).map answerOfTexts := by
  have same : texts (messages.map .ofText) = messages := map_text_ofText messages
  unfold providerAnswer SentinelAI.providerAnswer
  rw [same, outbound_ofTexts]
  have blocked : blockedRequest (PipelineEnv.ofTexts env).inspector policy messages =
    blockedRequest env policy messages := rfl
  have asked : (PipelineEnv.ofTexts env).providerFor (route.map .ofStr) =
      (env.providerFor route).map Provider.ofTexts := by
    dsimp only [PipelineEnv.ofTexts]
    rw [escaped_ofStr_route]
  rw [blocked, asked]
  split
  · cases env.providerFor route with
    | none => rfl
    | some provider => exact congrArg some (ofTexts_map_ofText provider _)
  · rfl

/-- **On texts, the run is the one on texts.** -/
theorem runPipeline_ofTexts :
    runPipeline (.ofTexts env) (messages.map .ofText) (route.map .ofStr) policy
        (application.map .ofStr) =
      returned (SentinelAI.runPipeline env messages route policy application)
        ((SentinelAI.runPipeline env messages route policy application).sent.map
          (·.map .ofText)) := by
  have encodes : Encodes (.ofTexts env) (messages.map .ofText) (route.map .ofStr) policy := by
    refine ⟨utf8_untrusted.mpr ?_, fun llm answered => ?_⟩
    · simp [Message.ofText]
    · rw [providerAnswer_ofTexts] at answered
      obtain ⟨_ | llm', -, h⟩ := Option.map_eq_some_iff.mp answered
      · cases h
      · cases h
        exact PyStr.utf8_ofStr _
  have same : texts (messages.map .ofText) = messages := map_text_ofText messages
  have answers := @providerAnswer_onTexts (.ofTexts env) (messages.map .ofText)
    (route.map .ofStr) policy
  rw [providerAnswer_ofTexts, same, escaped_ofStr_route, Option.map_map] at answers
  have answers_same : SentinelAI.providerAnswer
      ((PipelineEnv.ofTexts env).onTexts (messages.map .ofText) (route.map .ofStr) policy) messages
        route policy = SentinelAI.providerAnswer env messages route policy := by
    rw [answers]
    rcases SentinelAI.providerAnswer env messages route policy with _ | e | llm <;>
      simp [answerOfTexts]
  have run : SentinelAI.runPipeline
      ((PipelineEnv.ofTexts env).onTexts (messages.map .ofText) (route.map .ofStr) policy) messages
        route policy application = SentinelAI.runPipeline env messages route policy application :=
    @SentinelAI.runPipeline_congr env messages route policy application _ answers_same
  rw [runPipeline_of_encodes encodes, same, escaped_ofStr_route, escaped_ofStr_route, run,
    runPipeline_sent_providerAnswer, providerAnswer_ofTexts, outbound_ofTexts, Option.map_map,
    Option.map_map]
  rfl

end OfTexts

/-- A run with no engine and no monitoring, in front of a provider that answers with `text`. -/
def sayEnv (text : PyStr) : PipelineEnv where
  U := Ucd.ascii
  analyzer := none
  sha256 text := text
  requestId := "r1"
  providerFor _ := some fun _ => .ok ⟨text, 1, 1, 1, .ofStr "m", .ofStr "groq"⟩
  eventSink := false

/-- A lone surrogate in a message ends the run before anything is logged, and one in an answer ends
it after the provider has been called; there is no decision either time. -/
theorem not_decisionProtocol_surrogate :
    let lone : PyStr := [.surrogate 0]
    let asked := runPipeline (sayEnv (.ofStr "hi")) [⟨.user, lone⟩] none {} none
    let told := runPipeline (sayEnv lone) [⟨.user, .ofStr "hello"⟩] none {} none
    asked.result = none ∧ asked.audit = [] ∧
      told.result = none ∧ told.sent = some [⟨.user, .ofStr "hello"⟩] ∧
      told.audit.map (·.get "stage") = ["request_received".toList, "request_inspected",
        "request_policy", "provider_called"].map .str ∧
      (¬ ∃ result, DecisionProtocol (sayEnv (.ofStr "hi")) [⟨.user, lone⟩] none {} none result) ∧
      ¬ ∃ result, DecisionProtocol (sayEnv lone) [⟨.user, .ofStr "hello"⟩] none {} none result := by
  intro lone asked told
  have unasked : asked.result = none := rfl
  have clear : blockedRequest (sayEnv lone).inspector {} (texts [⟨.user, .ofStr "hello"⟩]) = none :=
    by decide +kernel
  have ended : told = _ := runPipeline_of_not_utf8 (by decide) (if_pos clear)
    PyStr.not_utf8_surrogate
  have untold : told.result = none := by rw [ended]; rfl
  refine ⟨unasked, rfl, untold, by rw [ended]; decide +kernel, by rw [ended]; rfl, ?_, ?_⟩
  · rintro ⟨result, h⟩
    exact nomatch unasked.symm.trans h.returns
  · rintro ⟨result, h⟩
    exact nomatch untold.symm.trans h.returns

end SentinelAI.Py
