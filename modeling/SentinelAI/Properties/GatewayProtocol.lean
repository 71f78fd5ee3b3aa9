import SentinelAI.Properties.GatewayRedaction

/-!
# Properties — GatewayProtocol

What every run of the gateway's pipeline logs, calls and answers.

* `GatewayPath` lists the legal sequences of audit stages; `runPipeline_path` says which of them a
  run takes.
* `runPipeline_congr`: a run depends on the provider through its answer to one list of messages.
* `decisionProtocol`: the whole protocol, for every run.
-/

namespace SentinelAI
open Support

/-! ### The audit trail -/

/-- The legal sequences of stages. -/
inductive GatewayPath where
  /-- Blocked before the provider. -/
  | refused
  /-- No provider for the route, or the provider raises. -/
  | failed
  | answered
deriving DecidableEq, Repr

def GatewayPath.stages : GatewayPath → List Str
  | .refused => ["request_received", "request_inspected", "final_decision"]
  | .failed => ["request_received", "request_inspected", "request_policy", "final_decision"]
  | .answered => ["request_received", "request_inspected", "request_policy", "provider_called",
      "response_inspected", "final_decision"]

/-- The last of `trail`, and nothing before it, is a final decision, and it is `decision`. -/
def FinalDecision (trail : List Json) (decision : GatewayDecision) : Prop :=
  ∃ before final, trail = before ++ [final] ∧ final.get "stage" = .str "final_decision" ∧
    final.get "decision" = .str decision.value ∧
    ∀ event ∈ before, event.get "stage" ≠ .str "final_decision"

/-- The answer of the provider, where a run gets as far as calling it. -/
def providerAnswer (env : PipelineEnv) (messages : List Message) (route : Option Str)
    (policy : GatewayPolicy) : Option (Except ProviderError LLMResponse) :=
  if blockedRequest env policy messages = none then
    (env.providerFor route).map fun provider => provider (requestPolicy env policy messages).1
  else none

section Audit

variable (env : PipelineEnv) (stage : Str) (policy : GatewayPolicy) (raw : Option Str)
  (fields : List (Str × Json))

@[simp] theorem audit_request_id :
    (audit env stage policy raw fields).get "request_id" = .str env.requestId := rfl

@[simp] theorem audit_stage : (audit env stage policy raw fields).get "stage" = .str stage := rfl

@[simp] theorem audit_decision (decision : Str) :
    (audit env stage policy raw (("decision", .str decision) :: fields)).get "decision" =
      .str decision := rfl

end Audit

variable {env : PipelineEnv} {messages : List Message} {route : Option Str}
  {policy : GatewayPolicy} {application : Option Str}

theorem finalDecision_append {before : List Json} {final : Json} {decision : GatewayDecision}
    (hs : final.get "stage" = .str "final_decision")
    (hd : final.get "decision" = .str decision.value) {stages : List Str}
    (hb : before.map (·.get "stage") = stages.map .str)
    (hn : "final_decision".toList ∉ stages) : FinalDecision (before ++ [final]) decision := by
  refine ⟨before, final, rfl, hs, hd, fun event he hf => hn ?_⟩
  have : Json.str "final_decision" ∈ stages.map .str := by
    rw [← hb, ← hf]
    exact List.mem_map_of_mem he
  simpa using this

theorem stages_received : (auditReceived env messages route policy application).map
    (·.get "stage") = ["request_received".toList, "request_inspected"].map .str := rfl

theorem stages_routed : (auditRouted env messages route policy application).map (·.get "stage") =
    ["request_received".toList, "request_inspected", "request_policy"].map .str := rfl

theorem stages_answered (llm : LLMResponse) :
    (auditAnswered env messages route policy application llm).map (·.get "stage") =
      ["request_received".toList, "request_inspected", "request_policy", "provider_called",
        "response_inspected"].map .str := rfl

/-- The decision on an answered request. -/
theorem answeredResult_decision (llm : LLMResponse) :
    (answeredResult env messages policy llm).decision = .ALLOW ∨
      (answeredResult env messages policy llm).decision = .BLOCK := by
  unfold answeredResult
  split
  · exact .inr rfl
  · exact .inl rfl

/-! ### The provider -/

theorem providerAnswer_of_blocked {reason : Str}
    (h : blockedRequest env policy messages = some reason) :
    providerAnswer env messages route policy = none := by
  rw [providerAnswer, if_neg (by rw [h]; exact nofun)]

theorem providerAnswer_of_not_blocked (h : blockedRequest env policy messages = none) :
    providerAnswer env messages route policy =
      (env.providerFor route).map fun provider => provider (requestPolicy env policy messages).1 :=
  if_pos h

/-- **A run depends on the provider through one answer**, to the messages as the request policy
leaves them; and not at all, where the request is blocked. -/
theorem runPipeline_congr {providerFor : Option Str → Option Provider}
    (h : providerAnswer { env with providerFor } messages route policy =
      providerAnswer env messages route policy) :
    runPipeline { env with providerFor } messages route policy application =
      runPipeline env messages route policy application := by
  have hb : blockedRequest { env with providerFor } policy messages =
    blockedRequest env policy messages := rfl
  have hm : requestPolicy { env with providerFor } policy messages =
    requestPolicy env policy messages := rfl
  rcases runPipeline_cases env messages route policy application with
    ⟨reason, hr, hrun⟩ | ⟨hr, hp, _, _⟩ | ⟨provider, e, hr, hp, ha, hrun⟩ |
    ⟨provider, llm, hr, hp, ha, hrun⟩
  · rw [hrun, runPipeline, hb, hr]
    rfl
  all_goals
    rw [providerAnswer_of_not_blocked hr, providerAnswer_of_not_blocked (hb.trans hr), hm, hp] at h
  · have none_for : providerFor route = none := Option.map_eq_none_iff.mp h
    simp only [runPipeline, hb, hr, hp, none_for]
    rfl
  · obtain ⟨provider', (hp' : providerFor route = some provider'), ha'⟩ :=
      Option.map_eq_some_iff.mp (h.trans (congrArg some ha))
    rw [hrun]
    simp only [runPipeline, hb, hr, hp', hm, ha']
    rfl
  · obtain ⟨provider', (hp' : providerFor route = some provider'), ha'⟩ :=
      Option.map_eq_some_iff.mp (h.trans (congrArg some ha))
    rw [hrun]
    simp only [runPipeline, hb, hr, hp', hm, ha']
    rfl

/-! ### The protocol -/

/-- The output and the status of a result are those of its decision. -/
structure Consistent (result : GatewayResult) : Prop where
  output : result.output.isSome = true ↔ result.decision = .ALLOW
  allow : result.decision = .ALLOW ↔ result.statusCode = 200
  block : result.decision = .BLOCK ↔ result.statusCode = 403
  error : result.decision = .ERROR ↔ result.statusCode = 400 ∨ result.statusCode = 502

/-- What a run logs, calls and answers. -/
structure DecisionProtocol (env : PipelineEnv) (messages : List Message) (route : Option Str)
    (policy : GatewayPolicy) (application : Option Str) (run : PipelineRun) : Prop where
  /-- The stages are one legal path: the one of the branch the run takes. -/
  path : ∃ path : GatewayPath,
    run.audit.map (·.get "stage") = path.stages.map .str ∧
    (path = .refused ↔ blockedRequest env policy messages ≠ none) ∧
    (path = .answered ↔ ∃ llm, providerAnswer env messages route policy = some (.ok llm))
  requestId : ∀ event ∈ run.audit, event.get "request_id" = .str run.result.requestId
  final : FinalDecision run.audit run.result.decision
  /-- `generate` is not called on a blocked request. -/
  refused : blockedRequest env policy messages ≠ none → run.sent = none
  called : run.sent.isSome = (providerAnswer env messages route policy).isSome
  /-- `generate` is called on nothing but the messages that the request policy leaves. -/
  sent : ∀ out ∈ run.sent, out = (requestPolicy env policy messages).1
  /-- No second answer of a provider has a part in the run. -/
  once : ∀ providerFor, providerAnswer { env with providerFor } messages route policy =
      providerAnswer env messages route policy →
    runPipeline { env with providerFor } messages route policy application = run
  outcome : Consistent run.result
  /-- Where the scan of an answer finds something, the policy decides what is returned of it, and
  the answer itself is returned under `allow` only. -/
  response : ∀ llm, providerAnswer env messages route policy = some (.ok llm) →
    (env.check llm.text).found = true →
    run.result.output = (match policy.responsePiiAction with
      | .allow => some llm.text
      | .redact => some (env.redact llm.text)
      | .block => none) ∧
    (env.analyzer.Unbracketed llm.text → run.result.output = some llm.text →
      policy.responsePiiAction = .allow)

theorem answeredResult_found {llm : LLMResponse} (hf : (env.check llm.text).found = true) :
    (answeredResult env messages policy llm).output =
      match policy.responsePiiAction with
      | .allow => some llm.text
      | .redact => some (env.redact llm.text)
      | .block => none := by
  cases ha : policy.responsePiiAction <;>
    simp [answeredResult, allowedResult, responsePolicy, hf, ha]

theorem runPipeline_path : ∃ path : GatewayPath,
    (runPipeline env messages route policy application).audit.map (·.get "stage") =
      path.stages.map .str ∧
    (path = .refused ↔ blockedRequest env policy messages ≠ none) ∧
    (path = .answered ↔ ∃ llm, providerAnswer env messages route policy = some (.ok llm)) := by
  rcases runPipeline_cases env messages route policy application with
    ⟨reason, hb, hrun⟩ | ⟨hb, hp, _, hrun⟩ | ⟨provider, e, hb, hp, ha, hrun⟩ |
    ⟨provider, llm, hb, hp, ha, hrun⟩ <;> rw [hrun]
  · exact ⟨.refused, rfl, by simp [hb], by simp [providerAnswer_of_blocked hb]⟩
  · exact ⟨.failed, rfl, by simp [hb], by simp [providerAnswer_of_not_blocked hb, hp]⟩
  · exact ⟨.failed, rfl, by simp [hb], by simp [providerAnswer_of_not_blocked hb, hp, ha]⟩
  · refine ⟨.answered, ?_, by simp [hb], by simp [providerAnswer_of_not_blocked hb, hp, ha]⟩
    simp only [answeredRun, List.map_append, stages_answered, List.map_cons]
    split <;> rfl

theorem runPipeline_final : FinalDecision (runPipeline env messages route policy application).audit
    (runPipeline env messages route policy application).result.decision := by
  rcases runPipeline_cases env messages route policy application with
    ⟨reason, hb, hrun⟩ | ⟨hb, hp, _, hrun⟩ | ⟨provider, e, hb, hp, ha, hrun⟩ |
    ⟨provider, llm, hb, hp, ha, hrun⟩ <;> rw [hrun]
  · exact finalDecision_append rfl rfl stages_received (by decide)
  · exact finalDecision_append rfl rfl stages_routed (by decide)
  · exact finalDecision_append rfl rfl stages_routed (by decide)
  · refine finalDecision_append ?_ ?_ (stages_answered llm) (by decide)
    · split <;> rfl
    · have hd : (answeredResult env messages policy llm).decision = .ALLOW ∨
        (answeredResult env messages policy llm).decision = .BLOCK := answeredResult_decision llm
      rcases hd with hd | hd <;> simp only [answeredRun, hd] <;> rfl

theorem requestId_received : ∀ event ∈ auditReceived env messages route policy application,
    event.get "request_id" = .str env.requestId :=
  List.forall_mem_cons.mpr ⟨rfl, List.forall_mem_singleton.mpr rfl⟩

theorem requestId_routed : ∀ event ∈ auditRouted env messages route policy application,
    event.get "request_id" = .str env.requestId :=
  List.forall_mem_append.mpr ⟨requestId_received, List.forall_mem_singleton.mpr rfl⟩

theorem requestId_answered (llm : LLMResponse) :
    ∀ event ∈ auditAnswered env messages route policy application llm,
      event.get "request_id" = .str env.requestId :=
  List.forall_mem_append.mpr
    ⟨requestId_routed, List.forall_mem_cons.mpr ⟨rfl, List.forall_mem_singleton.mpr rfl⟩⟩

theorem answeredResult_requestId (llm : LLMResponse) :
    (answeredResult env messages policy llm).requestId = env.requestId := by
  unfold answeredResult
  split <;> rfl

theorem runPipeline_requestId :
    ∀ event ∈ (runPipeline env messages route policy application).audit,
      event.get "request_id" =
        .str (runPipeline env messages route policy application).result.requestId := by
  rcases runPipeline_cases env messages route policy application with
    ⟨reason, hb, hrun⟩ | ⟨hb, hp, _, hrun⟩ | ⟨provider, e, hb, hp, ha, hrun⟩ |
    ⟨provider, llm, hb, hp, ha, hrun⟩ <;> rw [hrun]
  · exact List.forall_mem_append.mpr ⟨requestId_received, List.forall_mem_singleton.mpr rfl⟩
  · exact List.forall_mem_append.mpr ⟨requestId_routed, List.forall_mem_singleton.mpr rfl⟩
  · exact List.forall_mem_append.mpr ⟨requestId_routed, List.forall_mem_singleton.mpr rfl⟩
  · simp only [answeredRun, answeredResult_requestId]
    refine List.forall_mem_append.mpr ⟨requestId_answered llm, List.forall_mem_singleton.mpr ?_⟩
    split <;> rfl

theorem runPipeline_consistent :
    Consistent (runPipeline env messages route policy application).result := by
  rcases runPipeline_cases env messages route policy application with
    ⟨reason, hb, hrun⟩ | ⟨hb, hp, _, hrun⟩ | ⟨provider, e, hb, hp, ha, hrun⟩ |
    ⟨provider, llm, hb, hp, ha, hrun⟩ <;> rw [hrun]
  · constructor <;> simp [blockedRun, refusal]
  · constructor <;> simp [failedRun, refusal]
  · constructor <;> simp [failedRun, refusal]
  · by_cases hf : (env.check llm.text).found ∧ policy.responsePiiAction = .block
    · constructor <;> simp [answeredRun, answeredResult, hf]
    · constructor <;> simp [answeredRun, answeredResult, allowedResult, hf]

theorem runPipeline_refused (hb : blockedRequest env policy messages ≠ none) :
    (runPipeline env messages route policy application).sent = none := by
  obtain ⟨reason, hr⟩ := Option.ne_none_iff_exists'.mp hb
  simp only [runPipeline, hr, blockedRun]

theorem runPipeline_called :
    (runPipeline env messages route policy application).sent.isSome =
      (providerAnswer env messages route policy).isSome := by
  rcases runPipeline_cases env messages route policy application with
    ⟨reason, hb, hrun⟩ | ⟨hb, hp, _, hrun⟩ | ⟨provider, e, hb, hp, ha, hrun⟩ |
    ⟨provider, llm, hb, hp, ha, hrun⟩ <;> rw [hrun]
  · rw [providerAnswer_of_blocked hb]
    rfl
  all_goals
    rw [providerAnswer_of_not_blocked hb, hp]
    rfl

theorem runPipeline_sent_eq {out : List Message}
    (h : out ∈ (runPipeline env messages route policy application).sent) :
    out = (requestPolicy env policy messages).1 := by
  rcases runPipeline_cases env messages route policy application with
    ⟨reason, hb, hrun⟩ | ⟨hb, hp, _, hrun⟩ | ⟨provider, e, hb, hp, ha, hrun⟩ |
    ⟨provider, llm, hb, hp, ha, hrun⟩ <;> rw [hrun] at h
  · cases h
  · cases h
  · exact (Option.some.inj h).symm
  · exact (Option.some.inj h).symm

/-- What goes out, and whether anything does. -/
theorem runPipeline_sent_providerAnswer :
    (runPipeline env messages route policy application).sent =
      (providerAnswer env messages route policy).map fun _ =>
        (requestPolicy env policy messages).1 := by
  have called := @runPipeline_called env messages route policy application
  cases hs : (runPipeline env messages route policy application).sent with
  | none =>
      rw [hs] at called
      have unasked : providerAnswer env messages route policy = none :=
        Option.not_isSome_iff_eq_none.mp (by rw [← called]; exact nofun)
      rw [unasked]
      rfl
  | some out =>
      rw [hs] at called
      obtain ⟨answer, ha⟩ := Option.isSome_iff_exists.mp called.symm
      rw [ha, runPipeline_sent_eq hs]
      rfl

/-- What is returned of an answer in which something is found. -/
theorem runPipeline_response {llm : LLMResponse}
    (h : providerAnswer env messages route policy = some (.ok llm))
    (hf : (env.check llm.text).found = true) :
    (runPipeline env messages route policy application).result.output =
      match policy.responsePiiAction with
      | .allow => some llm.text
      | .redact => some (env.redact llm.text)
      | .block => none := by
  rcases runPipeline_cases env messages route policy application with
    ⟨reason, hb, hrun⟩ | ⟨hb, hp, _, hrun⟩ | ⟨provider, e, hb, hp, ha, hrun⟩ |
    ⟨provider, llm', hb, hp, ha, hrun⟩
  · rw [providerAnswer_of_blocked hb] at h
    cases h
  all_goals rw [providerAnswer_of_not_blocked hb, hp] at h
  · cases h
  · simp [ha] at h
  · have hllm : llm' = llm := by simpa [ha] using h
    have found : (answeredResult env messages policy llm).output = _ := answeredResult_found hf
    rw [hrun, ← found, hllm]
    rfl

/-- **Every run of the pipeline follows the decision protocol.** -/
theorem decisionProtocol (env : PipelineEnv) (messages : List Message) (route : Option Str)
    (policy : GatewayPolicy) (application : Option Str) :
    DecisionProtocol env messages route policy application
      (runPipeline env messages route policy application) where
  path := runPipeline_path
  requestId := runPipeline_requestId
  final := runPipeline_final
  refused := runPipeline_refused
  called := runPipeline_called
  sent _ := runPipeline_sent_eq
  once _ := runPipeline_congr
  outcome := runPipeline_consistent
  response llm h hf := by
    have returned : (runPipeline env messages route policy application).result.output = _ :=
      runPipeline_response h hf
    refine ⟨returned, fun ha hout => ?_⟩
    rw [hout] at returned
    cases haction : policy.responsePiiAction with
    | allow => rfl
    | redact =>
        rw [haction] at returned
        exact absurd (Option.some.inj returned).symm (redactPii_ne_self ha hf)
    | block =>
        rw [haction] at returned
        cases returned

/-- An address in an answer is masked. -/
example : (runPipeline echoEnv [⟨.user, "I am a@b.co"⟩] none { requestPiiAction := .allow }
    none).result.output = some "I am [REDACTED_EMAIL]".toList := by decide

end SentinelAI
