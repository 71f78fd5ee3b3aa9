import SentinelAI.Gateway.Pipeline
import SentinelAI.Proxy.PyMessages

/-!
# Gateway — Encoding

`run_pipeline` on Python's own strings.  It takes the fingerprint of the text under inspection in
its first line, and of an answer once that is scanned, and a string with a lone surrogate has none:
`text.encode("utf-8")` raises `UnicodeEncodeError`, which leaves the run without a decision.

Nothing else of a run asks for an encoding.  The labels (the route, the application, the names of
the provider and the model) are only passed on and logged, and are written here as the log writes
them.  A system message is neither inspected nor changed.

* `runPipeline_cases`: the ways a run ends.
* `runPipeline_of_encodes`: where the fingerprints are taken, the run is the one on the texts.
* `runPipeline_result`: elsewhere there is no result.
-/

namespace SentinelAI.Py
open Support

structure PipelineEnv where
  U : Ucd
  analyzer : Analyzer
  sha256 : Str → Str
  requestId : Str
  providerFor : Option PyStr → Option Provider
  eventSink : Bool

/-- What a run leaves behind. -/
structure PipelineRun where
  /-- None, where `UnicodeEncodeError` leaves the run. -/
  result : Option GatewayResult
  audit : List Json
  events : List GatewayEvent
  sent : Option (List Message)

/-- A run that returns. -/
def returned (run : SentinelAI.PipelineRun) (sent : Option (List Message)) : PipelineRun :=
  ⟨some run.result, run.audit, run.events, sent⟩

section Run

variable (env : PipelineEnv) (messages : List Message) (route : Option PyStr)
  (policy : GatewayPolicy) (application : Option PyStr)

/-- What inspects and logs, and knows no provider. -/
def PipelineEnv.inspector : SentinelAI.PipelineEnv where
  U := env.U
  analyzer := env.analyzer
  sha256 := env.sha256
  requestId := env.requestId
  providerFor _ := none
  eventSink := env.eventSink

/-- `_fingerprint`, or nothing where it raises. -/
def fingerprint (text : PyStr) : Option (List (Str × Json)) :=
  text.encode?.map (SentinelAI.fingerprint env.inspector)

/-- The texts of the messages. -/
def texts : List SentinelAI.Message := messages.map (·.text PyStr.escape)

/-- The outbound messages. -/
def outbound : List Message :=
  if (env.inspector.check (SentinelAI.untrusted (texts messages))).found ∧
      policy.requestPiiAction = .redact then
    messages.map fun m => if m.role = .system then m
      else ⟨m.role, .ofStr (env.inspector.redact m.content.escaped)⟩
  else messages

/-- A run that raises in the fingerprint of the answer: the line that holds it is not logged. -/
def unencodedRun (llm : SentinelAI.LLMResponse) : PipelineRun where
  result := none
  audit := (auditAnswered env.inspector (texts messages) (route.map PyStr.escaped) policy
    (application.map PyStr.escaped) llm).dropLast
  events := requestEvents env.inspector policy (texts messages) (application.map PyStr.escaped)
  sent := some (outbound env messages policy)

def runPipeline : PipelineRun :=
  match fingerprint env (untrusted messages) with
  | none => ⟨none, [], [], none⟩
  | some _ =>
      let route' := route.map PyStr.escaped
      let application' := application.map PyStr.escaped
      match blockedRequest env.inspector policy (texts messages) with
      | some reason =>
          returned (blockedRun env.inspector (texts messages) route' policy application' reason)
            none
      | none =>
          match env.providerFor route with
          | none =>
              returned (failedRun env.inspector (texts messages) route' policy application' 400
                ("Unknown route '".toList ++ route'.getD "None".toList ++ "'.".toList) none) none
          | some provider =>
              match provider (outbound env messages policy) with
              | .error _ =>
                  returned (failedRun env.inspector (texts messages) route' policy application' 502
                    "Provider call failed." none) (some (outbound env messages policy))
              | .ok llm =>
                  match fingerprint env llm.text with
                  | none =>
                      unencodedRun env messages route policy application (llm.texts PyStr.escape)
                  | some _ =>
                      returned (answeredRun env.inspector (texts messages) route' policy
                        application' (llm.texts PyStr.escape)) (some (outbound env messages policy))

/-- The answer of the provider, where a run gets as far as calling it. -/
def providerAnswer : Option (Except ProviderError LLMResponse) :=
  if blockedRequest env.inspector policy (texts messages) = none then
    (env.providerFor route).map fun provider => provider (outbound env messages policy)
  else none

/-- What the run takes the fingerprint of has a UTF-8 encoding: the text under inspection, and the
answer of the provider, if it is called and answers. -/
structure Encodes : Prop where
  request : (untrusted messages).Utf8
  answer : ∀ llm, providerAnswer env messages route policy = some (.ok llm) → llm.text.Utf8

end Run

variable {env : PipelineEnv} {messages : List Message} {route : Option PyStr}
  {policy : GatewayPolicy} {application : Option PyStr}

theorem fingerprint_of_utf8 {text : PyStr} (h : text.Utf8) :
    fingerprint env text = some (SentinelAI.fingerprint env.inspector text.escaped) := by
  rw [fingerprint, PyStr.encode?_of_utf8 h]
  rfl

theorem fingerprint_of_not_utf8 {text : PyStr} (h : ¬ text.Utf8) : fingerprint env text = none := by
  rw [fingerprint, PyStr.encode?_of_not_utf8 h]
  rfl

/-! ### Runs on texts -/

section Texts

variable (env messages route policy)

/-- The surroundings of the run on the texts: whatever it is sent, the provider answers with the
text of what it answers to the strings that go out. -/
def PipelineEnv.onTexts : SentinelAI.PipelineEnv :=
  { env.inspector with
    providerFor := fun _ => (env.providerFor route).map fun provider _ =>
      match provider (outbound env messages policy) with
      | .error e => .error (e.text PyStr.escape)
      | .ok llm => .ok (llm.texts PyStr.escape) }

end Texts

/-- The provider that the text run asks. -/
theorem providerFor_onTexts (route' : Option Str) :
    (env.onTexts messages route policy).providerFor route' =
      (env.providerFor route).map fun provider _ =>
        match provider (outbound env messages policy) with
        | .error e => .error (e.text PyStr.escape)
        | .ok llm => .ok (llm.texts PyStr.escape) := rfl

/-- The ways a run ends whose request has a fingerprint. -/
theorem runPipeline_cases (application : Option PyStr) (h : (untrusted messages).Utf8) :
    (∃ reason, blockedRequest env.inspector policy (texts messages) = some reason ∧
      runPipeline env messages route policy application =
        returned (blockedRun env.inspector (texts messages) (route.map PyStr.escaped) policy
          (application.map PyStr.escaped) reason) none) ∨
    (blockedRequest env.inspector policy (texts messages) = none ∧ env.providerFor route = none ∧
      runPipeline env messages route policy application =
        returned (failedRun env.inspector (texts messages) (route.map PyStr.escaped) policy
          (application.map PyStr.escaped) 400
          ("Unknown route '".toList ++ (route.map PyStr.escaped).getD "None".toList ++ "'.".toList)
          none) none) ∨
    (∃ provider e, blockedRequest env.inspector policy (texts messages) = none ∧
      env.providerFor route = some provider ∧ provider (outbound env messages policy) = .error e ∧
      runPipeline env messages route policy application =
        returned (failedRun env.inspector (texts messages) (route.map PyStr.escaped) policy
          (application.map PyStr.escaped) 502 "Provider call failed." none)
          (some (outbound env messages policy))) ∨
    ∃ provider llm, blockedRequest env.inspector policy (texts messages) = none ∧
      env.providerFor route = some provider ∧ provider (outbound env messages policy) = .ok llm ∧
      runPipeline env messages route policy application =
        if llm.text.Utf8 then
          returned (answeredRun env.inspector (texts messages) (route.map PyStr.escaped) policy
            (application.map PyStr.escaped) (llm.texts PyStr.escape))
            (some (outbound env messages policy))
        else unencodedRun env messages route policy application (llm.texts PyStr.escape) := by
  unfold runPipeline
  rw [fingerprint_of_utf8 h]
  dsimp only
  cases hb : blockedRequest env.inspector policy (texts messages) with
  | some reason => exact .inl ⟨reason, rfl, rfl⟩
  | none =>
      cases hr : env.providerFor route with
      | none => exact .inr (.inl ⟨rfl, rfl, rfl⟩)
      | some provider =>
          cases hp : provider (outbound env messages policy) with
          | error e =>
              refine .inr (.inr (.inl ⟨provider, e, rfl, rfl, hp, ?_⟩))
              simp only [hp]
          | ok llm =>
              refine .inr (.inr (.inr ⟨provider, llm, rfl, rfl, hp, ?_⟩))
              simp only [hp]
              by_cases hu : llm.text.Utf8
              · rw [fingerprint_of_utf8 hu, if_pos hu]
              · rw [fingerprint_of_not_utf8 hu, if_neg hu]

/-- **Where the fingerprints are taken, the run is the one on the texts**, and what goes out are the
strings. -/
theorem runPipeline_of_encodes (h : Encodes env messages route policy) :
    runPipeline env messages route policy application =
      returned (SentinelAI.runPipeline (env.onTexts messages route policy) (texts messages)
          (route.map PyStr.escaped) policy (application.map PyStr.escaped))
        ((providerAnswer env messages route policy).map fun _ => outbound env messages policy) := by
  have blocked : blockedRequest (env.onTexts messages route policy) policy (texts messages) =
    blockedRequest env.inspector policy (texts messages) := rfl
  rcases runPipeline_cases application h.request with
    ⟨reason, hb, he⟩ | ⟨hb, hr, he⟩ | ⟨provider, e, hb, hr, hp, he⟩ |
    ⟨provider, llm, hb, hr, hp, he⟩
  · rw [he, SentinelAI.runPipeline, blocked, providerAnswer, hb]
    rfl
  · rw [he, SentinelAI.runPipeline, blocked, providerAnswer, hb, providerFor_onTexts, hr]
    rfl
  · rw [he, SentinelAI.runPipeline, blocked, providerAnswer, hb, providerFor_onTexts, hr]
    simp only [Option.map_some, hp]
    rfl
  · have answered : providerAnswer env messages route policy = some (.ok llm) := by
      rw [providerAnswer, if_pos hb, hr, Option.map_some, hp]
    rw [he, if_pos (h.answer llm answered), SentinelAI.runPipeline, blocked, answered, hb,
      providerFor_onTexts, hr]
    simp only [Option.map_some, hp]
    rfl

/-- A provider has been called where its answer has no encoding. -/
theorem runPipeline_of_not_utf8 {llm : LLMResponse} (request : (untrusted messages).Utf8)
    (answered : providerAnswer env messages route policy = some (.ok llm))
    (h : ¬ llm.text.Utf8) :
    runPipeline env messages route policy application =
      unencodedRun env messages route policy application (llm.texts PyStr.escape) := by
  unfold providerAnswer at answered
  rcases runPipeline_cases application request with
    ⟨reason, hb, -⟩ | ⟨hb, hr, -⟩ | ⟨provider, e, hb, hr, hp, -⟩ | ⟨provider, llm', hb, hr, hp, he⟩
  · rw [hb] at answered
    cases answered
  · rw [if_pos hb, hr] at answered
    cases answered
  · rw [if_pos hb, hr, Option.map_some, hp] at answered
    cases answered
  · rw [if_pos hb, hr, Option.map_some, hp] at answered
    cases answered
    rw [he, if_neg h]

/-- Elsewhere there is no result. -/
theorem runPipeline_result : (runPipeline env messages route policy application).result.isSome =
    true ↔ Encodes env messages route policy := by
  refine ⟨fun h => ?_, fun h => by rw [runPipeline_of_encodes h]; rfl⟩
  have request : (untrusted messages).Utf8 := by
    by_contra hn
    rw [runPipeline, fingerprint_of_not_utf8 hn] at h
    cases h
  refine ⟨request, fun llm answered => ?_⟩
  by_contra hn
  rw [runPipeline_of_not_utf8 request answered hn] at h
  cases h

/-- Surroundings of texts. -/
def PipelineEnv.ofTexts (env : SentinelAI.PipelineEnv) : PipelineEnv where
  U := env.U
  analyzer := env.analyzer
  sha256 := env.sha256
  requestId := env.requestId
  providerFor route := (env.providerFor (route.map PyStr.escaped)).map Provider.ofTexts
  eventSink := env.eventSink

end SentinelAI.Py
