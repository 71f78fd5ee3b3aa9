import SentinelAI.Proxy.Models

/-!
# Proxy — Schemas

`proxy/schemas.py`: what `POST /v1/generate` takes and answers.
-/

namespace SentinelAI
open Support

inductive MsgRole where
  | system
  | user
  | assistant
deriving DecidableEq, Repr

def MsgRole.value : MsgRole → Str
  | .system => "system"
  | .user => "user"
  | .assistant => "assistant"

structure Message where
  role : MsgRole
  content : Str
deriving DecidableEq

/-- The text under inspection: every message but the system's. -/
def untrusted (messages : List Message) : Str :=
  join "\n" ((messages.filter (·.role ≠ .system)).map (·.content))

/-- The keys of `PROVIDER_REGISTRY`. -/
inductive ProviderName where
  | groq
  | gemini
deriving DecidableEq, Repr

def ProviderName.value : ProviderName → Str
  | .groq => "groq"
  | .gemini => "gemini"

structure ProviderConfig where
  provider : Option ProviderName
  apiKey : Option Str

inductive Operation where
  | extract
  | policy_check
  | report
  | playground
deriving DecidableEq, Repr

def Operation.value : Operation → Str
  | .extract => "extract"
  | .policy_check => "policy_check"
  | .report => "report"
  | .playground => "playground"

structure GenerateRequest where
  sessionId : Str
  operation : Operation
  messages : List Message
  schemaName : Option Str
  groundingContext : Option Str
  projectId : Int
  providerConfig : Option ProviderConfig

structure InjectionResult where
  flagged : Bool := false
  matchedPatterns : List Str := []
deriving DecidableEq

structure PIIResult where
  found : Bool := false
  redacted : Bool := false
  types : List Str := []
deriving DecidableEq

inductive HallucinationMode where
  | grounded
  | ungrounded
deriving DecidableEq, Repr

def HallucinationMode.value : HallucinationMode → Str
  | .grounded => "grounded"
  | .ungrounded => "ungrounded"

structure HallucinationResult where
  score : Rat := 0
  mode : HallucinationMode := .ungrounded

structure Guardrails where
  injection : InjectionResult := {}
  pii : PIIResult := {}
  schemaValid : Bool := true
  retried : Bool := false
  hallucination : Option HallucinationResult := none

structure Usage where
  provider : Str
  model : Str
  tokensIn : Int := 0
  tokensOut : Int := 0
  latencyMs : Int := 0
  costEstimateUsd : Rat := 0

structure ErrorDetail where
  code : GenerateError
  message : Str

structure GenerateResponse where
  output : Json := .null
  guardrails : Guardrails
  usage : Usage
  error : Option ErrorDetail := none

/-! ### `model_dump` -/

def InjectionResult.toJson (r : InjectionResult) : Json :=
  .obj [("flagged", .bool r.flagged), ("matched_patterns", .strs r.matchedPatterns)]

def PIIResult.toJson (r : PIIResult) : Json :=
  .obj [("found", .bool r.found), ("redacted", .bool r.redacted), ("types", .strs r.types)]

def HallucinationResult.toJson (r : HallucinationResult) : Json :=
  .obj [("score", .num r.score), ("mode", .str r.mode.value)]

def Guardrails.toJson (g : Guardrails) : Json :=
  .obj [("injection", g.injection.toJson), ("pii", g.pii.toJson),
    ("schema_valid", .bool g.schemaValid), ("retried", .bool g.retried),
    ("hallucination", .opt HallucinationResult.toJson g.hallucination)]

def Usage.toJson (u : Usage) : Json :=
  .obj [("provider", .str u.provider), ("model", .str u.model), ("tokens_in", .int u.tokensIn),
    ("tokens_out", .int u.tokensOut), ("latency_ms", .int u.latencyMs),
    ("cost_estimate_usd", .num u.costEstimateUsd)]

def ErrorDetail.toJson (e : ErrorDetail) : Json :=
  .obj [("code", .str e.code.value), ("message", .str e.message)]

def GenerateResponse.toJson (r : GenerateResponse) : Json :=
  .obj [("output", r.output), ("guardrails", r.guardrails.toJson), ("usage", r.usage.toJson),
    ("error", .opt ErrorDetail.toJson r.error)]

end SentinelAI
