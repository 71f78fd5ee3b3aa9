import SentinelAI.Properties.Quota
import SentinelAI.Proxy.Api

/-!
# Properties — Provider errors

Two runs of `POST /v1/generate` from one state that differ upstream: in the key of
`provider_config`, and in what the SDKs do.  Where both end in a `ProviderError` that is not about
missing credentials, they leave the same state, and their responses differ in the message.

* `GenerateCall.run_eq`: what such a run answers and leaves behind.
* `GenerateCall.exists_lastCall`: its message is the text that the last SDK raised, under the name
  of the provider.
* `nothingFlowsOut_iff`: when two of them cannot be told apart.
-/

namespace SentinelAI
open Support

/-- What two runs differ in: the key of the caller, and the SDKs. -/
structure Upstream where
  apiKey : Str
  sdks : Sdks

/-- What two runs share: the state, the time and the request, but for the key. -/
structure GenerateCall where
  tick : Tick
  world : World
  authorization : Str
  client : Option Str
  req : GenerateRequest
  /-- The provider that `provider_config` names, if any. -/
  provider : Option ProviderName

namespace GenerateCall

variable (cfg : Config) (c : GenerateCall) (u : Upstream)

/-! ### A run -/

def tickOf : Tick := { c.tick with sdks := u.sdks }

def reqOf : GenerateRequest := { c.req with providerConfig := some ⟨c.provider, some u.apiKey⟩ }

def request : Request := ⟨c.authorization, c.client, .ofUser (.generate (c.reqOf u))⟩

/-- The response, and the state after it. -/
def run : Response × World := handle cfg (c.tickOf u) c.world (c.request u)

/-- The run of `user` ends in a `ProviderError` with `message` that is not about missing
credentials: it comes to the provider, and the provider raises. -/
structure FailsWith (user : User) (message : Str) : Prop where
  gate : (c.request u).gate cfg (c.tickOf u) = .ok ()
  caller : getCurrentUser cfg c.tick.now c.world.db c.authorization = .ok user
  passes : Passes cfg c.req c.world.db user
  quota : c.world.counts (quotaKey user) < cfg.settings.rateLimitPerSession
  raised : activeProvider (c.tickOf u) (c.reqOf u) (getProvider u.sdks) c.req.messages =
    .error (.failed message)

def Fails : Prop := ∃ user message, c.FailsWith cfg u user message

/-- What the SDK that is called last returns: that of the provider that is named, or Gemini's,
which the default chain falls back to. -/
def lastCall : Except Str Completion :=
  let prompt := geminiPrompt c.req.messages
  match c.provider with
  | some .groq => u.sdks.groq groqModel (keyOr (some u.apiKey) u.sdks.groqApiKey) c.req.messages
  | some .gemini => u.sdks.gemini geminiModel (keyOr (some u.apiKey) u.sdks.geminiApiKey) prompt
  | none => u.sdks.gemini geminiModel (keyOr none u.sdks.geminiApiKey) prompt

/-- What stands before its text. -/
def failedPrefix : Str :=
  match c.provider with
  | some .groq => "groq call failed: "
  | some .gemini | none => "gemini call failed: "

/-- The response with `message`. -/
def failure (message : Str) : Response :=
  ⟨502, .json (GenerateResponse.toJson
    { guardrails := inspection cfg c.req
      usage := noUsage
      error := some ⟨.provider_failed, message⟩ })⟩

/-- The state after a failure: the call is logged and charged to `user`. -/
def afterFailure (user : User) : World :=
  { c.world with
    db := logCall c.tick c.req noUsage (inspection cfg c.req) (some .provider_failed)
      (inspected cfg c.tick c.req c.world.db)
    counts := (checkAndIncrement c.world.counts (quotaKey user)
      cfg.settings.rateLimitPerSession).2 }

variable {cfg c u}

theorem dispatch_generate {tick : Tick} {w : World} {header : Str} {client : Option Str}
    {req : GenerateRequest} {user : User}
    (h : getCurrentUser cfg tick.now w.db header = .ok user) :
    Request.dispatch cfg tick ⟨header, client, .ofUser (.generate req)⟩ w =
      let g := generate cfg tick req (getProvider tick.sdks) w.db w.counts user
      (g.answer, { w with db := g.db, counts := g.counts }) := by
  rw [Request.dispatch]
  dsimp only
  rw [h]
  rfl

/-- **A run that fails upstream** leaves a state that does not depend on the upstream. -/
theorem run_eq {user : User} {message : Str} (h : c.FailsWith cfg u user message) :
    c.run cfg u = (c.failure cfg message, c.afterFailure cfg user) := by
  have charged : (checkAndIncrement c.world.counts (quotaKey user)
      cfg.settings.rateLimitPerSession).1 = true := by
    rw [checkAndIncrement, if_neg (by have := h.quota; omega)]
  have failed : generate cfg (c.tickOf u) (c.reqOf u) (getProvider (c.tickOf u).sdks) c.world.db
      c.world.counts user =
      refuse cfg (c.tickOf u) (c.reqOf u) 502 .provider_failed message noUsage
        (inspection cfg c.req) none (inspected cfg c.tick c.req c.world.db)
        (c.afterFailure cfg user).counts (some c.req.messages) := by
    have passes : Passes cfg (c.reqOf u) c.world.db user := h.passes
    have raised : activeProvider (c.tickOf u) (c.reqOf u) (getProvider (c.tickOf u).sdks)
      (c.reqOf u).messages = .error (.failed message) := h.raised
    rw [generate_of_passes passes, if_pos charged, called, raised]
    rfl
  have caller : getCurrentUser cfg (c.tickOf u).now c.world.db c.authorization = .ok user :=
    h.caller
  rw [run, handle_of_gate h.gate, request, dispatch_generate caller, failed]
  rfl

/-- **The message** is the text that the last SDK raised, under the name of the provider. -/
theorem exists_lastCall {user : User} {message : Str} (h : c.FailsWith cfg u user message) :
    ∃ text, c.lastCall u = .error text ∧ message = c.failedPrefix ++ text := by
  have raised := h.raised
  unfold activeProvider reqOf at raised
  dsimp only at raised
  unfold lastCall failedPrefix
  cases hp : c.provider with
  | none =>
      rw [hp] at raised
      exact GeminiProvider_failed (FallbackProvider_error raised)
  | some name =>
      rw [hp] at raised
      cases name with
      | groq => exact GroqProvider_failed raised
      | gemini => exact GeminiProvider_failed raised

theorem failure_inj {m₁ m₂ : Str} : c.failure cfg m₁ = c.failure cfg m₂ ↔ m₁ = m₂ := by
  constructor
  · intro h
    simpa [failure, GenerateResponse.toJson, ErrorDetail.toJson, Json.opt] using h
  · rintro rfl
    rfl

end GenerateCall

/-! ### Two runs -/

variable {cfg : Config} {c : GenerateCall} {u₁ u₂ : Upstream}

/-- The responses of the two runs are equal, and so are the databases after them. -/
def NothingFlowsOut (cfg : Config) (c : GenerateCall) (u₁ u₂ : Upstream) : Prop :=
  (c.run cfg u₁).1 = (c.run cfg u₂).1 ∧ (c.run cfg u₁).2.db = (c.run cfg u₂).2.db

/-- Two runs that fail upstream leave one state. -/
theorem GenerateCall.run_snd_eq (h₁ : c.Fails cfg u₁) (h₂ : c.Fails cfg u₂) :
    (c.run cfg u₁).2 = (c.run cfg u₂).2 := by
  obtain ⟨user, m₁, h₁⟩ := h₁
  obtain ⟨user', m₂, h₂⟩ := h₂
  have same : user = user' := Except.ok.inj (h₁.caller.symm.trans h₂.caller)
  subst same
  rw [run_eq h₁, run_eq h₂]

/-- **Provider errors flow out**: two runs that fail upstream answer the same exactly when the SDKs
that were called last raised the same text. -/
theorem nothingFlowsOut_iff (h₁ : c.Fails cfg u₁) (h₂ : c.Fails cfg u₂) :
    NothingFlowsOut cfg c u₁ u₂ ↔ c.lastCall u₁ = c.lastCall u₂ := by
  have state := GenerateCall.run_snd_eq h₁ h₂
  obtain ⟨user, m₁, h₁⟩ := h₁
  obtain ⟨user', m₂, h₂⟩ := h₂
  obtain ⟨t₁, e₁, rfl⟩ := GenerateCall.exists_lastCall h₁
  obtain ⟨t₂, e₂, rfl⟩ := GenerateCall.exists_lastCall h₂
  have answers : (c.run cfg u₁).1 = (c.run cfg u₂).1 ↔ t₁ = t₂ := by
    rw [GenerateCall.run_eq h₁, GenerateCall.run_eq h₂, GenerateCall.failure_inj,
      List.append_cancel_left_eq]
  rw [NothingFlowsOut, and_iff_left (congrArg World.db state), answers, e₁, e₂, Except.error.injEq]

/-! ### An SDK that quotes the key -/

/-- Groq refuses every key, and says which. -/
def quotingSdks : Sdks := ⟨fun _ key _ => .error ("Invalid API key: ".toList ++ key),
  fun _ _ _ => .error [], [], []⟩

/-- The owner of project 1 asks Groq. -/
def askGroq : GenerateCall where
  tick := .zero
  world := ⟨{ ownerDb with users := Table.empty.insert owner }, fun _ => 0, fun _ => none⟩
  authorization := "Bearer a"
  client := none
  req := askAs none
  provider := some .groq

theorem failsWith_askGroq {sdks : Sdks} {apiKey text : Str} (h : apiKey ≠ [])
    (refused : sdks.groq groqModel apiKey askGroq.req.messages = .error text) :
    askGroq.FailsWith .demo ⟨apiKey, sdks⟩ owner ("groq call failed: ".toList ++ text) where
  gate := rfl
  caller := rfl
  passes := ⟨⟨_, rfl⟩, by decide, by decide +kernel⟩
  quota := by decide
  raised := by
    have key : keyOr (some apiKey) sdks.groqApiKey = apiKey := if_neg h
    change GroqProvider sdks (some apiKey) askGroq.req.messages = _
    unfold GroqProvider
    dsimp only
    rw [key, if_neg h, refused]

/-- Two keys that are refused with the same words: nothing of either flows out. -/
theorem nothingFlowsOut_iff_askGroq :
    let sdks : Sdks := { quotingSdks with groq := fun _ _ _ => .error "Invalid API key" }
    NothingFlowsOut .demo askGroq ⟨"gsk_a", sdks⟩ ⟨"gsk_b", sdks⟩ :=
  (nothingFlowsOut_iff ⟨_, _, failsWith_askGroq (by decide) rfl⟩
    ⟨_, _, failsWith_askGroq (by decide) rfl⟩).mpr rfl

/-- Two keys that Groq refuses: each response has the key that it was asked with. -/
theorem not_nothingFlowsOut_quoted :
    askGroq.Fails .demo ⟨"gsk_a", quotingSdks⟩ ∧ askGroq.Fails .demo ⟨"gsk_b", quotingSdks⟩ ∧
      ¬NothingFlowsOut .demo askGroq ⟨"gsk_a", quotingSdks⟩ ⟨"gsk_b", quotingSdks⟩ := by
  have refused (apiKey : Str) : quotingSdks.groq groqModel apiKey askGroq.req.messages =
    .error ("Invalid API key: ".toList ++ apiKey) := rfl
  have h₁ := failsWith_askGroq (by decide) (refused "gsk_a")
  have h₂ := failsWith_askGroq (by decide) (refused "gsk_b")
  refine ⟨⟨_, _, h₁⟩, ⟨_, _, h₂⟩, fun h => ?_⟩
  have responses := h.1
  rw [GenerateCall.run_eq h₁, GenerateCall.run_eq h₂, GenerateCall.failure_inj] at responses
  revert responses
  decide

end SentinelAI
