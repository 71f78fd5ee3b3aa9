import SentinelAI.Proxy.Generate

/-!
# Proxy — GenerateCalls

`POST /v1/generate` with a provider that may answer differently each time it is called.  The calls
of the provider are counted by the state that the function is run in; call `i` comes to whatever
the `i`-th provider makes of the messages.

* `generateM_eq`: it is `generate`, with the provider of the next call, which is called at most
  once.
-/

namespace SentinelAI
open Support

/-- What a request finds upstream, call by call: the default provider, and the SDKs of the services
that `provider_config` can name. -/
structure ProviderCalls where
  default : Nat → Provider
  sdks : Nat → Sdks

/-- The moment of call `i`. -/
def ProviderCalls.tick (calls : ProviderCalls) (tick : Tick) (i : Nat) : Tick :=
  { tick with sdks := calls.sdks i }

/-- What call `i` of the active provider comes to. -/
def ProviderCalls.active (calls : ProviderCalls) (tick : Tick) (req : GenerateRequest) (i : Nat) :
    Provider :=
  activeProvider (calls.tick tick i) req (calls.default i)

variable (cfg : Config) (tick : Tick) (req : GenerateRequest) (calls : ProviderCalls)

/-- `active_provider.generate(req.messages)` -/
def callProvider : StateM Nat (Except ProviderError LLMResponse) := fun made =>
  (calls.active tick req made req.messages, made + 1)

/-- The provider is called.  What follows an answer has the answer, and not the provider: the getter
of `validate_structured_output` is `lambda: llm_resp.text`. -/
def calledM (db : Db) (counts : SessionCounts) : StateM Nat Generated := do
  match ← callProvider tick req calls with
  | .ok llm => return answered cfg tick req llm db counts
  | .error (.missing_credentials message) =>
      return refuse cfg tick req 400 .provider_credentials_missing message noUsage
        (inspection cfg req) none db counts (some req.messages)
  | .error (.failed message) =>
      return refuse cfg tick req 502 .provider_failed message noUsage (inspection cfg req) none db
        counts (some req.messages)

instance (counts : SessionCounts) (user : User) : Decidable (Called cfg req counts user) :=
  inferInstanceAs (Decidable (_ ∧ _ ∧ _))

/-- The request of `user`: up to the call, which a refusal does not come to, it is `generate`. -/
def generateM (db : Db) (counts : SessionCounts) (user : User) : StateM Nat Generated :=
  match ownedProject db req.projectId user.id with
  | .error e => return { result := .error e, db, counts }
  | .ok _ =>
      if Called cfg req counts user then
        calledM cfg tick req calls (inspected cfg tick req db)
          (checkAndIncrement counts (quotaKey user) cfg.settings.rateLimitPerSession).2
      else return generateFor cfg tick req (calls.default 0) db counts user

variable {cfg tick req calls}

theorem calledM_eq (db : Db) (counts : SessionCounts) (made : Nat) :
    calledM cfg tick req calls db counts made =
      (called cfg (calls.tick tick made) req (calls.default made) db counts, made + 1) := by
  change (match calls.active tick req made req.messages with
    | .ok llm => (pure (answered cfg tick req llm db counts) : StateM Nat Generated)
    | .error (.missing_credentials message) =>
        pure (refuse cfg tick req 400 .provider_credentials_missing message noUsage
          (inspection cfg req) none db counts (some req.messages))
    | .error (.failed message) =>
        pure (refuse cfg tick req 502 .provider_failed message noUsage (inspection cfg req) none db
          counts (some req.messages))) (made + 1) = _
  unfold called ProviderCalls.active
  cases activeProvider (calls.tick tick made) req (calls.default made) req.messages with
  | ok llm => rfl
  | error e =>
      cases e with
      | failed message => rfl
      | missing_credentials message => rfl

/-- A request that comes to the call is served by it. -/
theorem generateFor_of_called {counts : SessionCounts} {user : User}
    (h : Called cfg req counts user) (provider : Provider) (db : Db) :
    generateFor cfg tick req provider db counts user =
      called cfg tick req provider (inspected cfg tick req db)
        (checkAndIncrement counts (quotaKey user) cfg.settings.rateLimitPerSession).2 := by
  obtain ⟨hl, hf, hq⟩ := h
  unfold generateFor
  dsimp only
  rw [if_neg (Nat.not_lt.mpr hl), hf, if_neg Bool.false_ne_true, checkAndIncrement_of_lt hq,
    if_pos rfl]

/-- One that does not is refused alike, whatever the provider. -/
theorem generateFor_of_not_called {counts : SessionCounts} {user : User}
    (h : ¬ Called cfg req counts user) (provider provider' : Provider) (sdks : Sdks) (db : Db) :
    generateFor cfg tick req provider db counts user =
      generateFor cfg { tick with sdks } req provider' db counts user := by
  unfold generateFor
  dsimp only
  by_cases hl : (inboundText req).length > MAX_INPUT_CHARS
  · rw [if_pos hl, if_pos hl]
    rfl
  · rw [if_neg hl, if_neg hl]
    cases hf : (inspection cfg req).injection.flagged with
    | true =>
        rw [if_pos rfl, if_pos rfl]
        rfl
    | false =>
        -- it is over the quota
        have full : cfg.settings.rateLimitPerSession ≤ counts (quotaKey user) :=
          Int.not_lt.mp fun hq => h ⟨Nat.le_of_not_lt hl, hf, hq⟩
        rw [checkAndIncrement_of_ge full]
        rfl

/-- **One call.**  A request is served as by the provider of the next call, and calls it at most
once: exactly where it comes to the call. -/
theorem generateM_eq (db : Db) (counts : SessionCounts) (user : User) (made : Nat) :
    generateM cfg tick req calls db counts user made =
      (generate cfg (calls.tick tick made) req (calls.default made) db counts user,
        if (ownedProject db req.projectId user.id).isOk ∧ Called cfg req counts user then made + 1
        else made) := by
  unfold generateM generate
  cases ownedProject db req.projectId user.id with
  | error e =>
      dsimp only
      rw [if_neg (fun h => Bool.false_ne_true h.1)]
      rfl
  | ok project =>
      dsimp only
      by_cases h : Called cfg req counts user
      · rw [if_pos h, if_pos ⟨rfl, h⟩, calledM_eq, generateFor_of_called h]
        rfl
      · rw [if_neg h, if_neg (fun hc => h hc.2),
          generateFor_of_not_called h (calls.default 0) (calls.default made) (calls.sdks made)]
        rfl

end SentinelAI
