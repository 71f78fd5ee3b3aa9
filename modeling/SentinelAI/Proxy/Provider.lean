import SentinelAI.Proxy.Schemas

/-!
# Proxy — Provider

`proxy/provider.py`.  The SDK call of a provider is a parameter: given the key, the model and the
messages it returns an answer, or raises with a message.

* `GroqProvider_failed`, `GeminiProvider_failed`: a failure has the text that the SDK raised.
-/

namespace SentinelAI
open Support

structure LLMResponse where
  text : Str
  tokensIn : Int
  tokensOut : Int
  latencyMs : Int
  model : Str
  provider : Str

/-- `ProviderError`, and its subclass `MissingCredentialsError`. -/
inductive ProviderError where
  | failed (message : Str)
  | missing_credentials (message : Str)

/-- `generate` of a provider: what it makes of the messages it is sent. -/
abbrev Provider := List Message → Except ProviderError LLMResponse

/-- What an SDK call returns. -/
structure Completion where
  text : Str
  tokensIn : Int
  tokensOut : Int
  latencyMs : Int

/-- The SDKs of the two services: model, key and messages to an answer, or the text of the
exception. -/
structure Sdks where
  groq : Str → Str → List Message → Except Str Completion
  gemini : Str → Str → Str → Except Str Completion
  groqApiKey : Str
  geminiApiKey : Str

variable (sdks : Sdks)

/-- `self.api_key or settings.…` -/
def keyOr (apiKey : Option Str) (default : Str) : Str :=
  match apiKey with
  | some key => if key = [] then default else key
  | none => default

def groqModel : Str := "openai/gpt-oss-20b"

def geminiModel : Str := "gemini-1.5-flash"

def GroqProvider (apiKey : Option Str) : Provider := fun messages =>
  let key := keyOr apiKey sdks.groqApiKey
  if key = [] then
    .error (.missing_credentials
      "No Groq API key configured (set GROQ_API_KEY or pass a BYOK key).")
  else match sdks.groq groqModel key messages with
  | .error e => .error (.failed ("groq call failed: ".toList ++ e))
  | .ok r => .ok ⟨r.text, r.tokensIn, r.tokensOut, r.latencyMs, groqModel, "groq"⟩

def GeminiProvider (apiKey : Option Str) : Provider := fun messages =>
  let key := keyOr apiKey sdks.geminiApiKey
  if key = [] then
    .error (.missing_credentials
      "No Gemini API key configured (set GEMINI_API_KEY or pass a BYOK key).")
  else
    let prompt := join "\n\n" (messages.map fun m => m.role.value ++ ": ".toList ++ m.content)
    match sdks.gemini geminiModel key prompt with
    | .error e => .error (.failed ("gemini call failed: ".toList ++ e))
    | .ok r => .ok ⟨r.text, r.tokensIn, r.tokensOut, r.latencyMs, geminiModel, "gemini"⟩

/-- The secondary is tried when the primary raises. -/
def FallbackProvider (primary secondary : Provider) : Provider := fun messages =>
  match primary messages with
  | .ok r => .ok r
  | .error _ => secondary messages

def getProvider : Provider := FallbackProvider (GroqProvider sdks none) (GeminiProvider sdks none)

/-- `PROVIDER_REGISTRY[name](api_key=api_key)` -/
def buildProvider (name : ProviderName) (apiKey : Option Str) : Provider :=
  match name with
  | .groq => GroqProvider sdks apiKey
  | .gemini => GeminiProvider sdks apiKey

/-! ### Failures -/

variable {sdks}

/-- Groq fails with the text that its SDK raised. -/
theorem GroqProvider_failed {apiKey : Option Str} {messages : List Message} {message : Str}
    (h : GroqProvider sdks apiKey messages = .error (.failed message)) :
    ∃ text, sdks.groq groqModel (keyOr apiKey sdks.groqApiKey) messages = .error text ∧
      message = "groq call failed: ".toList ++ text := by
  unfold GroqProvider at h
  dsimp only at h
  split at h
  · cases h
  · split at h
    · rename_i text hcall
      cases h
      exact ⟨text, hcall, rfl⟩
    · cases h

/-- What Gemini is sent: the messages, under their roles. -/
def geminiPrompt (messages : List Message) : Str :=
  join "\n\n" (messages.map fun m => m.role.value ++ ": ".toList ++ m.content)

/-- Gemini fails with the text that its SDK raised. -/
theorem GeminiProvider_failed {apiKey : Option Str} {messages : List Message} {message : Str}
    (h : GeminiProvider sdks apiKey messages = .error (.failed message)) :
    ∃ text, sdks.gemini geminiModel (keyOr apiKey sdks.geminiApiKey) (geminiPrompt messages) =
      .error text ∧ message = "gemini call failed: ".toList ++ text := by
  unfold GeminiProvider at h
  dsimp only at h
  split at h
  · cases h
  · split at h
    · rename_i text hcall
      cases h
      exact ⟨text, hcall, rfl⟩
    · cases h

/-- The chain fails as its secondary does. -/
theorem FallbackProvider_error {primary secondary : Provider} {messages : List Message}
    {e : ProviderError} (h : FallbackProvider primary secondary messages = .error e) :
    secondary messages = .error e := by
  unfold FallbackProvider at h
  cases hp : primary messages with
  | ok r =>
      rw [hp] at h
      cases h
  | error e' =>
      rw [hp] at h
      exact h

end SentinelAI
