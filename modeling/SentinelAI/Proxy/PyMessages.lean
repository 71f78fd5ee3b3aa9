import SentinelAI.Proxy.Provider
import SentinelAI.Support.PyStr

/-!
# Proxy — PyMessages

The messages of a request and the answer of a provider with Python's own strings, in which lone
surrogates may stand: a JSON body can spell them, and so can a provider's SDK.  What the gateway and
`POST /v1/generate` do with them is told apart from the rest of the model, which is about texts, the
strings that have a UTF-8 encoding.

* `untrusted_text`, `utf8_untrusted`: the text under inspection, from the texts of the messages.
-/

namespace SentinelAI.Py
open Support

structure Message where
  role : MsgRole
  content : PyStr
deriving DecidableEq

/-- The text under inspection: every message but the system's. -/
def untrusted (messages : List Message) : PyStr :=
  PyStr.join (.ofStr "\n") ((messages.filter (·.role ≠ .system)).map (·.content))

structure LLMResponse where
  text : PyStr
  tokensIn : Int
  tokensOut : Int
  latencyMs : Int
  model : PyStr
  provider : PyStr

/-- `ProviderError`, and its subclass `MissingCredentialsError`. -/
inductive ProviderError where
  | failed (message : PyStr)
  | missing_credentials (message : PyStr)

/-- `generate` of a provider. -/
abbrev Provider := List Message → Except ProviderError LLMResponse

/-! ### Their texts -/

section Text

variable (f : Fin 0x800 → Str)

def Message.text (m : Message) : SentinelAI.Message := ⟨m.role, m.content.render f⟩

def LLMResponse.texts (llm : LLMResponse) : SentinelAI.LLMResponse :=
  ⟨llm.text.render f, llm.tokensIn, llm.tokensOut, llm.latencyMs, llm.model.render f,
    llm.provider.render f⟩

def ProviderError.text : ProviderError → SentinelAI.ProviderError
  | .failed message => .failed (message.render f)
  | .missing_credentials message => .missing_credentials (message.render f)

variable {f}

theorem untrusted_text (messages : List Message) :
    SentinelAI.untrusted (messages.map (·.text f)) = (untrusted messages).render f := by
  rw [untrusted, PyStr.render_join, SentinelAI.untrusted, List.filter_map, List.map_map,
    List.map_map, PyStr.render_ofStr]
  rfl

theorem utf8_untrusted {messages : List Message} :
    (untrusted messages).Utf8 ↔ ∀ m ∈ messages, m.role ≠ .system → m.content.Utf8 := by
  rw [untrusted, PyStr.utf8_join (PyStr.utf8_ofStr _), List.forall_mem_map]
  simp only [List.mem_filter, decide_eq_true_eq, and_imp]

end Text

/-! ### Texts as strings -/

def Message.ofText (m : SentinelAI.Message) : Message := ⟨m.role, .ofStr m.content⟩

def LLMResponse.ofTexts (llm : SentinelAI.LLMResponse) : LLMResponse :=
  ⟨.ofStr llm.text, llm.tokensIn, llm.tokensOut, llm.latencyMs, .ofStr llm.model,
    .ofStr llm.provider⟩

def ProviderError.ofText : SentinelAI.ProviderError → ProviderError
  | .failed message => .failed (.ofStr message)
  | .missing_credentials message => .missing_credentials (.ofStr message)

def answerOfTexts :
    Except SentinelAI.ProviderError SentinelAI.LLMResponse → Except ProviderError LLMResponse
  | .error e => .error (.ofText e)
  | .ok llm => .ok (.ofTexts llm)

/-- A provider of texts. -/
def Provider.ofTexts (provider : SentinelAI.Provider) : Provider := fun messages =>
  answerOfTexts (provider (messages.map (·.text PyStr.escape)))

variable {f : Fin 0x800 → Str}

@[simp] theorem text_ofText (m : SentinelAI.Message) : (Message.ofText m).text f = m := by
  simp [Message.ofText, Message.text]

@[simp] theorem texts_ofTexts (llm : SentinelAI.LLMResponse) :
    (LLMResponse.ofTexts llm).texts f = llm := by
  simp [LLMResponse.ofTexts, LLMResponse.texts]

@[simp] theorem error_text_ofText (e : SentinelAI.ProviderError) :
    (ProviderError.ofText e).text f = e := by
  cases e <;> simp [ProviderError.ofText, ProviderError.text]

@[simp] theorem map_text_ofText (messages : List SentinelAI.Message) :
    (messages.map Message.ofText).map (·.text f) = messages := by
  rw [List.map_map]
  exact List.map_id'' text_ofText messages

theorem ofTexts_map_ofText (provider : SentinelAI.Provider) (messages : List SentinelAI.Message) :
    Provider.ofTexts provider (messages.map .ofText) = answerOfTexts (provider messages) := by
  rw [Provider.ofTexts, map_text_ofText]

end SentinelAI.Py
