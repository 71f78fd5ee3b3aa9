import SentinelAI.Gateway.Pipeline
import SentinelAI.Proxy.Generate

/-!
# Properties — Conversation

The messages of a conversation are inspected together, joined by newlines.  No pattern of the two
scanners sees a newline at its `\b`, so what a pattern matches in one message it finds in the joined
text, whatever stands around it.

* `Covers.of_untrusted`: what is found in the joined text covers what is in its messages.
* `splitting_hides_nothing`: so it is in the gateway and in `POST /v1/generate`, where the messages
  of the system have no part in it.
-/

namespace SentinelAI
open Support

variable {U : Ucd}

/-! ### The patterns at a newline -/

theorem unseen_attack {p : Str × Re} (h : p ∈ ATTACK_PATTERNS U) : p.2.unseen '\n' = true := by
  have all : (ATTACK_PATTERNS U).all (fun p => p.2.unseen '\n') = true := rfl
  exact List.all_eq_true.mp all p h

theorem PiiPattern.unseen_newline (p : PiiPattern) : (p.re U).unseen '\n' = true := by
  cases p <;> rfl

/-! ### What is found in a conversation -/

/-- The messages that are inspected. -/
def inspectedMessages (messages : List Message) : List Message :=
  messages.filter (·.role ≠ .system)

/-- Among what is found are the name of every attack pattern that matches a message of the
conversation, and the type of every PII expression that does, the messages of the system apart. -/
structure Covers (U : Ucd) (messages : List Message) (injection : InjectionResult)
    (pii : PIIResult) : Prop where
  attack : ∀ m ∈ messages, m.role ≠ .system → ∀ p ∈ ATTACK_PATTERNS U,
    p.2.search m.content = true → p.1 ∈ injection.matchedPatterns
  secret : ∀ m ∈ messages, m.role ≠ .system → ∀ p : PiiPattern,
    (p.re U).search m.content = true → p.name ∈ pii.types

/-- A pattern that matches a message of the conversation is found in the joined text. -/
theorem search_untrusted {r : Re} (hr : r.unseen '\n' = true) {messages : List Message}
    {m : Message} (hm : m ∈ messages) (hs : m.role ≠ .system) (h : r.search m.content = true) :
    r.search (untrusted messages) = true := by
  refine Re.search_join hr ?_ h
  exact List.mem_map_of_mem (List.mem_filter.mpr ⟨hm, decide_eq_true hs⟩)

/-- **The joined text covers its messages**, whatever an engine finds besides. -/
theorem Covers.of_untrusted (analyzer : Analyzer) (messages : List Message) :
    Covers U messages (checkInjection U (untrusted messages))
      (checkPii U analyzer (untrusted messages)) where
  attack m hm hs p hp h :=
    List.mem_map_of_mem (List.mem_filter.mpr ⟨hp, search_untrusted (unseen_attack hp) hm hs h⟩)
  secret m hm hs p h := by
    have found : (p.re U).search (untrusted messages) = true :=
      search_untrusted p.unseen_newline hm hs h
    refine mem_sortedSet.mpr (List.mem_append_left _ ?_)
    exact List.mem_map_of_mem (List.mem_filter.mpr ⟨p.mem_PATTERNS, found⟩)

theorem untrusted_congr {m₁ m₂ : List Message} (h : inspectedMessages m₁ = inspectedMessages m₂) :
    untrusted m₁ = untrusted m₂ := by
  change join "\n" ((inspectedMessages m₁).map (·.content)) =
    join "\n" ((inspectedMessages m₂).map (·.content))
  rw [h]

/-! ### Where it is reported -/

/-- The inspection that every run of the gateway returns. -/
theorem runPipeline_requestInspection (env : PipelineEnv) (messages : List Message)
    (route : Option Str) (policy : GatewayPolicy) (application : Option Str) :
    (runPipeline env messages route policy application).result.requestInspection =
      .obj (requestInspection env messages) := by
  rcases runPipeline_cases env messages route policy application with
    ⟨reason, -, hrun⟩ | ⟨-, -, reason, hrun⟩ | ⟨provider, e, -, -, -, hrun⟩ |
    ⟨provider, llm, -, -, -, hrun⟩ <;> rw [hrun]
  · rfl
  · rfl
  · rfl
  · show (answeredResult env messages policy llm).requestInspection = _
    unfold answeredResult
    split <;> rfl

/-- The inspection of a request, as the gateway returns it. -/
def inspectionJson (injection : InjectionResult) (pii : PIIResult) : Json :=
  .obj [("injection", .obj [("flagged", .bool injection.flagged),
      ("matched_patterns", .strs injection.matchedPatterns)]), piiInspection pii]

/-- **Splitting a conversation hides nothing.**  What a run of the gateway returns as found in its
messages, and what `POST /v1/generate` has for its guardrails, covers what is in each message of the
conversation, and does not depend on the messages of the system. -/
theorem splitting_hides_nothing :
    (∀ (env : PipelineEnv) (messages : List Message), ∃ injection pii,
      Covers env.U messages injection pii ∧
      ∀ messages', inspectedMessages messages' = inspectedMessages messages →
        ∀ route policy application,
          (runPipeline env messages' route policy application).result.requestInspection =
            inspectionJson injection pii) ∧
    ∀ (cfg : Config) (req : GenerateRequest),
      Covers cfg.U req.messages (inspection cfg req).injection (inspection cfg req).pii ∧
      ∀ messages', inspectedMessages messages' = inspectedMessages req.messages →
        inspection cfg { req with messages := messages' } = inspection cfg req := by
  constructor
  · intro env messages
    refine ⟨_, _, .of_untrusted env.analyzer messages,
      fun messages' h route policy application => ?_⟩
    rw [runPipeline_requestInspection, ← untrusted_congr h]
    rfl
  · intro cfg req
    refine ⟨.of_untrusted cfg.analyzer req.messages, fun messages' h => ?_⟩
    simp only [inspection, untrusted_congr h]

end SentinelAI
