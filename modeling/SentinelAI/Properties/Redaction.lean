import SentinelAI.Gateway.Pipeline
import SentinelAI.Properties.Patterns

/-!
# Properties — Redaction

What `redact_pii` leaves of a text.

* `redacts_iff_tiled`: no position inside a detected span is copied to the output exactly when the
  detected spans can be tiled.  A span that starts inside the one kept before it and ends after it
  is dropped whole, and the rest of it is copied.
* `redactsClean_iff`: without the Presidio engine, nothing is found in a redacted text exactly when
  no pattern matches in a stretch between two neighbours of the leftmost-longest choice of matches.
-/

namespace SentinelAI
open Support

variable {U : Ucd} {analyzer : Analyzer}

/-! ### Detected positions -/

/-- No position inside a detected span is copied. -/
def Redacts (U : Ucd) (analyzer : Analyzer) (text : Str) : Prop :=
  ∀ p, Span.Covered (detected U analyzer text) p →
    ∀ q ∈ redactPieces U analyzer text, ¬ q.Copies p

/-- The phone number hides the address that starts inside it, and `@x.com` is copied. -/
theorem not_redacts_email :
    (redactPii Ucd.ascii none "555 123 4567@x.com").1 = "[REDACTED_PHONE]@x.com".toList ∧
      ¬ ∀ text, Redacts Ucd.ascii none text := by
  refine ⟨by decide, fun h => ?_⟩
  have email : (⟨8, 18, "EMAIL"⟩ : Span Str) ∈
      detected Ucd.ascii none "555 123 4567@x.com" := by decide
  have tail : Piece.copy 12 18 ∈ redactPieces Ucd.ascii none "555 123 4567@x.com" := by decide
  exact h _ 12 ⟨_, email, by decide, by decide⟩ _ tail ⟨by decide, by decide⟩

/-- **What is detected is redacted exactly when it can be tiled**: some of the detected spans,
pairwise disjoint and each the longest at its start, cover all that is detected. -/
theorem redacts_iff_tiled {text : Str} (h : analyzer.Within text) :
    Redacts U analyzer text ↔ Span.Tiled (detected U analyzer text) := by
  have bounds := detected_bounds (U := U) h
  have hD : ∀ d ∈ detected U analyzer text, d.start ≤ d.stop := fun d hd => (bounds d hd).1
  have chain : Span.Chain text.length 0 (Span.kept (detected U analyzer text)) :=
    Span.chain_kept bounds
  rw [← (Span.isSelection_kept hD).covers_iff_tiled hD]
  refine forall_congr' fun p => imp_congr_right fun ⟨d, hd, hp⟩ => ?_
  have hlt : p < text.length := Nat.lt_of_lt_of_le hp.2 (bounds d hd).2
  have copies := Span.copies_fill_iff chain (Nat.zero_le p) hlt
  rw [redactPieces_eq, ← not_iff_not, ← copies]
  simp only [not_forall, not_not, exists_prop]

/-- A name and an address, which the engine finds as well. -/
theorem redacts_bob :
    let engine : Analyzer := some fun _ => [⟨"PERSON", 0, 3⟩, ⟨"EMAIL_ADDRESS", 4, 10⟩]
    Redacts Ucd.ascii engine "Bob b@x.co" := by
  intro engine
  have within : engine.Within "Bob b@x.co" := by
    intro analyze ha r hr
    rw [← Option.some.inj ha] at hr
    revert r
    decide
  refine (redacts_iff_tiled within).mpr
    ⟨[⟨0, 3, "PERSON"⟩, ⟨4, 10, "EMAIL"⟩], by decide, by decide, by decide, ?_⟩
  rintro p ⟨d, hd, h₁, h₂⟩
  have spans : detected Ucd.ascii engine "Bob b@x.co" =
      [⟨4, 10, "EMAIL"⟩, ⟨0, 3, "PERSON"⟩, ⟨4, 10, "EMAIL_ADDRESS"⟩] := by decide
  rw [spans] at hd
  simp only [List.mem_cons, List.not_mem_nil, or_false] at hd
  rcases hd with rfl | rfl | rfl
  · exact ⟨⟨4, 10, "EMAIL"⟩, by simp, h₁, h₂⟩
  · exact ⟨⟨0, 3, "PERSON"⟩, by simp, h₁, h₂⟩
  · exact ⟨⟨4, 10, "EMAIL"⟩, by simp, h₁, h₂⟩

/-! ### Redacted texts -/

/-- Every answer of the gateway to a text `text` of a provider, under a policy that redacts
responses, is one in which nothing is found. -/
def AnswersClean (U : Ucd) (text : Str) : Prop :=
  ∀ (env : PipelineEnv) (messages : List Message) (route : Option Str) (policy : GatewayPolicy)
    (application : Option Str) (provider : Provider) (llm : LLMResponse) (output : Str),
    env.U = U → env.analyzer = none → policy.responsePiiAction = .redact →
    env.providerFor route = some provider →
    provider (requestPolicy env policy messages).1 = .ok llm → llm.text = text →
    (runPipeline env messages route policy application).result.output = some output →
    (checkPii U none output).found = false

/-- Nothing is found in the redacted text, which redaction leaves as it is, nor in an answer of the
gateway. -/
structure RedactsClean (U : Ucd) (text : Str) : Prop where
  clean : (checkPii U none (redactPii U none text).1).found = false
  idempotent : (redactPii U none (redactPii U none text).1).1 = (redactPii U none text).1
  answers : AnswersClean U text

/-- No pattern matches in a stretch of text that is left between the leftmost-longest choice of
matches. -/
def GapsClean (U : Ucd) (text : Str) : Prop :=
  ∀ K, Span.IsSelection (detected U none text) K →
    ∀ u ∈ Span.gaps text 0 K, ∀ p : PiiPattern, (p.re U).search u = false

theorem found_eq_false_iff {text : Str} :
    (checkPii U none text).found = false ↔ ∀ p : PiiPattern, (p.re U).search text = false := by
  simp only [← Bool.not_eq_true, checkPii_none_found_iff, not_exists]

/-- A text in which nothing is found is returned as it is. -/
theorem redactPii_of_not_found {text : Str} (h : (checkPii U analyzer text).found = false) :
    (redactPii U analyzer text).1 = text := by
  simp [redactPii, redactPieces, h, Piece.render]

/-- The phone number hides the address that starts inside it, and the rest of it is one too. -/
theorem not_redactsClean_email :
    (redactPii Ucd.ascii none "555 123 4567.bob@x.com").1 =
        "[REDACTED_PHONE].bob@x.com".toList ∧
      ¬ ∀ text, RedactsClean Ucd.ascii text := by
  have out : (redactPii Ucd.ascii none "555 123 4567.bob@x.com").1 =
      "[REDACTED_PHONE].bob@x.com".toList := by decide
  refine ⟨out, fun h => ?_⟩
  have clean := (h "555 123 4567.bob@x.com").clean
  rw [out] at clean
  exact absurd clean (by decide)

theorem redactPii_found_iff {text : Str} :
    (checkPii U none (redactPii U none text).1).found = false ↔ GapsClean U text := by
  have kept : ∀ K,
      Span.IsSelection (detected U none text) K ↔ K = Span.kept (detected U none text) :=
    fun K => ⟨fun h => h.eq_kept detected_none_lt, fun h => h ▸ isSelection_detected_none text⟩
  have labels : ∀ k ∈ Span.kept (detected U none text), k.label ∈ patternLabels := fun k hk =>
    label_mem_patternLabels (Span.mem_of_mem_kept hk)
  rw [found_eq_false_iff, redactPii_eq]
  simp only [PiiPattern.search_out _ _ _ labels, GapsClean, kept, forall_eq, List.any_eq_false,
    Bool.not_eq_true]
  exact ⟨fun h u hu p => h p u hu, fun h p u hu => h u hu p⟩

/-- **Redaction is clean exactly when nothing matches between what it keeps.** -/
theorem redactsClean_iff (text : Str) : RedactsClean U text ↔ GapsClean U text := by
  rw [← redactPii_found_iff]
  refine ⟨RedactsClean.clean, fun h => ⟨h, redactPii_of_not_found h, ?_⟩⟩
  rintro env messages route policy application provider llm output rfl hA hpol hr hp rfl ho
  obtain ⟨provider', llm', hr', hp', rfl⟩ := runPipeline_output ho
  cases hr.symm.trans hr'
  cases hp.symm.trans hp'
  -- the output is redacted, or nothing was found in the answer
  unfold responsePolicy
  split
  · rw [PipelineEnv.redact, hA]
    exact h
  · rename_i hf
    simpa [hpol, PipelineEnv.check, hA] using hf

end SentinelAI
