import SentinelAI.Properties.Accounting
import SentinelAI.Proxy.GenerateCalls

/-!
# Properties — StructuredOutput

`POST /v1/generate` under a schema, with a provider that may answer differently on each call.  The
loop that validates calls its getter a second time; the getter of the request gives the one answer
there is, so that what is read twice is one text, and the provider is not called again.

* `validateStructuredOutput_const`: the loop on a getter that always gives the same text.
* `reallyRetries_iff`: a request gets what a retry promises exactly when it needs none.
* `not_reallyRetries_second`: a provider whose second answer would have been valid.
-/

namespace SentinelAI
open Support

section

variable (cfg : Config) (tick : Tick) (req : GenerateRequest) (calls : ProviderCalls) (db : Db)
  (counts : SessionCounts) (user : User) (model : SchemaModel)

/-- Call `i` of the provider answers, and `validated` is what the schema makes of the answer. -/
def AnswersWith (i : Nat) (validated : Option Json) : Prop :=
  ∃ llm, calls.active tick req i req.messages = .ok llm ∧
    cfg.modelValidateJson model llm.text = validated

/-- The request is served, and the calls of the provider are counted. -/
def servedRequest : Generated × Nat := generateM cfg tick req calls db counts user 0

/-- **A retry**, as promised. -/
structure ReallyRetries : Prop where
  /-- A second answer that validates is the answer, and says so. -/
  second : ∀ value, AnswersWith cfg tick req calls model 0 none →
    AnswersWith cfg tick req calls model 1 (some value) →
    ∃ response, (servedRequest cfg tick req calls db counts user).1.result = .ok (200, response) ∧
      response.output = value ∧ response.guardrails.retried = true
  at_most_twice : (servedRequest cfg tick req calls db counts user).2 ≤ 2
  /-- A request fails after two answers, and says so. -/
  failed_twice : ∀ statusCode response error,
    (servedRequest cfg tick req calls db counts user).1.result = .ok (statusCode, response) →
    response.error = some error → error.code = .schema_validation_failed →
    (servedRequest cfg tick req calls db counts user).2 = 2 ∧
      AnswersWith cfg tick req calls model 0 none ∧ AnswersWith cfg tick req calls model 1 none ∧
      response.guardrails.retried = true

end

/-! ### The loop -/

/-- A getter that always gives the same text is not read to any avail a second time. -/
theorem validateStructuredOutput_const {modelValidateJson : SchemaModel → Str → Option Json}
    {schemaName : Str} {model : SchemaModel} (hm : SCHEMA_REGISTRY.lookup schemaName = some model)
    (text : Str) :
    validateStructuredOutput modelValidateJson schemaName (fun _ => text) =
      match modelValidateJson model text with
      | some value => .ok (value, false)
      | none => .error .SchemaValidationFailed := by
  unfold validateStructuredOutput
  rw [hm]
  cases hv : modelValidateJson model text with
  | some value => simp only [hv]
  | none => simp only [hv]

/-- The getter of a loop that retries is called once more where the first text does not validate,
and what the second one comes to is returned as retried. -/
theorem validateStructuredOutput_retries {modelValidateJson : SchemaModel → Str → Option Json}
    {schemaName : Str} {model : SchemaModel} (hm : SCHEMA_REGISTRY.lookup schemaName = some model)
    {rawOutputGetter : Nat → Str} (h : modelValidateJson model (rawOutputGetter 0) = none)
    {value : Json} (h' : modelValidateJson model (rawOutputGetter 1) = some value) :
    validateStructuredOutput modelValidateJson schemaName rawOutputGetter = .ok (value, true) := by
  simp only [validateStructuredOutput, hm, h, h']

/-! ### A request under a schema -/

section Request

variable {cfg : Config} {tick : Tick} {req : GenerateRequest} {calls : ProviderCalls} {db : Db}
  {counts : SessionCounts} {user : User} {project : Project} {name : Str} {model : SchemaModel}

variable (cfg tick) in
/-- The answer is validated once: it is the output, or the request fails. -/
theorem answered_of_schema (hs : req.schemaName = some name)
    (hm : SCHEMA_REGISTRY.lookup name = some model) (llm : LLMResponse) (db : Db)
    (counts : SessionCounts) :
    ∃ usage guardrails, guardrails.retried = false ∧
      (answered cfg tick req llm db counts).result =
        match cfg.modelValidateJson model llm.text with
        | some value => .ok (200, { output := value, guardrails, usage })
        | none => .ok (422, { guardrails, usage, error := some ⟨.schema_validation_failed,
            "Structured output failed validation after retry."⟩ }) := by
  have named : name ≠ [] := by
    rintro rfl
    cases hm
  have asked : req.schemaName.filter (· ≠ []) = some name := by
    rw [hs]
    exact Option.filter_some_pos (decide_eq_true named)
  unfold answered
  dsimp only
  rw [asked]
  dsimp only
  rw [validateStructuredOutput_const hm]
  cases cfg.modelValidateJson model llm.text with
  | some value => exact ⟨_, _, rfl, rfl⟩
  | none => exact ⟨_, _, rfl, rfl⟩

variable (tick calls) in
/-- A request that comes to the provider calls it once. -/
theorem servedRequest_eq (hp : ownedProject db req.projectId user.id = .ok project)
    (hc : Called cfg req counts user) :
    ∃ db' counts', servedRequest cfg tick req calls db counts user =
      (called cfg (calls.tick tick 0) req (calls.default 0) db' counts', 1) := by
  refine ⟨inspected cfg (calls.tick tick 0) req db,
    (checkAndIncrement counts (quotaKey user) cfg.settings.rateLimitPerSession).2, ?_⟩
  rw [servedRequest, generateM_eq, hp, if_pos ⟨rfl, hc⟩, generate, hp]
  dsimp only
  rw [generateFor_of_called hc]

/-- What the first answer validates as. -/
theorem answersWith_iff {llm : LLMResponse}
    (ha : activeProvider (calls.tick tick 0) req (calls.default 0) req.messages = .ok llm)
    {validated : Option Json} : AnswersWith cfg tick req calls model 0 validated ↔
      cfg.modelValidateJson model llm.text = validated := by
  constructor
  · rintro ⟨llm', hllm, h⟩
    cases ha.symm.trans hllm
    exact h
  · exact fun h => ⟨llm, ha, h⟩

/-- A call that fails has no answer. -/
theorem not_answersWith {e : ProviderError}
    (ha : activeProvider (calls.tick tick 0) req (calls.default 0) req.messages = .error e)
    {validated : Option Json} : ¬ AnswersWith cfg tick req calls model 0 validated := by
  rintro ⟨llm, hllm, -⟩
  cases ha.symm.trans hllm

/-- **Structured output.**  A request that comes to the provider, under a schema that is registered,
gets what a retry promises exactly when the first answer of the provider validates, or the provider
fails: when there is nothing to retry. -/
theorem reallyRetries_iff (hp : ownedProject db req.projectId user.id = .ok project)
    (hc : Called cfg req counts user) (hs : req.schemaName = some name)
    (hm : SCHEMA_REGISTRY.lookup name = some model) :
    ReallyRetries cfg tick req calls db counts user model ↔
      ¬ AnswersWith cfg tick req calls model 0 none := by
  obtain ⟨db', counts', served⟩ := servedRequest_eq tick calls hp hc
  have once : (servedRequest cfg tick req calls db counts user).2 ≤ 2 := by
    rw [served]
    exact Nat.le_of_lt Nat.one_lt_two
  unfold called at served
  cases ha : activeProvider (calls.tick tick 0) req (calls.default 0) req.messages with
  | error e =>
      rw [ha] at served
      refine iff_of_true ⟨fun _ h => absurd h (not_answersWith ha), once, ?_⟩ (not_answersWith ha)
      intro statusCode response error hr he hcode
      rw [served] at hr
      cases e with
      | failed message =>
          cases hr
          cases he
          cases hcode
      | missing_credentials message =>
          cases hr
          cases he
          cases hcode
  | ok llm =>
      rw [ha] at served
      dsimp only at served
      obtain ⟨usage, guardrails, hg, result⟩ :=
        answered_of_schema cfg (calls.tick tick 0) hs hm llm db' counts'
      rw [answersWith_iff ha]
      cases hv : cfg.modelValidateJson model llm.text with
      | some value =>
          rw [hv] at result
          refine iff_of_true ⟨fun _ h => ?_, once, ?_⟩ (by simp)
          · cases hv.symm.trans ((answersWith_iff ha).mp h)
          · intro statusCode response error hr he
            rw [served, result] at hr
            cases hr
            cases he
      | none =>
          rw [hv] at result
          refine iff_of_false (fun h => ?_) (by simp)
          -- the request has failed after one call
          have twice := h.failed_twice 422 _ _ (by rw [served, result]) rfl rfl
          rw [served] at twice
          cases twice.1

end Request

/-! ### A provider that does better the second time -/

/-- A server that takes an empty object for the fields of a receipt, and nothing else. -/
def Config.receipts : Config :=
  { Config.bare with
    modelValidateJson := fun model text =>
      if model = .ReceiptFields ∧ text = "{}".toList then
        some (.obj [("vendor", .null), ("date", .null), ("line_items", .arr []), ("total", .null)])
      else none }

/-- The texts of a provider, call by call. -/
def saying (texts : Nat → Str) : ProviderCalls where
  default i := fun _ => .ok ⟨texts i, 1, 1, 5, "m", "groq"⟩
  sdks _ := Tick.zero.sdks

/-- No text, and then a receipt. -/
def betterSecond (i : Nat) : Str := if i = 0 then "not json" else "{}"

theorem called_receipts :
    Called .receipts (askAs (some "receipt_fields")) (fun _ => 0) owner :=
  ⟨by decide, by decide +kernel, by decide⟩

/-- A first answer that validates needs no retry. -/
theorem reallyRetries_iff_first :
    ReallyRetries .receipts .zero (askAs (some "receipt_fields")) (saying fun _ => "{}") ownerDb
      (fun _ => 0) owner .ReceiptFields :=
  (reallyRetries_iff ownedProject_owner called_receipts rfl (by decide)).mpr fun ⟨_, h, hv⟩ => by
    cases h
    exact absurd hv (by decide)

/-- **No retry.**  The first answer does not validate and the second one would: the request fails
after one call, and says that it was not retried. -/
theorem not_reallyRetries_second :
    let req := askAs (some "receipt_fields")
    let served := servedRequest .receipts .zero req (saying betterSecond) ownerDb (fun _ => 0) owner
    AnswersWith .receipts .zero req (saying betterSecond) .ReceiptFields 0 none ∧
    (∃ value, AnswersWith .receipts .zero req (saying betterSecond) .ReceiptFields 1
      (some value)) ∧
    served.2 = 1 ∧
    served.1.result.toOption.map (fun r => (r.1, r.2.error.map (·.code), r.2.guardrails.retried)) =
      some (422, some .schema_validation_failed, false) ∧
    ¬ ReallyRetries .receipts .zero req (saying betterSecond) ownerDb (fun _ => 0) owner
      .ReceiptFields := by
  intro req served
  have second : AnswersWith .receipts .zero req (saying betterSecond) .ReceiptFields 1
      (some (.obj [("vendor", .null), ("date", .null), ("line_items", .arr []),
        ("total", .null)])) := ⟨_, rfl, rfl⟩
  have code : served.1.result.toOption.map
      (fun r => (r.1, r.2.error.map (·.code), r.2.guardrails.retried)) =
      some (422, some .schema_validation_failed, false) := by decide +kernel
  refine ⟨⟨_, rfl, by decide⟩, ⟨_, second⟩, by decide +kernel, code, fun h => ?_⟩
  obtain ⟨response, hr, -⟩ := h.second _ ⟨_, rfl, by decide⟩ second
  have ok : served.1.result = .ok (200, response) := hr
  rw [ok] at code
  cases code

end SentinelAI
