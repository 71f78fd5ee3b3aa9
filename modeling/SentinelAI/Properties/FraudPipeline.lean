import SentinelAI.Properties.Verdict
import SentinelAI.Support.Stages

/-!
# Properties — FraudPipeline

Whether a run of the four nodes can lose a failure.  Each node leaves its result or an entry of
`errors`, never both and never neither, provided that it can read the answer to its call.

* `invoke_entries`: the run ends, and its new errors are those of the nodes whose result is null.
* `invoke_congr`: a run depends on the proxy through the calls it makes.
* `neverSilent`: the run of a pipeline whose extraction returns objects.
* `not_neverSilent_text`: an extraction whose output is a text makes the policy checker raise.
-/

namespace SentinelAI
open Support

variable {env : AgentsEnv}

/-! ### What the calls end in -/

/-- The body of an answer: an object whose error is absent, null or has a code and a message, and
which carries a non-null output and guardrails where the status is 200. -/
structure AnswerFormed (statusCode : Int) (body : Json) : Prop where
  isObj : body.isObj = true
  error : (body.get "error").isNull = true ∨
    (body.get "error").has "code" = true ∧ (body.get "error").has "message" = true
  output : statusCode = 200 → (body.get "output").isNull = false
  guardrails : statusCode = 200 → body.has "guardrails" = true

/-- A call fails to reach the proxy, or is answered in form. -/
def ProxyReply.Formed : ProxyReply → Prop
  | .unreachable _ => True
  | .answered statusCode body => AnswerFormed statusCode body

/-- Anything may fail, in form: what `analyze` returns is a model's dump, and not null. -/
structure AgentsEnv.Formed (env : AgentsEnv) : Prop where
  proxy : ∀ call, (env.proxy call).Formed
  analyze : ∀ imagePath result, env.analyze imagePath = .ok result → result.isNull = false

/-- The output of an extraction is an object, where there is one. -/
def AgentsEnv.ExtractsObjects (env : AgentsEnv) : Prop :=
  ∀ call, call.operation = .extract → ∀ body, env.proxy call = .answered 200 body →
    (body.get "output").isObj = true

/-- A null result stands with an entry of the node, and a result with none. -/
structure Reported (node : Str) (result : Json) (entry : Option NodeError) : Prop where
  null_iff : result.isNull = true ↔ ∃ e, entry = some e
  node_eq : ∀ e ∈ entry, e.node = node

theorem Reported.failed {node : Str} {e : NodeError} (h : e.node = node) :
    Reported node .null (some e) where
  null_iff := iff_of_true rfl ⟨e, rfl⟩
  node_eq _ he := Option.mem_some.mp he ▸ h

theorem Reported.done {node : Str} {result : Json} (h : result.isNull = false) :
    Reported node result none where
  null_iff := iff_of_false (by simp [h]) (by simp)
  node_eq _ he := nomatch he

theorem AnswerFormed.refusalReadable {statusCode : Int} {body : Json}
    (h : AnswerFormed statusCode body) : refusalReadable body = true := by
  unfold SentinelAI.refusalReadable
  rw [h.isObj, Bool.true_and]
  rcases h.error with hn | ⟨hc, hm⟩
  · cases he : body.get "error" with
    | null => rfl
    | _ => rw [he] at hn; cases hn
  · rw [hc, hm, Bool.and_self, Bool.or_true]

/-- **A call in form** is read, and its result reported. -/
theorem ProxyReply.Formed.reported {reply : ProxyReply} (h : reply.Formed) (node failed : Str) :
    ∃ guardrails entry, proxyResult node failed reply = .ok (reply.output, guardrails, entry) ∧
      Reported node reply.output entry := by
  cases reply with
  | unreachable message => exact ⟨_, _, rfl, .failed rfl⟩
  | answered statusCode body =>
      by_cases hs : statusCode ≠ 200
      · simp only [proxyResult, ProxyReply.output, if_pos hs]
        exact ⟨_, _, refusedResult_eq_ok.mpr ⟨h.refusalReadable, rfl⟩, .failed rfl⟩
      · simp only [proxyResult, ProxyReply.output, if_neg hs]
        have output := h.output (not_not.mp hs)
        have read : (body.has "output" && body.has "guardrails") = true := by
          rw [Json.has_of_get_not_null output, h.guardrails (not_not.mp hs), Bool.and_self]
        exact ⟨_, _, outputResult_eq_ok.mpr ⟨read, rfl⟩, .done output⟩

/-! ### The nodes -/

theorem extractorNode_reported (h : env.Formed) (s : FraudCaseState) :
    ∃ s' entry, extractorNode env s = .ok s' ∧ s'.errors = s.errors ++ entry.toList ∧
      Reported "extractor" (fieldsOf env s.sessionId s.imagePath) entry := by
  unfold extractorNode fieldsOf
  cases runOcr env s.imagePath with
  | error message => exact ⟨_, some _, rfl, rfl, .failed rfl⟩
  | ok text =>
      obtain ⟨guardrails, entry, hr, reported⟩ :=
        (h.proxy (extractCall s.sessionId text)).reported "extractor" "extract call failed"
      refine ⟨_, entry, bind_eq_ok.mpr ⟨_, hr, rfl⟩, ?_, reported⟩
      cases entry with
      | none => exact (List.append_nil _).symm
      | some e => rfl

theorem forensicsNode_reported (h : env.Formed) (s : FraudCaseState) :
    ∃ entry, (forensicsNode env s).errors = s.errors ++ entry.toList ∧
      Reported "forensics" (forensicsOf env s.imagePath) entry := by
  unfold forensicsNode forensicsOf
  cases ha : env.analyze s.imagePath with
  | ok result => exact ⟨none, (List.append_nil _).symm, .done (h.analyze _ _ ha)⟩
  | error message => exact ⟨some _, rfl, .failed rfl⟩

theorem ProxyReply.output_null_or_isObj {reply : ProxyReply}
    (h : ∀ body, reply = .answered 200 body → (body.get "output").isObj = true) :
    reply.output.isNull = true ∨ reply.output.isObj = true := by
  cases reply with
  | unreachable message => exact .inl rfl
  | answered statusCode body =>
      by_cases hs : statusCode ≠ 200
      · simp only [output, if_pos hs]
        exact .inl rfl
      · simp only [output, if_neg hs]
        exact .inr (h body (by rw [not_not.mp hs]))

/-- The fields that the extractor leaves are null, or an object. -/
theorem fieldsOf_null_or_isObj (ho : env.ExtractsObjects) (sessionId imagePath : Str) :
    (fieldsOf env sessionId imagePath).isNull = true ∨
      (fieldsOf env sessionId imagePath).isObj = true := by
  unfold fieldsOf
  cases runOcr env imagePath with
  | error message => exact Or.inl rfl
  | ok text =>
      have object := ho (extractCall sessionId text) rfl
      exact ProxyReply.output_null_or_isObj object

theorem checkPolicy_reported (h : env.Formed) (sessionId : Str) {fields : Json}
    (hf : fields.isNull = true ∨ fields.isObj = true) :
    ∃ guardrails entry,
      checkPolicy env sessionId fields = .ok (verdictOf env sessionId fields, guardrails, entry) ∧
      Reported "policy_checker" (verdictOf env sessionId fields) entry := by
  unfold checkPolicy verdictOf
  cases hn : fields.isNull with
  | true => exact ⟨_, none, rfl, .done rfl⟩
  | false =>
      have hobj : fields.isObj = true := by simpa [hn] using hf
      obtain ⟨guardrails, entry, hr, reported⟩ :=
        (h.proxy (policyCall env sessionId fields !(fields.get "date").isNull)).reported
          "policy_checker" "policy check failed"
      exact ⟨guardrails, entry,
        bind_eq_ok.mpr ⟨_, Json.getOr_null_eq_ok.mpr ⟨hobj, rfl⟩, hr⟩, reported⟩

theorem FraudCaseState.appendError_eq (s : FraudCaseState) (entry : Option NodeError) :
    s.appendError entry = s.errors ++ entry.toList := by
  cases entry with
  | none => exact (List.append_nil _).symm
  | some e => rfl

/-! ### A run -/

/-- The nodes, in the order of the edges. -/
def nodes : List Str := ["extractor", "forensics", "policy_checker", "report_writer"]

/-- The four nodes run, one after another. -/
def Ran (env : AgentsEnv) (s s' : FraudCaseState) : Prop :=
  ∃ s₁ s₂, extractorNode env s = .ok s₁ ∧ policyCheckerNode env (forensicsNode env s₁) = .ok s₂ ∧
    reportWriterNode env s₂ = .ok s'

theorem invoke_eq_ok {s s' : FraudCaseState} : invoke env s = .ok s' ↔ Ran env s s' := by
  simp only [invoke, policyChecked, bind_eq_ok, Ran]
  constructor
  · rintro ⟨s₂, ⟨s₁, h₁, h₂⟩, h₃⟩
    exact ⟨s₁, s₂, h₁, h₂, h₃⟩
  · rintro ⟨s₁, s₂, h₁, h₂, h₃⟩
    exact ⟨s₂, ⟨s₁, h₁, h₂⟩, h₃⟩

/-- The errors that a run adds: in the order of the nodes, at most one of each, and a node's result
is null exactly when there is one of it. -/
structure Accounts (added : List NodeError) (s' : FraudCaseState) : Prop where
  order : (added.map (·.node)).Sublist nodes
  extractor : s'.extractedFields.isNull = true ↔ "extractor".toList ∈ added.map (·.node)
  forensics : s'.forensicsResult.isNull = true ↔ "forensics".toList ∈ added.map (·.node)
  policyChecker : s'.policyVerdict.isNull = true ↔ "policy_checker".toList ∈ added.map (·.node)
  reportWriter : s'.reportText.isNull = true ↔ "report_writer".toList ∈ added.map (·.node)

theorem Reported.accounts {fields forensics verdict text : Json}
    {e₁ e₂ e₃ e₄ : Option NodeError} (h₁ : Reported "extractor" fields e₁)
    (h₂ : Reported "forensics" forensics e₂) (h₃ : Reported "policy_checker" verdict e₃)
    (h₄ : Reported "report_writer" text e₄) {s' : FraudCaseState}
    (hf : s'.extractedFields = fields) (hx : s'.forensicsResult = forensics)
    (hv : s'.policyVerdict = verdict) (ht : s'.reportText = text) :
    Accounts ([e₁, e₂, e₃, e₄].flatMap Option.toList) s' := by
  have traced : Traced NodeError.node nodes [e₁, e₂, e₃, e₄] :=
    .cons h₁.node_eq (.cons h₂.node_eq (.cons h₃.node_eq (.cons h₄.node_eq .nil)))
  have mem := traced.mem_labels_iff (by decide)
  refine ⟨traced.labels_sublist, ?_, ?_, ?_, ?_⟩
  · rw [hf, h₁.null_iff]
    simpa [nodes] using (mem 0 (by decide)).symm
  · rw [hx, h₂.null_iff]
    simpa [nodes] using (mem 1 (by decide)).symm
  · rw [hv, h₃.null_iff]
    simpa [nodes] using (mem 2 (by decide)).symm
  · rw [ht, h₄.null_iff]
    simpa [nodes] using (mem 3 (by decide)).symm

/-- **The entries of a run**: it ends, and accounts for each null result. -/
theorem invoke_entries (h : env.Formed) (ho : env.ExtractsObjects) (s : FraudCaseState) :
    ∃ s' added, Ran env s s' ∧ s'.errors = s.errors ++ added ∧ Accounts added s' ∧
      s'.extractedFields = fieldsOf env s.sessionId s.imagePath ∧
      s'.policyVerdict = verdictOf env s.sessionId s'.extractedFields := by
  obtain ⟨s₁, e₁, ran₁, errors₁, reported₁⟩ := extractorNode_reported h s
  obtain ⟨hid, himage, hfields⟩ := extractorNode_eq_ok ran₁
  obtain ⟨e₂, errors₂, reported₂⟩ := forensicsNode_reported h s₁
  obtain ⟨hid', hfields', hforensics⟩ := forensicsNode_frame env s₁
  have readable : s₁.extractedFields.isNull = true ∨ s₁.extractedFields.isObj = true := by
    rw [hfields]
    exact fieldsOf_null_or_isObj ho _ _
  obtain ⟨guardrails₃, e₃, ran₃, reported₃⟩ := checkPolicy_reported h s₁.sessionId readable
  rw [← hfields', ← hid'] at ran₃
  obtain ⟨guardrails₄, e₄, ran₄, reported₄⟩ := (h.proxy (reportCall s₁.sessionId
    (buildEvidenceBundle env s₁.extractedFields (forensicsNode env s₁).forensicsResult
      (verdictOf env s₁.sessionId s₁.extractedFields)))).reported "report_writer"
    "report call failed"
  rw [← hfields', ← hid'] at ran₄
  refine ⟨_, [e₁, e₂, e₃, e₄].flatMap Option.toList,
    ⟨s₁, _, ran₁, bind_eq_ok.mpr ⟨_, ran₃, rfl⟩, bind_eq_ok.mpr ⟨_, ran₄, rfl⟩⟩, ?_, ?_, ?_, ?_⟩
  · simp only [FraudCaseState.appendError_eq, errors₂, errors₁]
    simp
  · rw [← hfields] at reported₁
    rw [← hforensics] at reported₂
    exact reported₁.accounts reported₂ reported₃ reported₄ hfields' rfl
      (by rw [hid', hfields']) (by rw [hid', hfields'])
  · exact hfields'.trans hfields
  · change verdictOf env (forensicsNode env s₁).sessionId _ = _
    rw [hid', hid]

/-! ### The calls of a run -/

/-- The calls that the extractor makes. -/
def extractorCalls (env : AgentsEnv) (s : FraudCaseState) : List ProxyCall :=
  match runOcr env s.imagePath with
  | .error _ => []
  | .ok ocrText => [extractCall s.sessionId ocrText]

/-- The calls that the policy checker makes. -/
def policyCheckerCalls (env : AgentsEnv) (s : FraudCaseState) : List ProxyCall :=
  if s.extractedFields.isNull then []
  else
    match s.extractedFields.getOr "date" .null with
    | .error _ => []
    | .ok date => [policyCall env s.sessionId s.extractedFields !date.isNull]

def reportWriterCalls (env : AgentsEnv) (s : FraudCaseState) : List ProxyCall :=
  [reportCall s.sessionId
    (buildEvidenceBundle env s.extractedFields s.forensicsResult s.policyVerdict)]

/-- The calls of a run, up to the node that raises, if one does. -/
def calls (env : AgentsEnv) (s : FraudCaseState) : List ProxyCall :=
  extractorCalls env s ++
    match extractorNode env s with
    | .error _ => []
    | .ok s₁ => policyCheckerCalls env (forensicsNode env s₁) ++
        match policyCheckerNode env (forensicsNode env s₁) with
        | .error _ => []
        | .ok s₂ => reportWriterCalls env s₂

variable {proxy : ProxyCall → ProxyReply}

theorem extractorNode_congr {s : FraudCaseState}
    (h : ∀ call ∈ extractorCalls env s, proxy call = env.proxy call) :
    extractorNode { env with proxy } s = extractorNode env s := by
  unfold extractorCalls at h
  unfold extractorNode extractFields
  change (match runOcr env s.imagePath with | .error _ => _ | .ok _ => _) = _
  cases ho : runOcr env s.imagePath with
  | error message => rfl
  | ok text =>
      rw [ho] at h
      dsimp only
      rw [h _ (List.mem_singleton_self _)]

theorem policyCheckerNode_congr {s : FraudCaseState}
    (h : ∀ call ∈ policyCheckerCalls env s, proxy call = env.proxy call) :
    policyCheckerNode { env with proxy } s = policyCheckerNode env s := by
  unfold policyCheckerCalls at h
  unfold policyCheckerNode checkPolicy
  cases hn : s.extractedFields.isNull with
  | true => rfl
  | false =>
      rw [hn, if_neg Bool.false_ne_true] at h
      cases hd : s.extractedFields.getOr "date" .null with
      | error exc => rfl
      | ok date =>
          rw [hd] at h
          have same := h _ (List.mem_singleton_self _)
          simp only [Bool.false_eq_true, if_false]
          change (proxyResult _ _ (proxy (policyCall env s.sessionId s.extractedFields
            !date.isNull)) >>= _) = _
          rw [same]
          rfl

theorem reportWriterNode_congr {s : FraudCaseState}
    (h : ∀ call ∈ reportWriterCalls env s, proxy call = env.proxy call) :
    reportWriterNode { env with proxy } s = reportWriterNode env s := by
  unfold reportWriterNode writeReport
  have same := h _ (List.mem_singleton_self _)
  change (proxyResult _ _ (proxy (reportCall s.sessionId (buildEvidenceBundle env
    s.extractedFields s.forensicsResult s.policyVerdict))) >>= _) = _
  rw [same]

/-- **The footprint of a run**: it depends on the proxy through the calls it makes. -/
theorem invoke_congr {s : FraudCaseState}
    (h : ∀ call ∈ calls env s, proxy call = env.proxy call) :
    invoke { env with proxy } s = invoke env s := by
  unfold calls at h
  obtain ⟨h₁, h⟩ := List.forall_mem_append.mp h
  unfold invoke policyChecked
  rw [extractorNode_congr h₁]
  cases hx : extractorNode env s with
  | error exc => rfl
  | ok s₁ =>
      rw [hx] at h
      obtain ⟨h₂, h⟩ := List.forall_mem_append.mp h
      change ((policyCheckerNode { env with proxy } (forensicsNode env s₁)) >>= _) = _
      rw [policyCheckerNode_congr h₂]
      cases hp : policyCheckerNode env (forensicsNode env s₁) with
      | error exc =>
          change Except.error exc = (policyCheckerNode env (forensicsNode env s₁) >>= _)
          rw [hp]
          rfl
      | ok s₂ =>
          rw [hp] at h
          change reportWriterNode { env with proxy } s₂ =
            (policyCheckerNode env (forensicsNode env s₁) >>= _)
          rw [hp, reportWriterNode_congr h]
          rfl

/-- A run of which nothing was extracted makes no policy call. -/
theorem no_policy_call {s : FraudCaseState}
    (h : (fieldsOf env s.sessionId s.imagePath).isNull = true) :
    ∀ call ∈ calls env s, call.operation ≠ .policy_check := by
  have extracts : ∀ call ∈ extractorCalls env s, call.operation ≠ .policy_check := by
    intro call hc
    unfold extractorCalls at hc
    split at hc
    · cases hc
    · rw [List.mem_singleton.mp hc]
      exact fun he => nomatch he
  refine List.forall_mem_append.mpr ⟨extracts, ?_⟩
  cases hx : extractorNode env s with
  | error exc => exact fun call hc => absurd hc List.not_mem_nil
  | ok s₁ =>
      have fields : (forensicsNode env s₁).extractedFields.isNull = true := by
        rw [(forensicsNode_frame env s₁).2.1, (extractorNode_eq_ok hx).2.2, h]
      have none : policyCheckerCalls env (forensicsNode env s₁) = [] := if_pos fields
      dsimp only
      rw [none, List.nil_append]
      cases policyCheckerNode env (forensicsNode env s₁) with
      | error exc => exact fun call hc => absurd hc List.not_mem_nil
      | ok s₂ =>
          intro call hc
          rw [List.mem_singleton.mp hc]
          exact fun he => nomatch he

/-! ### No failure is silent -/

/-- The four nodes run, and the final state accounts for each result that is missing.  Where the
fields are missing, the verdict says so, and no policy call is made: the run is the same whatever
the proxy would answer to one. -/
def NeverSilent (env : AgentsEnv) (s : FraudCaseState) : Prop :=
  ∃ s' added, invoke env s = .ok s' ∧ Ran env s s' ∧ s'.errors = s.errors ++ added ∧
    Accounts added s' ∧
    (s'.extractedFields.isNull = true →
      s'.policyVerdict = extractionFailed ∧
      (∀ call ∈ calls env s, call.operation ≠ .policy_check) ∧
      ∀ proxy : ProxyCall → ProxyReply,
        (∀ call, call.operation ≠ .policy_check → proxy call = env.proxy call) →
        invoke { env with proxy } s = .ok s')

/-- **The pipeline never fails silently**, where an extraction returns objects. -/
theorem neverSilent (h : env.Formed) (ho : env.ExtractsObjects) (s : FraudCaseState) :
    NeverSilent env s := by
  obtain ⟨s', added, ran, errors, accounts, hfields, hverdict⟩ := invoke_entries h ho s
  have ended := invoke_eq_ok.mpr ran
  refine ⟨s', added, ended, ran, errors, accounts, fun hnull => ?_⟩
  have noCall := no_policy_call (hfields ▸ hnull)
  refine ⟨by rw [hverdict, verdictOf, if_pos hnull], noCall, fun proxy same => ?_⟩
  rw [← ended]
  exact invoke_congr fun call hc => same call (noCall call hc)

theorem receiptEnv_formed {reply : ProxyReply} (h : reply.Formed) : (receiptEnv reply).Formed where
  proxy call := by
    unfold receiptEnv
    dsimp only
    split
    · exact h
    · exact ⟨rfl, .inl rfl, fun _ => rfl, fun _ => rfl⟩
  analyze _ _ ha := by
    cases ha
    rfl

theorem receiptEnv_extractsObjects (reply : ProxyReply) : (receiptEnv reply).ExtractsObjects := by
  intro call hc body hb
  simp only [receiptEnv, hc] at hb
  cases hb
  rfl

theorem neverSilent_unreachable :
    NeverSilent (receiptEnv (.unreachable "Connection refused")) (.start "s" "r.png") :=
  neverSilent (@receiptEnv_formed (.unreachable "Connection refused") trivial)
    (receiptEnv_extractsObjects _) _

/-- A receipt that is read, and a proxy that answers every call with a text. -/
def textEnv : AgentsEnv :=
  { receiptEnv (.unreachable "Connection refused") with
    proxy _ := .answered 200 (.obj [("output", .str "TOTAL 12.00"), ("guardrails", .obj [])]) }

/-- The fields are a text, and the policy checker, which asks them for a date, raises. -/
theorem not_neverSilent_text :
    textEnv.Formed ∧ ¬ NeverSilent textEnv (.start "s" "r.png") ∧
      ¬ ∀ env : AgentsEnv, env.Formed → ∀ s, NeverSilent env s := by
  have formed : textEnv.Formed :=
    ⟨fun _ => ⟨rfl, .inl rfl, fun _ => rfl, fun _ => rfl⟩,
      (@receiptEnv_formed (.unreachable "Connection refused") trivial).analyze⟩
  have silent : ¬ NeverSilent textEnv (.start "s" "r.png") := by
    rintro ⟨s', _, ended, -⟩
    have raised : invoke textEnv (.start "s" "r.png") = .error .AttributeError := rfl
    rw [raised] at ended
    cases ended
  exact ⟨formed, silent, fun h => silent (h _ formed _)⟩

end SentinelAI
