import SentinelAI.Frontend.Review

/-!
# Properties — Verdict

Whether a receipt is shown and recorded as compliant without a policy check that says so.  It is,
where the policy call fails: the verdict is then null, and both front ends take a missing
`compliant` for true.

* `failsClosed_iff`: a run fails closed exactly when its replies can be read and the policy check
  is answered with a verdict.
* `not_failsClosed_unreachable`: it does not when the proxy cannot be reached for the policy call.
-/

namespace SentinelAI
open Support

variable {env : AgentsEnv} {sessionId imagePath : Str}

/-- The policy checker returned a verdict with `compliant` true in the run. -/
def CompliantReturned (env : AgentsEnv) (sessionId imagePath : Str) : Prop :=
  ∃ s, policyChecked env (.start sessionId imagePath) = .ok s ∧
    s.policyVerdict.get "compliant" = .bool true

/-- No receipt is shown or recorded as compliant unless the policy checker said so. -/
structure FailsClosed (env : AgentsEnv) (sessionId imagePath : Str) : Prop where
  displayed : ∀ display, computeDisplay (runOnReceipt env sessionId imagePath) = .ok display →
    display.verdict = .compliant → CompliantReturned env sessionId imagePath
  recorded : ∀ display receiptRef humanDecision notes,
    computeDisplay (runOnReceipt env sessionId imagePath) = .ok display →
    (recordReviewDecision sessionId receiptRef display humanDecision notes).systemVerdict =
      SystemVerdict.compliant.value → CompliantReturned env sessionId imagePath
  badge : VerdictCard.compliant ((analyzeReceipt env sessionId imagePath).get "policy_verdict") =
    true → CompliantReturned env sessionId imagePath
  posted : ∀ receiptRef confidence hallucinationPct humanDecision notes,
    (HumanDecisionPanel.decide sessionId receiptRef
      ((analyzeReceipt env sessionId imagePath).get "policy_verdict") confidence hallucinationPct
      humanDecision notes).systemVerdict = SystemVerdict.compliant.value →
    CompliantReturned env sessionId imagePath
  /-- Where the check leaves no verdict, the receipt is not shown as compliant. -/
  failed : ∀ s, policyChecked env (.start sessionId imagePath) = .ok s →
    s.policyVerdict.isNull = true →
    VerdictCard.compliant ((analyzeReceipt env sessionId imagePath).get "policy_verdict") = false ∧
    ∀ display, computeDisplay (runOnReceipt env sessionId imagePath) = .ok display →
      display.verdict = .non_compliant

/-! ### Replies -/

/-- An answer that is not 200 can be read: it is an object, with an error that is absent, empty or
has a code and a message. -/
def refusalReadable (body : Json) : Bool :=
  body.isObj && (!(body.get "error").truthy ||
    ((body.get "error").has "code" && (body.get "error").has "message"))

/-- A node can read the reply; an answer of 200 has an output and guardrails. -/
def ProxyReply.readable : ProxyReply → Bool
  | .unreachable _ => true
  | .answered statusCode body =>
      if statusCode ≠ 200 then refusalReadable body else body.has "output" && body.has "guardrails"

/-- The output of a reply, which is null where the call failed. -/
def ProxyReply.output : ProxyReply → Json
  | .unreachable _ => .null
  | .answered statusCode body => if statusCode ≠ 200 then .null else body.get "output"

/-- The error that a node reads in an answer. -/
def refusalError (failed : Str) (body : Json) : Json :=
  (body.get "error").or (.obj [("code", .str "unknown"), ("message", .str failed)])

theorem refusalReadable_iff {failed : Str} {body : Json} :
    refusalReadable body = true ↔ body.isObj = true ∧
      (refusalError failed body).has "code" = true ∧
      (refusalError failed body).has "message" = true := by
  unfold refusalReadable refusalError
  cases ht : (body.get "error").truthy with
  | false =>
      rw [Json.or, if_neg (by rw [ht]; exact Bool.false_ne_true)]
      simp only [Bool.not_false, Bool.true_or, Bool.and_true]
      exact (and_iff_left ⟨rfl, rfl⟩).symm
  | true =>
      rw [Json.or, if_pos ht]
      simp

theorem refusedResult_eq_ok {node failed : Str} {body : Json}
    {r : Json × Json × Option NodeError} :
    refusedResult node failed body = .ok r ↔ refusalReadable body = true ∧
      r = (.null, body.get "guardrails", some ⟨node, (refusalError failed body).get "code",
        (refusalError failed body).get "message"⟩) := by
  rw [@refusalReadable_iff failed]
  simp only [refusedResult, bind_eq_ok, Json.getOr_null_eq_ok, Json.item_eq_ok]
  constructor
  · rintro ⟨_, ⟨hobj, rfl⟩, _, ⟨-, rfl⟩, _, ⟨hc, rfl⟩, _, ⟨hm, rfl⟩, h⟩
    exact ⟨⟨hobj, hc, hm⟩, (Except.ok.inj h).symm⟩
  · rintro ⟨⟨hobj, hc, hm⟩, rfl⟩
    exact ⟨_, ⟨hobj, rfl⟩, _, ⟨hobj, rfl⟩, _, ⟨hc, rfl⟩, _, ⟨hm, rfl⟩, rfl⟩

theorem outputResult_eq_ok {body : Json} {r : Json × Json × Option NodeError} :
    outputResult body = .ok r ↔ (body.has "output" && body.has "guardrails") = true ∧
      r = (body.get "output", body.get "guardrails", none) := by
  simp only [outputResult, bind_eq_ok, Json.item_eq_ok, Bool.and_eq_true]
  constructor
  · rintro ⟨_, ⟨ho, rfl⟩, _, ⟨hg, rfl⟩, h⟩
    exact ⟨⟨ho, hg⟩, (Except.ok.inj h).symm⟩
  · rintro ⟨⟨ho, hg⟩, rfl⟩
    exact ⟨_, ⟨ho, rfl⟩, _, ⟨hg, rfl⟩, rfl⟩

/-- **Reading a reply**: nothing is raised exactly when it is readable, and the result is the
output. -/
theorem proxyResult_iff {node failed : Str} {reply : ProxyReply} :
    (∃ r, proxyResult node failed reply = .ok r) ↔ reply.readable = true := by
  cases reply with
  | unreachable message => exact iff_of_true ⟨_, rfl⟩ rfl
  | answered statusCode body =>
      by_cases hs : statusCode ≠ 200
      · simp only [proxyResult, ProxyReply.readable, if_pos hs, refusedResult_eq_ok]
        rw [exists_and_left, and_iff_left ⟨_, rfl⟩]
      · simp only [proxyResult, ProxyReply.readable, if_neg hs, outputResult_eq_ok]
        rw [exists_and_left, and_iff_left ⟨_, rfl⟩]

theorem proxyResult_output {node failed : Str} {reply : ProxyReply}
    {r : Json × Json × Option NodeError} (h : proxyResult node failed reply = .ok r) :
    r.1 = reply.output := by
  cases reply with
  | unreachable message =>
      rw [← Except.ok.inj h]
      rfl
  | answered statusCode body =>
      by_cases hs : statusCode ≠ 200
      · simp only [proxyResult, if_pos hs, refusedResult_eq_ok] at h
        rw [h.2, ProxyReply.output, if_pos hs]
      · simp only [proxyResult, if_neg hs, outputResult_eq_ok] at h
        rw [h.2, ProxyReply.output, if_neg hs]

/-! ### The nodes -/

/-- The fields that the extractor leaves, which are null where OCR or the call fails. -/
def fieldsOf (env : AgentsEnv) (sessionId imagePath : Str) : Json :=
  match runOcr env imagePath with
  | .error _ => .null
  | .ok text => (env.proxy (extractCall sessionId text)).output

def forensicsOf (env : AgentsEnv) (imagePath : Str) : Json :=
  match env.analyze imagePath with
  | .ok result => result
  | .error _ => .null

/-- The reply to the policy call on `fields`. -/
def policyReply (env : AgentsEnv) (sessionId : Str) (fields : Json) : ProxyReply :=
  env.proxy (policyCall env sessionId fields !(fields.get "date").isNull)

/-- The verdict on `fields`, which is null where the policy call fails. -/
def verdictOf (env : AgentsEnv) (sessionId : Str) (fields : Json) : Json :=
  if fields.isNull then extractionFailed else (policyReply env sessionId fields).output

/-- The reply to the report call. -/
def reportReply (env : AgentsEnv) (sessionId : Str) (fields forensics : Json) : ProxyReply :=
  env.proxy (reportCall sessionId
    (buildEvidenceBundle env fields forensics (verdictOf env sessionId fields)))

/-- The extraction call, where OCR reads a text, can be read. -/
def ExtractionReadable (env : AgentsEnv) (sessionId imagePath : Str) : Prop :=
  ∀ text, runOcr env imagePath = .ok text →
    (env.proxy (extractCall sessionId text)).readable = true

/-- The policy call, where there are fields, can be made and read. -/
def PolicyReadable (env : AgentsEnv) (sessionId : Str) (fields : Json) : Prop :=
  fields.isNull = true ∨ fields.isObj = true ∧ (policyReply env sessionId fields).readable = true

theorem extractorNode_iff {s : FraudCaseState} :
    (∃ s', extractorNode env s = .ok s') ↔ ExtractionReadable env s.sessionId s.imagePath := by
  unfold extractorNode ExtractionReadable
  cases runOcr env s.imagePath with
  | error message => exact iff_of_true ⟨_, rfl⟩ fun _ h => nomatch h
  | ok text =>
      have read := @proxyResult_iff "extractor" "extract call failed"
        (env.proxy (extractCall s.sessionId text))
      simp only [Except.ok.injEq, forall_eq', ← read, bind_eq_ok]
      exact ⟨fun ⟨_, r, h, _⟩ => ⟨r, h⟩, fun ⟨r, h⟩ => ⟨_, r, h, rfl⟩⟩

theorem extractorNode_eq_ok {s s' : FraudCaseState} (h : extractorNode env s = .ok s') :
    s'.sessionId = s.sessionId ∧ s'.imagePath = s.imagePath ∧
      s'.extractedFields = fieldsOf env s.sessionId s.imagePath := by
  unfold extractorNode at h
  unfold fieldsOf
  cases ho : runOcr env s.imagePath with
  | error message =>
      rw [ho] at h
      rw [← Except.ok.inj h]
      exact ⟨rfl, rfl, rfl⟩
  | ok text =>
      rw [ho] at h
      obtain ⟨r, hr, h⟩ := bind_eq_ok.mp h
      rw [← Except.ok.inj h]
      exact ⟨rfl, rfl, proxyResult_output hr⟩

variable (env) in
theorem forensicsNode_frame (s : FraudCaseState) :
    (forensicsNode env s).sessionId = s.sessionId ∧
      (forensicsNode env s).extractedFields = s.extractedFields ∧
      (forensicsNode env s).forensicsResult = forensicsOf env s.imagePath := by
  unfold forensicsNode forensicsOf
  cases env.analyze s.imagePath <;> exact ⟨rfl, rfl, rfl⟩

theorem checkPolicy_iff {fields : Json} :
    (∃ r, checkPolicy env sessionId fields = .ok r) ↔ PolicyReadable env sessionId fields := by
  unfold checkPolicy PolicyReadable
  cases hn : fields.isNull with
  | true =>
      rw [if_pos rfl]
      exact iff_of_true ⟨_, rfl⟩ (.inl rfl)
  | false =>
      rw [if_neg Bool.false_ne_true]
      simp only [bind_eq_ok, Json.getOr_null_eq_ok, Bool.false_eq_true, false_or, policyReply,
        ← @proxyResult_iff "policy_checker" "policy check failed"]
      constructor
      · rintro ⟨r, _, ⟨hobj, rfl⟩, h⟩
        exact ⟨hobj, r, h⟩
      · rintro ⟨hobj, r, h⟩
        exact ⟨r, _, ⟨hobj, rfl⟩, h⟩

theorem checkPolicy_eq_ok {fields : Json} {r : Json × Json × Option NodeError}
    (h : checkPolicy env sessionId fields = .ok r) : r.1 = verdictOf env sessionId fields := by
  unfold checkPolicy at h
  unfold verdictOf
  cases hn : fields.isNull with
  | true =>
      rw [hn, if_pos rfl] at h
      rw [if_pos rfl, ← Except.ok.inj h]
  | false =>
      rw [hn, if_neg Bool.false_ne_true] at h
      obtain ⟨_, hd, h⟩ := bind_eq_ok.mp h
      obtain ⟨-, rfl⟩ := Json.getOr_null_eq_ok.mp hd
      rw [if_neg Bool.false_ne_true]
      exact proxyResult_output h

/-! ### A run -/

theorem policyChecked_iff : (∃ s, policyChecked env (.start sessionId imagePath) = .ok s) ↔
    ExtractionReadable env sessionId imagePath ∧
      PolicyReadable env sessionId (fieldsOf env sessionId imagePath) := by
  have extracts := @extractorNode_iff env (.start sessionId imagePath)
  simp only [policyChecked, bind_eq_ok]
  constructor
  · rintro ⟨s, s₁, h₁, h₂⟩
    refine ⟨extracts.mp ⟨s₁, h₁⟩, ?_⟩
    obtain ⟨hid, himage, hfields⟩ := extractorNode_eq_ok h₁
    obtain ⟨hid', hfields', -⟩ := forensicsNode_frame env s₁
    obtain ⟨r, hr, -⟩ := bind_eq_ok.mp h₂
    rw [hid', hfields', hid, hfields] at hr
    exact checkPolicy_iff.mp ⟨r, hr⟩
  · rintro ⟨he, hp⟩
    obtain ⟨s₁, h₁⟩ := extracts.mpr he
    obtain ⟨hid, himage, hfields⟩ := extractorNode_eq_ok h₁
    obtain ⟨hid', hfields', -⟩ := forensicsNode_frame env s₁
    obtain ⟨r, hr⟩ := checkPolicy_iff.mpr hp
    exact ⟨_, s₁, h₁, bind_eq_ok.mpr ⟨r, by rw [hid', hfields', hid, hfields]; exact hr, rfl⟩⟩

/-- The state in which the policy checker leaves a run. -/
theorem policyChecked_eq_ok {s : FraudCaseState}
    (h : policyChecked env (.start sessionId imagePath) = .ok s) :
    s.sessionId = sessionId ∧ s.extractedFields = fieldsOf env sessionId imagePath ∧
      s.forensicsResult = forensicsOf env imagePath ∧
      s.policyVerdict = verdictOf env sessionId (fieldsOf env sessionId imagePath) := by
  obtain ⟨s₁, h₁, h₂⟩ := bind_eq_ok.mp h
  obtain ⟨hid, himage, hfields⟩ := extractorNode_eq_ok h₁
  obtain ⟨hid', hfields', hforensics⟩ := forensicsNode_frame env s₁
  obtain ⟨r, hr, h⟩ := bind_eq_ok.mp h₂
  have verdict := checkPolicy_eq_ok hr
  rw [hid', hfields', hid, hfields] at verdict
  rw [← Except.ok.inj h]
  exact ⟨hid'.trans hid, hfields'.trans hfields, by rw [hforensics, himage]; rfl, verdict⟩

/-- After the policy checker the run ends, where the report call can be read, and keeps the
verdict. -/
theorem invoke_of_policyChecked {s : FraudCaseState}
    (h : policyChecked env (.start sessionId imagePath) = .ok s) :
    ((∃ s', invoke env (.start sessionId imagePath) = .ok s') ↔
      (reportReply env sessionId (fieldsOf env sessionId imagePath)
        (forensicsOf env imagePath)).readable = true) ∧
    ∀ s', invoke env (.start sessionId imagePath) = .ok s' →
      s'.policyVerdict = s.policyVerdict := by
  obtain ⟨hid, hfields, hforensics, hverdict⟩ := policyChecked_eq_ok h
  have hi : invoke env (.start sessionId imagePath) = reportWriterNode env s := by
    rw [invoke, h]
    rfl
  rw [hi]
  simp only [reportWriterNode, bind_eq_ok, writeReport, hid, hfields, hforensics, hverdict,
    reportReply, ← @proxyResult_iff "report_writer" "report call failed"]
  refine ⟨⟨fun ⟨_, r, hr, _⟩ => ⟨r, hr⟩, fun ⟨r, hr⟩ => ⟨_, r, hr, rfl⟩⟩, ?_⟩
  rintro s' ⟨r, -, hs⟩
  rw [← Except.ok.inj hs]

/-! ### The verdict that is shown -/

theorem jsTruthy_of_truthy {v : Json} (h : v.truthy = true) : jsTruthy v = true := by
  cases v with
  | arr xs => rfl
  | obj items => rfl
  | _ => exact h

/-- Where the verdict of a display comes from. -/
theorem computeDisplay_verdict {state : FraudCaseState} {display : Display}
    (h : computeDisplay state = .ok display) : ∃ compliant,
      (state.policyVerdict.or (.obj [])).getOr "compliant" (.bool true) = .ok compliant ∧
      display.verdict = if compliant.truthy then .compliant else .non_compliant := by
  obtain ⟨_, -, h⟩ := bind_eq_ok.mp h
  obtain ⟨_, -, h⟩ := bind_eq_ok.mp h
  obtain ⟨_, -, h⟩ := bind_eq_ok.mp h
  obtain ⟨compliant, hget, h⟩ := bind_eq_ok.mp h
  obtain ⟨_, -, h⟩ := bind_eq_ok.mp h
  obtain ⟨_, -, h⟩ := bind_eq_ok.mp h
  obtain ⟨_, -, h⟩ := bind_eq_ok.mp h
  exact ⟨compliant, hget, by rw [← Except.ok.inj h]⟩

/-- What the review screen shows as compliant, the web components take for compliant. -/
theorem compliantOr_of_display {state : FraudCaseState} {display : Display}
    (h : computeDisplay state = .ok display) (hc : display.verdict = .compliant) :
    compliantOr state.policyVerdict = true := by
  obtain ⟨compliant, hget, hv⟩ := computeDisplay_verdict h
  have truthy : compliant.truthy = true := by
    by_contra hn
    rw [hc, if_neg hn] at hv
    cases hv
  cases hp : state.policyVerdict with
  | obj items =>
      cases hl : items.lookup "compliant".toList with
      | none => simp only [compliantOr, hl]
      | some v =>
          -- an object with the key is not empty, and is read itself
          have hor : (Json.obj items).or (.obj []) = .obj items := by
            cases items with
            | nil => cases hl
            | cons item items => rfl
          rw [hp, hor, Json.getOr, hl] at hget
          obtain rfl : v = compliant := Except.ok.inj hget
          cases v with
          | null => cases truthy
          | _ =>
              simp only [compliantOr, hl]
              exact jsTruthy_of_truthy truthy
  | _ => rfl

theorem analyzeReceipt_policyVerdict :
    (analyzeReceipt env sessionId imagePath).get "policy_verdict" =
      (runOnReceipt env sessionId imagePath).policyVerdict := rfl

/-- Failing closed is a matter of what the web components take for compliant. -/
theorem failsClosed_iff_compliantOr : FailsClosed env sessionId imagePath ↔
    (compliantOr (runOnReceipt env sessionId imagePath).policyVerdict = true →
      CompliantReturned env sessionId imagePath) := by
  have recorded {v : SystemVerdict} (h : v.value = SystemVerdict.compliant.value) :
      v = .compliant := by
    cases v with
    | compliant => rfl
    | non_compliant => exact absurd h (by decide)
  constructor
  · exact fun h hc => h.badge hc
  · intro h
    refine ⟨fun display hd hv => h (compliantOr_of_display hd hv),
      fun display _ _ _ hd hr => h (compliantOr_of_display hd (recorded hr)), h,
      fun _ _ _ _ _ hr => h ?_, fun s hs hn => ?_⟩
    · by_contra hn
      exact absurd (recorded hr) (by rw [analyzeReceipt_policyVerdict, if_neg hn]; decide)
    · -- no verdict is no true one
      have not_shown :
          ¬ compliantOr (runOnReceipt env sessionId imagePath).policyVerdict = true := by
        intro shown
        obtain ⟨s', hs', hc⟩ := h shown
        obtain rfl : s = s' := Except.ok.inj (hs.symm.trans hs')
        cases hv : s.policyVerdict with
        | obj items => rw [hv] at hn; cases hn
        | _ => rw [hv] at hc; cases hc
      refine ⟨Bool.not_eq_true _ ▸ not_shown, fun display hd => ?_⟩
      cases hv : display.verdict with
      | compliant => exact absurd (compliantOr_of_display hd hv) not_shown
      | non_compliant => rfl

/-- The replies of a run bring about a verdict: the extraction call and the policy call can be read,
and the verdict is true, or it is false and the report call can be read too. -/
structure VerdictAnswered (env : AgentsEnv) (sessionId imagePath : Str) : Prop where
  extraction : ExtractionReadable env sessionId imagePath
  policy : PolicyReadable env sessionId (fieldsOf env sessionId imagePath)
  verdict :
    (verdictOf env sessionId (fieldsOf env sessionId imagePath)).get "compliant" = .bool true ∨
    compliantOr (verdictOf env sessionId (fieldsOf env sessionId imagePath)) = false ∧
      (reportReply env sessionId (fieldsOf env sessionId imagePath)
        (forensicsOf env imagePath)).readable = true

theorem compliantReturned_iff : CompliantReturned env sessionId imagePath ↔
    (ExtractionReadable env sessionId imagePath ∧
      PolicyReadable env sessionId (fieldsOf env sessionId imagePath)) ∧
    (verdictOf env sessionId (fieldsOf env sessionId imagePath)).get "compliant" =
      .bool true := by
  rw [← policyChecked_iff]
  constructor
  · rintro ⟨s, h, hc⟩
    exact ⟨⟨s, h⟩, by rw [← (policyChecked_eq_ok h).2.2.2]; exact hc⟩
  · rintro ⟨⟨s, h⟩, hc⟩
    exact ⟨s, h, by rw [(policyChecked_eq_ok h).2.2.2]; exact hc⟩

/-- **Failing closed.**  No receipt is shown or recorded as compliant without a policy check that
says so, exactly when the replies of the run bring about a verdict. -/
theorem failsClosed_iff (env : AgentsEnv) (sessionId imagePath : Str) :
    FailsClosed env sessionId imagePath ↔ VerdictAnswered env sessionId imagePath := by
  rw [failsClosed_iff_compliantOr]
  constructor
  · intro h
    cases hi : invoke env (.start sessionId imagePath) with
    | error exc =>
        -- a run that raised is shown with the default
        have shown : compliantOr (runOnReceipt env sessionId imagePath).policyVerdict = true := by
          rw [runOnReceipt, hi]
          rfl
        obtain ⟨⟨he, hp⟩, hv⟩ := compliantReturned_iff.mp (h shown)
        exact ⟨he, hp, .inl hv⟩
    | ok s' =>
        obtain ⟨s, hs, -⟩ := bind_eq_ok.mp hi
        obtain ⟨hends, hkeeps⟩ := invoke_of_policyChecked hs
        obtain ⟨he, hp⟩ := policyChecked_iff.mp ⟨s, hs⟩
        refine ⟨he, hp, ?_⟩
        have final : (runOnReceipt env sessionId imagePath).policyVerdict =
            verdictOf env sessionId (fieldsOf env sessionId imagePath) := by
          rw [runOnReceipt, hi]
          exact (hkeeps s' hi).trans (policyChecked_eq_ok hs).2.2.2
        rw [final] at h
        cases hc : compliantOr (verdictOf env sessionId (fieldsOf env sessionId imagePath)) with
        | true => exact .inl (compliantReturned_iff.mp (h hc)).2
        | false => exact .inr ⟨rfl, hends.mp ⟨s', hi⟩⟩
  · rintro ⟨he, hp, hv⟩ shown
    refine compliantReturned_iff.mpr ⟨⟨he, hp⟩, hv.resolve_right ?_⟩
    rintro ⟨hc, hr⟩
    obtain ⟨s, hs⟩ := policyChecked_iff.mpr ⟨he, hp⟩
    obtain ⟨hends, hkeeps⟩ := invoke_of_policyChecked hs
    obtain ⟨s', hi⟩ := hends.mpr hr
    rw [runOnReceipt, hi] at shown
    dsimp only at shown
    rw [hkeeps s' hi, (policyChecked_eq_ok hs).2.2.2, hc] at shown
    cases shown

/-! ### The proxy out of reach -/

/-- A receipt that is read, its fields extracted, and a proxy that answers the policy call as
`reply` says. -/
def receiptEnv (reply : ProxyReply) : AgentsEnv where
  proxy call :=
    match call.operation with
    | .policy_check => reply
    | _ => .answered 200 (.obj [("output", .obj [("date", .str "2024-01-01")]),
        ("guardrails", .obj [])])
  rapidOcr _ := .ok ["TOTAL 12.00"]
  analyze _ := .ok (.obj [])
  dumps _ := "\x7b\x7d"
  policyYaml := "rules: []"
  strError _ := "error"

/-- The policy call does not get through: no verdict is returned, the errors say so, and the receipt
is shown and recorded as compliant. -/
theorem not_failsClosed_unreachable :
    let env := receiptEnv (.unreachable "Connection refused")
    let s := runOnReceipt env "s" "r.png"
    (s.policyVerdict.isNull = true ∧ s.errors.map (·.node) = ["policy_checker".toList]) ∧
    (computeDisplay s).toOption.map (·.verdict) = some .compliant ∧
    VerdictCard.compliant ((analyzeReceipt env "s" "r.png").get "policy_verdict") = true ∧
    ¬ ∀ env sessionId imagePath, FailsClosed env sessionId imagePath := by
  intro env s
  refine ⟨by decide, by decide, by decide, fun h => ?_⟩
  have shown : compliantOr (runOnReceipt env "s" "r.png").policyVerdict = true := by decide
  obtain ⟨s', hs, hc⟩ := failsClosed_iff_compliantOr.mp (h env "s" "r.png") shown
  have verdict := (policyChecked_eq_ok hs).2.2.2
  rw [verdict] at hc
  cases hc

/-- A verdict that says no is shown as such. -/
example : FailsClosed (receiptEnv (.answered 200 (.obj
    [("output", .obj [("compliant", .bool false)]), ("guardrails", .obj [])]))) "s" "r.png" :=
  failsClosed_iff_compliantOr.mpr fun h => absurd h (by decide)

end SentinelAI
