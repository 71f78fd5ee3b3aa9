import SentinelAI.Frontend.Playground
import SentinelAI.Properties.BuiltInSuite
import SentinelAI.Properties.Gate
import SentinelAI.Properties.Quota

/-!
# Properties — Playground

What a visitor of the playground is told, against what the proxy did.

* `generate_outcome`: how a call of `/v1/generate` ends, by whether its text is flagged and whether
  its user is over the quota.
* `playgrounds_agree`: the two pages show the same of an answer, but for that of an internal error.
* `handleSubmit_card_iff`: when the card says that a text was blocked.
-/

namespace SentinelAI
open Support

/-! ### How a call ends -/

/-- An owner's call, of a size that is inspected, with a text that is flagged. -/
def Flagged (cfg : Config) (req : GenerateRequest) (db : Db) (user : User) : Prop :=
  (∃ project, ownedProject db req.projectId user.id = .ok project) ∧
    (inboundText req).length ≤ MAX_INPUT_CHARS ∧ (inspection cfg req).injection.flagged = true

/-- A call that passes the inspection, of a user with no call left. -/
def OverQuota (cfg : Config) (req : GenerateRequest) (db : Db) (counts : SessionCounts)
    (user : User) : Prop :=
  Passes cfg req db user ∧ cfg.settings.rateLimitPerSession ≤ counts (quotaKey user)

/-- How a call ends, where `flagged` and `spent` say whether it is flagged and over the quota. -/
inductive GenerateOutcome (injection : InjectionResult) (flagged spent : Prop) :
    Except Raised (Nat × GenerateResponse) → Prop where
  | raised {e : Raised} (he : e = projectNotFound ∨ e = .unhandled) (hf : ¬ flagged)
      (ho : ¬ spent) : GenerateOutcome injection flagged spent (.error e)
  | blocked {guardrails : Guardrails} {error : ErrorDetail} (hi : guardrails.injection = injection)
      (hf : flagged) (ho : ¬ spent) : GenerateOutcome injection flagged spent
        (.ok (400, { guardrails, usage := noUsage, error := some error }))
  | overQuota {guardrails : Guardrails} {error : ErrorDetail} (hf : ¬ flagged) (ho : spent) :
      GenerateOutcome injection flagged spent
        (.ok (429, { guardrails, usage := noUsage, error := some error }))
  | refused {statusCode : Nat} {guardrails : Guardrails} {usage : Usage} {error : ErrorDetail}
      (hs : statusCode ≠ 200 ∧ statusCode ≠ 429 ∧ statusCode ≠ 500)
      (hi : guardrails.injection.flagged = false) (hf : ¬ flagged) (ho : ¬ spent) :
      GenerateOutcome injection flagged spent
        (.ok (statusCode, { guardrails, usage, error := some error }))
  | succeeded {output : Json} {guardrails : Guardrails} {usage : Usage}
      (hi : guardrails.injection.flagged = false) (hf : ¬ flagged) (ho : ¬ spent) :
      GenerateOutcome injection flagged spent (.ok (200, { output, guardrails, usage }))

section Outcome

variable {cfg : Config} {tick : Tick} {req : GenerateRequest} {db : Db} {counts : SessionCounts}
  {user : User}

/-- A call that reaches a provider succeeds or is refused, with the text unflagged. -/
theorem called_outcome {injection : InjectionResult} {flagged spent : Prop}
    (hi : (inspection cfg req).injection.flagged = false) (hf : ¬ flagged) (ho : ¬ spent)
    (provider : Provider) (db : Db) (counts : SessionCounts) :
    GenerateOutcome injection flagged spent (called cfg tick req provider db counts).result := by
  unfold called
  split
  · unfold answered
    dsimp only
    split
    · exact .succeeded hi hf ho
    · split
      · exact .succeeded hi hf ho
      · exact .refused (by decide) hi hf ho
      · exact .raised (.inr rfl) hf ho
  · exact .refused (by decide) hi hf ho
  · exact .refused (by decide) hi hf ho

/-- **How a call ends.** -/
theorem generate_outcome (cfg : Config) (tick : Tick) (req : GenerateRequest) (provider : Provider)
    (db : Db) (counts : SessionCounts) (user : User) :
    GenerateOutcome (inspection cfg req).injection (Flagged cfg req db user)
      (OverQuota cfg req db counts user)
      (generate cfg tick req provider db counts user).result := by
  by_cases hp : Passes cfg req db user
  · have hf : ¬ Flagged cfg req db user := fun h => nomatch hp.2.2.symm.trans h.2.2
    rw [generate_of_passes hp]
    by_cases hq : cfg.settings.rateLimitPerSession ≤ counts (quotaKey user)
    · rw [checkAndIncrement, if_pos hq]
      exact .overQuota hf ⟨hp, hq⟩
    · rw [checkAndIncrement, if_neg hq, if_pos rfl]
      exact called_outcome hp.2.2 hf (fun h => hq h.2) _ _ _
  · have ho : ¬ OverQuota cfg req db counts user := fun h => hp h.1
    unfold generate
    cases hown : ownedProject db req.projectId user.id with
    | error e =>
        refine .raised (.inl (ownedProject_eq_error hown)) (fun h => ?_) ho
        obtain ⟨⟨project, h⟩, -⟩ := h
        cases hown.symm.trans h
    | ok project =>
        unfold generateFor
        dsimp only
        by_cases hl : (inboundText req).length > MAX_INPUT_CHARS
        · rw [if_pos hl]
          exact .refused (by decide) rfl (fun h => absurd h.2.1 (Nat.not_le.mpr hl)) ho
        · rw [if_neg hl]
          have hl' := Nat.le_of_not_lt hl
          cases hf : (inspection cfg req).injection.flagged with
          | true =>
              rw [if_pos rfl]
              exact .blocked rfl ⟨⟨project, hown⟩, hl', hf⟩ ho
          | false => exact absurd ⟨⟨project, hown⟩, hl', hf⟩ hp

/-- Without a schema, what a call succeeds with is the text of the provider. -/
theorem output_of_generate {provider : Provider} {r : GenerateResponse}
    (hn : req.schemaName.filter (· ≠ []) = none)
    (h : (generate cfg tick req provider db counts user).result = .ok (200, r)) :
    ∃ text, r.output = .str text := by
  unfold generate at h
  split at h
  · cases h
  · rcases generateFor_cases cfg tick req provider db counts user with
      ⟨-, statusCode, _, _, _, _, _, _, hs, -, he⟩ | ⟨-, counts', he⟩
    · rw [he] at h
      cases h
      exact absurd rfl hs
    · rw [he, called] at h
      split at h
      · rw [answered, hn] at h
        cases h
        exact ⟨_, rfl⟩
      · cases h
      · cases h

end Outcome

/-! ### What the pages show of an answer -/

/-- The Streamlit page comes to `s`, and shows the card that the other page shows, under a banner
where that has one. -/
def SameShown (s : Except PyError Shown) (t : Shown) : Prop :=
  ∃ u, s = .ok u ∧ u.card = t.card ∧ u.banner.isSome = t.banner.isSome

theorem isOk_int (n : Nat) : Streamlit.isOk (.int n) = decide (n = 200) := by
  rw [Streamlit.isOk]
  by_cases h : n = 200
  · rw [h]
    rfl
  · rw [decide_eq_false h, beq_eq_false_iff_ne]
    omega

/-- What the Streamlit page shows of a body of `/v1/generate`. -/
theorem cardOf_response (statusCode : Nat) (r : GenerateResponse) :
    Streamlit.cardOf (Streamlit.withStatus statusCode r.toJson) =
      if r.guardrails.injection.flagged then
        .ok (.blocked (r.guardrails.injection.matchedPatterns.map .str))
      else if statusCode = 200 then .ok (.notBlocked r.output)
      else match r.error with
        | some error => .ok (.failed (.str error.message))
        | none => .error .AttributeError := by
  have flagged : Streamlit.cardOf (Streamlit.withStatus statusCode r.toJson) =
      if r.guardrails.injection.flagged then
        .ok (.blocked (r.guardrails.injection.matchedPatterns.map .str))
      else if Streamlit.isOk (.int statusCode) then .ok (.notBlocked r.output)
      else (Json.opt ErrorDetail.toJson r.error).getOr "message" (.str "Request failed.") >>=
        fun message => .ok (.failed message) := rfl
  rw [flagged, isOk_int]
  simp only [decide_eq_true_eq]
  split
  · rfl
  · split
    · rfl
    · cases r.error <;> rfl

/-- What the other page shows of it. -/
theorem resultCard_response (statusCode : Nat) (r : GenerateResponse) :
    Web.resultCard statusCode r.toJson =
      if r.guardrails.injection.flagged then
        .blocked (r.guardrails.injection.matchedPatterns.map .str)
      else if statusCode = 200 then
        .notBlocked (Web.outputString (Web.orElse r.output (.str "(no output)")))
      else match r.error with
        | some error => .failed (.str error.message)
        | none => .failed (.str "Request failed.") := by
  have outcome : Web.classifyResult statusCode r.toJson =
      if r.guardrails.injection.flagged then .blocked
      else if statusCode ≠ 200 then .failed else .allowed := rfl
  rw [Web.resultCard, outcome]
  by_cases hf : r.guardrails.injection.flagged = true
  · rw [if_pos hf, if_pos hf]
    rfl
  · rw [if_neg hf, if_neg hf]
    by_cases hs : statusCode = 200
    · rw [if_neg (not_not.mpr hs), if_pos hs]
      rfl
    · rw [if_pos hs, if_neg hs]
      obtain ⟨output, guardrails, usage, error⟩ := r
      cases error <;> rfl

/-- What both show in place of an answer over the quota. -/
def cachedCard (promptId : Option Str) : Card :=
  match findAttack promptId with
  | some attack => .blocked (attack.matchedPatterns.map .str)
  | none => .failed (.str "Per-session call limit reached.")

theorem cardOf_findCached (promptId : Option Str) :
    Streamlit.cardOf (Streamlit.findCached promptId) = .ok (cachedCard promptId) := by
  unfold Streamlit.findCached cachedCard
  cases findAttack promptId <;> rfl

theorem resultCard_findCached (promptId : Option Str) :
    Web.resultCard (Web.findCached promptId).1 (Web.findCached promptId).2 =
      cachedCard promptId := by
  unfold Web.findCached cachedCard
  cases findAttack promptId <;> rfl

/-- Over the quota, both show the cached answer of what is selected. -/
theorem sameShown_cached (panel : Web.SubmitPanel) (body : Json) :
    SameShown (Streamlit.shown 429 body panel.promptId) (panel.shown (429, body)) := by
  unfold Streamlit.shown Web.SubmitPanel.shown Streamlit.handleResponse
  rw [if_pos rfl, if_pos rfl]
  dsimp only
  rw [cardOf_findCached, resultCard_findCached]
  exact ⟨⟨some Streamlit.QUOTA_BANNER, cachedCard panel.promptId⟩, rfl, rfl, by simp⟩

/-- They show the same of every body that has a text if the call succeeded, and else an error. -/
theorem sameShown_response (panel : Web.SubmitPanel) {statusCode : Nat} (hs : statusCode ≠ 429)
    {r : GenerateResponse} (ht : statusCode = 200 → ∃ text, r.output = .str text)
    (he : statusCode ≠ 200 → r.error ≠ none) :
    SameShown (Streamlit.shown statusCode r.toJson panel.promptId)
      (panel.shown (statusCode, r.toJson)) := by
  unfold Streamlit.shown Web.SubmitPanel.shown Streamlit.handleResponse
  rw [if_neg hs, if_neg hs]
  dsimp only
  rw [cardOf_response, resultCard_response]
  by_cases hf : r.guardrails.injection.flagged = true
  · rw [if_pos hf, if_pos hf]
    exact ⟨_, rfl, rfl, rfl⟩
  · rw [if_neg hf, if_neg hf]
    by_cases hok : statusCode = 200
    · obtain ⟨text, htext⟩ := ht hok
      rw [if_pos hok, if_pos hok, htext]
      exact ⟨_, rfl, rfl, rfl⟩
    · rw [if_neg hok, if_neg hok]
      cases herr : r.error with
      | none => exact absurd herr (he hok)
      | some error => exact ⟨_, rfl, rfl, rfl⟩

/-- They show the same of the body of an `HTTPException`. -/
theorem sameShown_http (panel : Web.SubmitPanel) {statusCode : Nat}
    (hs : statusCode ≠ 429 ∧ statusCode ≠ 200) (code message : Str) :
    SameShown
      (Streamlit.shown statusCode (.obj [("detail", errorBody code message)]) panel.promptId)
      (panel.shown (statusCode, .obj [("detail", errorBody code message)])) := by
  have outcome : Web.classifyResult statusCode (.obj [("detail", errorBody code message)]) =
      if statusCode ≠ 200 then .failed else .allowed := rfl
  unfold Streamlit.shown Web.SubmitPanel.shown Streamlit.handleResponse
  rw [if_neg hs.1, if_neg hs.1]
  dsimp only
  have card : Streamlit.cardOf (Streamlit.withStatus statusCode
      (.obj [("detail", errorBody code message)])) =
      if Streamlit.isOk (.int statusCode) then .ok (.notBlocked .null)
      else .ok (.failed (.str "Request failed.")) := rfl
  rw [card, isOk_int, decide_eq_false hs.2, Web.resultCard, outcome, if_pos hs.2]
  exact ⟨_, rfl, rfl, rfl⟩

/-! ### The two pages -/

/-- **The two pages** show the same of whatever a call of the playground is answered, but for the
answer to an exception that nothing catches: there the Streamlit page raises one itself. -/
theorem playgrounds_agree (cfg : Config) (tick : Tick) (w : World) (header : Str)
    (client : Option Str) (page : Web.Page) (projectId : Int) (text : Str)
    (panel : Web.SubmitPanel) :
    ∃ statusCode body, (handle cfg tick w
        ⟨header, client, .ofUser (.generate (Web.playgroundRequest page projectId text))⟩).1 =
        ⟨statusCode, .json body⟩ ∧
      ((statusCode ≠ 500 ∧ SameShown (Streamlit.shown statusCode body panel.promptId)
          (panel.shown (statusCode, body))) ∨
        (statusCode = 500 ∧
          Streamlit.shown statusCode body panel.promptId = .error .AttributeError ∧
          panel.shown (statusCode, body) =
            ⟨none, .failed (.str "An internal error occurred.")⟩)) := by
  generalize hreq : Web.playgroundRequest page projectId text = req
  have plain : req.schemaName.filter (· ≠ []) = none := by
    rw [← hreq]
    rfl
  rcases handle_user_cases cfg tick w header client (.generate req) with
    ⟨code, message, h⟩ | ⟨user, -, -, h⟩
  · exact ⟨401, _, by rw [h]; rfl, .inl ⟨by decide, sameShown_http panel (by decide) _ _⟩⟩
  · rw [h]
    dsimp only [userBody]
    have outcome := generate_outcome cfg tick req (getProvider tick.sdks) w.db w.counts user
    have output {r : GenerateResponse} := @output_of_generate cfg tick req w.db w.counts user
      (getProvider tick.sdks) r plain
    unfold Generated.answer
    generalize (generate cfg tick req (getProvider tick.sdks) w.db w.counts user).result = result
      at outcome output ⊢
    cases outcome with
    | raised he hf ho =>
        rcases he with rfl | rfl
        · exact ⟨404, _, rfl, .inl ⟨by decide, sameShown_http panel (by decide) _ _⟩⟩
        · exact ⟨500, _, rfl, .inr ⟨rfl, rfl, rfl⟩⟩
    | blocked hi hf ho =>
        exact ⟨400, _, rfl, .inl ⟨by decide, sameShown_response panel (by decide) nofun
          fun _ => nofun⟩⟩
    | overQuota hf ho => exact ⟨429, _, rfl, .inl ⟨by decide, sameShown_cached panel _⟩⟩
    | @refused statusCode _ _ _ hs hi hf ho =>
        exact ⟨_, _, rfl, .inl ⟨hs.2.2, sameShown_response panel hs.2.1 (fun h => absurd h hs.1)
          fun _ => nofun⟩⟩
    | succeeded hi hf ho =>
        exact ⟨200, _, rfl, .inl ⟨by decide, sameShown_response panel (by decide)
          (fun _ => output rfl) fun h => absurd rfl h⟩⟩

/-! ### What a visitor is told -/

section Submit

variable {cfg : Config} {tick : Tick} {w : World} {page : Web.Page} {network : Web.Network}
  {panel : Web.SubmitPanel}

/-- The submission is answered by the function of `/v1/generate`, for `user` and the project with
id `projectId`. -/
structure Web.Reaches (cfg : Config) (tick : Tick) (w : World) (page : Web.Page)
    (network : Web.Network) (text : Str) (projectId : Int) (user : User) : Prop where
  answered : network = .answered
  active : page.activeProjectId = some projectId
  gate : (Web.generateRequest page projectId text).gate cfg tick = .ok ()
  user : getCurrentUser cfg tick.now w.db (Web.authHeader page) = .ok user

/-- The submission is answered by a call of which `P` holds. -/
def Web.Submitted (cfg : Config) (tick : Tick) (w : World) (page : Web.Page)
    (network : Web.Network) (text : Str) (P : GenerateRequest → User → Prop) : Prop :=
  ∃ projectId user, Web.Reaches cfg tick w page network text projectId user ∧
    P (Web.playgroundRequest page projectId text) user

/-- There is one such call at most. -/
theorem Web.Reaches.submitted_iff {text : Str} {projectId : Int} {user : User}
    (h : Web.Reaches cfg tick w page network text projectId user)
    {P : GenerateRequest → User → Prop} :
    Web.Submitted cfg tick w page network text P ↔
      P (Web.playgroundRequest page projectId text) user := by
  constructor
  · rintro ⟨projectId', user', h', hP⟩
    obtain rfl : projectId' = projectId := Option.some.inj (h'.active.symm.trans h.active)
    obtain rfl : user' = user := Except.ok.inj (h'.user.symm.trans h.user)
    exact hP
  · exact fun hP => ⟨projectId, user, h, hP⟩

/-- What the call is measured by. -/
theorem inboundText_playground (page : Web.Page) (projectId : Int) (text : Str) :
    inboundText (Web.playgroundRequest page projectId text) = SYSTEM_PROMPT ++ '\n' :: text := by
  have parts : inboundText (Web.playgroundRequest page projectId text) =
      SYSTEM_PROMPT ++ ('\n' :: (text ++ [])) := rfl
  rw [parts, List.append_nil]

theorem length_SAMPLE_ATTACKS : ∀ attack ∈ SAMPLE_ATTACKS, attack.prompt ≠ [] ∧
    (SYSTEM_PROMPT ++ '\n' :: attack.prompt).length ≤ MAX_INPUT_CHARS := by
  decide +kernel

/-- What the page is answered by the function of `/v1/generate`. -/
theorem Web.Reaches.postGenerate_eq {text : Str} {projectId : Int} {user : User}
    (h : Web.Reaches cfg tick w page network text projectId user) :
    (Web.postGenerate cfg tick page network w text).1 =
      match (generate cfg tick (Web.playgroundRequest page projectId text)
          (getProvider tick.sdks) w.db w.counts user).answer.response with
      | ⟨statusCode, .json body⟩ => (statusCode, body)
      | ⟨_, .text _ _⟩ => (503, Web.unreachableEnvelope "Unexpected token") := by
  have served : (handle cfg tick w (Web.generateRequest page projectId text)).1 =
      (generate cfg tick (Web.playgroundRequest page projectId text) (getProvider tick.sdks) w.db
        w.counts user).answer.response := by
    rw [handle_of_gate h.gate]
    simp only [Request.dispatch, Web.generateRequest, h.user, userBody]
  rw [Web.postGenerate, h.active, h.answered]
  dsimp only
  rw [← served]
  generalize handle cfg tick w (Web.generateRequest page projectId text) = r
  obtain ⟨⟨statusCode, content⟩, w'⟩ := r
  cases content <;> rfl

theorem Web.Reaches.postGenerate_counts {text : Str} {projectId : Int} {user : User}
    (h : Web.Reaches cfg tick w page network text projectId user) :
    (Web.postGenerate cfg tick page network w text).2.counts =
      (generate cfg tick (Web.playgroundRequest page projectId text) (getProvider tick.sdks) w.db
        w.counts user).counts := by
  have served : (handle cfg tick w (Web.generateRequest page projectId text)).2.counts =
      (generate cfg tick (Web.playgroundRequest page projectId text) (getProvider tick.sdks) w.db
        w.counts user).counts := by
    rw [handle_of_gate h.gate]
    simp only [Request.dispatch, Web.generateRequest, h.user, userBody]
  rw [Web.postGenerate, h.active, h.answered]
  dsimp only
  rw [← served]
  split <;> rfl

/-- What is inspected is what the visitor wrote. -/
theorem inspection_playground (cfg : Config) (page : Web.Page) (projectId : Int) (text : Str) :
    (inspection cfg (Web.playgroundRequest page projectId text)).injection =
      checkInjection cfg.U text := by
  have untrusted_eq : untrusted (Web.playgroundRequest page projectId text).messages = text :=
    List.append_nil text
  rw [inspection, untrusted_eq]

/-- What is shown of an answer of the proxy, by how the call ended. -/
theorem shown_outcome {flagged spent : Prop} {injection : InjectionResult}
    {result : Except Raised (Nat × GenerateResponse)}
    (h : GenerateOutcome injection flagged spent result) (hi : flagged → injection.flagged = true) :
    ∃ statusCode body, (Answer.response (result.map fun r => ⟨r.1, .json r.2.toJson⟩)) =
        ⟨statusCode, .json body⟩ ∧
      ((panel.shown (statusCode, body)).banner.isSome = true ↔ spent) ∧
      ∀ ps, (panel.shown (statusCode, body)).card = .blocked ps ↔
        (flagged ∧ ps = injection.matchedPatterns.map .str) ∨
          (spent ∧ cachedCard panel.promptId = .blocked ps) := by
  -- an answer that is not over the quota is shown as it is
  have live : ∀ {statusCode : Nat} {body : Json}, statusCode ≠ 429 →
      panel.shown (statusCode, body) = ⟨none, Web.resultCard statusCode body⟩ := by
    intro statusCode body hs
    rw [Web.SubmitPanel.shown, if_neg hs]
  cases h with
  | @raised e he hf ho =>
      rcases he with rfl | rfl
      · refine ⟨404, _, rfl, ?_, fun ps => ?_⟩
        · rw [live (by decide)]
          simp [ho]
        · rw [live (by decide)]
          simp only [hf, ho, false_and, or_self, iff_false]
          exact nofun
      · refine ⟨500, _, rfl, ?_, fun ps => ?_⟩
        · rw [live (by decide)]
          simp [ho]
        · rw [live (by decide)]
          simp only [hf, ho, false_and, or_self, iff_false]
          exact nofun
  | @blocked guardrails error hg hf ho =>
      refine ⟨400, _, rfl, ?_, fun ps => ?_⟩
      · rw [live (by decide)]
        simp [ho]
      · rw [live (by decide)]
        simp only [resultCard_response, hg, hi hf, if_true, hf, ho, true_and, false_and, or_false,
          Card.blocked.injEq]
        exact eq_comm
  | @overQuota guardrails error hf ho =>
      refine ⟨429, _, rfl, ?_, fun ps => ?_⟩
      · rw [Web.SubmitPanel.shown, if_pos rfl]
        simp [ho]
      · rw [Web.SubmitPanel.shown, if_pos rfl]
        simp only [resultCard_findCached, hf, ho, false_and, true_and, false_or]
  | @refused statusCode guardrails usage error hs hg hf ho =>
      refine ⟨statusCode, _, rfl, ?_, fun ps => ?_⟩
      · rw [live hs.2.1]
        simp [ho]
      · rw [live hs.2.1]
        simp only [resultCard_response, hg, hs.1, hf, ho, false_and, or_self, iff_false]
        exact nofun
  | @succeeded output guardrails usage hg hf ho =>
      refine ⟨200, _, rfl, ?_, fun ps => ?_⟩
      · rw [live (by decide)]
        simp [ho]
      · rw [live (by decide)]
        simp only [resultCard_response, hg, if_true, hf, ho, false_and, or_self, iff_false]
        exact nofun

/-- What is shown of an answer that is none of the function's: a failure. -/
theorem shown_unanswered {flagged spent : Prop} (hf : ¬ flagged) (ho : ¬ spent)
    {patterns : List Json}
    {s : Shown} (hs : ∃ message, s = ⟨none, .failed message⟩) :
    (s.banner.isSome = true ↔ spent) ∧ ∀ ps, s.card = .blocked ps ↔
      (flagged ∧ ps = patterns) ∨ (spent ∧ cachedCard panel.promptId = .blocked ps) := by
  obtain ⟨message, rfl⟩ := hs
  refine ⟨iff_of_false nofun ho, fun ps => iff_of_false nofun ?_⟩
  rintro (⟨h, -⟩ | ⟨h, -⟩)
  · exact hf h
  · exact ho h

/-- A submission is answered by the function, or it is shown as a failure. -/
theorem handleSubmit_cases {s : Shown}
    (h : (panel.handleSubmit cfg tick page network w).1 = some s) :
    (∃ projectId user, Web.Reaches cfg tick w page network panel.promptText projectId user ∧
      s = panel.shown (Web.postGenerate cfg tick page network w panel.promptText).1) ∨
    (¬ ∃ projectId user, Web.Reaches cfg tick w page network panel.promptText projectId user) ∧
      ∃ message, s = ⟨none, .failed message⟩ := by
  unfold Web.SubmitPanel.handleSubmit at h
  split at h
  · cases h
  · have hs : s = panel.shown (Web.postGenerate cfg tick page network w panel.promptText).1 :=
      (Option.some.inj h).symm
    by_cases hr : ∃ projectId user,
        Web.Reaches cfg tick w page network panel.promptText projectId user
    · obtain ⟨projectId, user, hr⟩ := hr
      exact .inl ⟨projectId, user, hr, hs⟩
    · refine .inr ⟨hr, ?_⟩
      rw [hs]
      unfold Web.postGenerate
      cases ha : page.activeProjectId with
      | none => exact ⟨_, rfl⟩
      | some projectId =>
          cases network with
          | lost message served => cases served <;> exact ⟨_, rfl⟩
          | answered =>
              rcases handle_user_cases cfg tick w (Web.authHeader page) none
                (.generate (Web.playgroundRequest page projectId panel.promptText)) with
                ⟨code, message, he⟩ | ⟨user, hg, hu, -⟩
              · dsimp only
                rw [Web.generateRequest, he]
                exact ⟨_, rfl⟩
              · exact absurd ⟨projectId, user, rfl, ha, hg, hu⟩ hr

/-- **What a visitor is told.**  The banner is there exactly when the call passed the inspection and
its user had no call left.  The card says that the text was blocked exactly when the call was the
owner's and the detector flagged the text, and then with the patterns that it matched; or under the
banner, when an attack is selected. -/
theorem handleSubmit_card_iff {s : Shown}
    (h : (panel.handleSubmit cfg tick page network w).1 = some s) :
    (s.banner.isSome = true ↔ Web.Submitted cfg tick w page network panel.promptText
      fun req user => OverQuota cfg req w.db w.counts user) ∧
    ∀ ps, s.card = .blocked ps ↔
      (Web.Submitted cfg tick w page network panel.promptText
          (fun req user => Flagged cfg req w.db user) ∧
        ps = (checkInjection cfg.U panel.promptText).matchedPatterns.map .str) ∨
      (Web.Submitted cfg tick w page network panel.promptText
          (fun req user => OverQuota cfg req w.db w.counts user) ∧
        cachedCard panel.promptId = .blocked ps) := by
  rcases handleSubmit_cases h with ⟨projectId, user, hr, hs⟩ | ⟨hr, hs⟩
  · rw [hr.submitted_iff, hr.submitted_iff, hs, hr.postGenerate_eq]
    obtain ⟨statusCode, body, hb, shows⟩ := @shown_outcome panel _ _ _ _
      (generate_outcome cfg tick (Web.playgroundRequest page projectId panel.promptText)
        (getProvider tick.sdks) w.db w.counts user) fun hf => hf.2.2
    rw [Generated.answer, hb]
    rw [inspection_playground] at shows
    exact shows
  · have none_of : ∀ P, ¬ Web.Submitted cfg tick w page network panel.promptText P :=
      fun P ⟨projectId, user, hr', _⟩ => hr ⟨projectId, user, hr'⟩
    exact shown_unanswered (none_of _) (none_of _) hs

/-- **The attacks of the playground.**  One that an owner submits as it is, is blocked, with the
patterns that its cached answer names, however many calls the owner has left; it takes none of them,
so that the cached answer is never shown for it. -/
theorem handleSubmit_sampleAttack {attack : SampleAttack} (ha : attack ∈ SAMPLE_ATTACKS)
    {projectId : Int} {user : User} {project : Project} (hs : page.sessionId ≠ [])
    (hr : Web.Reaches cfg tick w page network attack.prompt projectId user)
    (ho : ownedProject w.db projectId user.id = .ok project) :
    let r := Web.SubmitPanel.handleSubmit cfg tick ⟨attack.id, attack.prompt⟩ page network w
    r.1 = some ⟨none, .blocked (attack.matchedPatterns.map .str)⟩ ∧ r.2.counts = w.counts := by
  obtain ⟨ascii, named, matched⟩ := Plugins.matched_SAMPLE_ATTACKS attack ha
  have patterns :
      (checkInjection cfg.U attack.prompt).matchedPatterns = attack.matchedPatterns := by
    rw [checkInjection_ascii ascii, matched]
  have flagged : (checkInjection cfg.U attack.prompt).flagged = true :=
    checkInjection_flagged_iff.mpr (by rwa [patterns])
  obtain ⟨nonempty, short⟩ := length_SAMPLE_ATTACKS attack ha
  have hf : Flagged cfg (Web.playgroundRequest page projectId attack.prompt) w.db user :=
    ⟨⟨project, ho⟩, (inboundText_playground page projectId attack.prompt) ▸ short,
      (inspection_playground cfg page projectId attack.prompt) ▸ flagged⟩
  have not_passes : ¬ Passes cfg (Web.playgroundRequest page projectId attack.prompt) w.db user :=
    fun hp => nomatch hp.2.2.symm.trans hf.2.2
  obtain ⟨statusCode, body, hb, banner, card⟩ := @shown_outcome ⟨attack.id, attack.prompt⟩ _ _ _ _
    (generate_outcome cfg tick (Web.playgroundRequest page projectId attack.prompt)
      (getProvider tick.sdks) w.db w.counts user) fun hf => hf.2.2
  unfold Web.SubmitPanel.handleSubmit
  rw [if_neg (not_or.mpr ⟨nonempty, hs⟩)]
  refine ⟨?_, ?_⟩
  · dsimp only
    rw [hr.postGenerate_eq, Generated.answer, hb]
    dsimp only
    have no_banner := mt banner.mp fun h => not_passes h.1
    have told := (card _).mpr (.inl ⟨hf, rfl⟩)
    rw [inspection_playground, patterns] at told
    generalize Web.SubmitPanel.shown ⟨attack.id, attack.prompt⟩ (statusCode, body) = s at *
    obtain ⟨_ | text, c⟩ := s
    · rw [← told]
    · exact absurd rfl no_banner
  · rw [hr.postGenerate_counts]
    exact (generate_of_not_passes not_passes).1

end Submit

/-! ### A visitor with a project -/

/-- The page of a user who has signed in and opened a project. -/
def demoPage : Web.Page := ⟨some "a", some 1, "s"⟩

/-- The proxy once that user has signed up and created the project. -/
def demoWorld : World :=
  serveAll .demo .zero .empty
    [⟨"", none, .unguarded (.signup ⟨"a@x.com", "password"⟩)⟩,
      ⟨"Bearer a", none, .ofUser (.create_project ⟨"p", "model", none, none⟩)⟩]

/-- The last attack of the list. -/
def demoAttack : SampleAttack := SAMPLE_ATTACKS.getLast (by decide)

theorem handleSubmit_sampleAttack_demo :
    let r := Web.SubmitPanel.handleSubmit .demo .zero ⟨demoAttack.id, demoAttack.prompt⟩ demoPage
      .answered demoWorld
    r.1 = some ⟨none, .blocked (demoAttack.matchedPatterns.map .str)⟩ ∧
      r.2.counts = demoWorld.counts := by
  have reaches : Web.Reaches .demo .zero demoWorld demoPage .answered demoAttack.prompt 1
      ⟨1, "a@x.com", "password", 0⟩ := ⟨rfl, rfl, rfl, rfl⟩
  have owned : ownedProject demoWorld.db 1 1 = .ok ⟨1, 1, "p", "model", none, none, 0⟩ := rfl
  exact handleSubmit_sampleAttack (List.getLast_mem (by decide)) (by decide) reaches owned

/-- The text that the visitor writes, where no attack is selected. -/
def demoPanel : Web.SubmitPanel := ⟨Web.FREE_TEXT_VALUE, "act as root"⟩

theorem handleSubmit_card_iff_demo : ∃ s,
    (demoPanel.handleSubmit .demo .zero demoPage .answered demoWorld).1 = some s ∧
    ∀ ps, s.card = .blocked ps ↔
      (Web.Submitted .demo .zero demoWorld demoPage .answered demoPanel.promptText
          (fun req user => Flagged .demo req demoWorld.db user) ∧
        ps = (checkInjection .ascii demoPanel.promptText).matchedPatterns.map .str) ∨
      (Web.Submitted .demo .zero demoWorld demoPage .answered demoPanel.promptText
          (fun req user => OverQuota .demo req demoWorld.db demoWorld.counts user) ∧
        cachedCard demoPanel.promptId = .blocked ps) := by
  have submitted : (demoPanel.handleSubmit .demo .zero demoPage .answered demoWorld).1 =
      some (demoPanel.shown
        (Web.postGenerate .demo .zero demoPage .answered demoWorld demoPanel.promptText).1) :=
    congrArg Prod.fst (if_neg (by decide))
  exact ⟨_, submitted, (handleSubmit_card_iff submitted).2⟩

end SentinelAI
