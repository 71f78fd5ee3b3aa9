import SentinelAI.Proxy.Api

/-!
# Properties — Gate

Authentication.  The middleware only looks at the scheme of an API key, and leaves the key to the
dependency of the route; a route without one is entered with any key.

* `gate_iff`: along every run, every function that is entered was asked for with a credential,
  exactly when no request names a route without a dependency under the scheme of API keys and
  without an accepted credential.
* `gate_open`: an agent action approved under `ApiKey x`.
-/

namespace SentinelAI
open Support

/-- The header carries a bearer token that `decode_token` accepts: as the middleware and
`HTTPBearer` read it, or as `require_project_or_api_key` does. -/
def BearerAccepted (cfg : Config) (tick : Tick) (header : Str) : Prop :=
  (scheme cfg header = "bearer".toList ∧ (decodeToken cfg tick.now (header.drop 7)).isOk = true) ∨
    (startsWith (cfg.U.lower header) "bearer " = true ∧
      (decodeToken cfg tick.now (strip (header.drop 7))).isOk = true)

/-- The header carries an API key that `verify_api_key` resolves. -/
def KeyAccepted (cfg : Config) (tick : Tick) (db : Db) (header : Str) : Prop :=
  startsWith (cfg.U.lower header) "apikey " = true ∧
    (verifyApiKey cfg tick db (strip (header.drop 7))).1.isSome = true

def Credentialed (cfg : Config) (tick : Tick) (db : Db) (header : Str) : Prop :=
  BearerAccepted cfg tick header ∨ KeyAccepted cfg tick db header

/-- The function of a route that is not public is entered with a credential only. -/
def GateHolds (cfg : Config) (w : World) (h : Tick × Happening) : Prop :=
  ∀ r, h.2 = .request r → r.endpoint.path ∉ PUBLIC_PATHS → r.entered cfg h.1 w.db = true →
    Credentialed cfg h.1 w.db r.authorization

/-- The route has a dependency of its own. -/
def Endpoint.guarded : Endpoint → Bool
  | .unguarded _ => false
  | _ => true

/-- No route without a dependency is asked for under the scheme of API keys, unless the credential
is an accepted one. -/
def GateClosed (cfg : Config) (w : World) (h : Tick × Happening) : Prop :=
  ∀ r, h.2 = .request r → r.endpoint.path ∉ PUBLIC_PATHS →
    r.endpoint.guarded = true ∨ scheme cfg r.authorization ≠ "apikey".toList ∨
      Credentialed cfg h.1 w.db r.authorization

/-! ### One request -/

theorem Endpoint.method_ne_options (e : Endpoint) : e.method ≠ .OPTIONS := by
  rcases e with r | r | ⟨_, r⟩ | ⟨_, r⟩ <;> cases r <;> rintro ⟨⟩

variable {cfg : Config} {tick : Tick} {r : Request} {db : Db}

/-- The middleware lets through a token it accepts, and every API key. -/
theorem gate_isOk (hp : r.endpoint.path ∉ PUBLIC_PATHS) :
    (r.gate cfg tick).isOk = true ↔
      (scheme cfg r.authorization = "bearer".toList ∧
        (decodeToken cfg tick.now (r.authorization.drop 7)).isOk = true) ∨
      scheme cfg r.authorization = "apikey".toList := by
  rw [Request.gate, requireAuth, if_neg (by
    rintro (h | h)
    exacts [r.endpoint.method_ne_options h, hp h])]
  by_cases hb : scheme cfg r.authorization = "bearer".toList
  · rw [if_pos hb]
    cases hd : decodeToken cfg tick.now (r.authorization.drop 7) <;>
      simp [hb, Except.map, Except.isOk, Except.toBool]
  · rw [if_neg hb]
    by_cases hk : scheme cfg r.authorization = "apikey".toList
    · rw [if_neg (not_not.mpr hk)]
      exact iff_of_true rfl (.inr hk)
    · rw [if_pos hk]
      exact iff_of_false (by rintro ⟨⟩) (by rintro (⟨h, -⟩ | h); exacts [hb h, hk h])

theorem isOk_iff {ε α : Type*} {x : Except ε α} : x.isOk = true ↔ ∃ a, x = .ok a := by
  cases x <;> simp [Except.isOk, Except.toBool]

/-- What a bearer dependency accepts came with the scheme of bearer tokens. -/
theorem scheme_of_getCurrentUser
    (hb : ∀ h t, cfg.httpBearer h = some t → scheme cfg h = "bearer".toList) {header : Str}
    {user : User} (h : getCurrentUser cfg tick.now db header = .ok user) :
    scheme cfg header = "bearer".toList := by
  obtain ⟨token, ht, -⟩ := getCurrentUser_eq_ok.mp h
  exact hb _ _ ht

/-- `require_project_or_api_key` lets through a credential it accepts. -/
theorem credentialed_of_requireProjectOrApiKey {header : Str} {p : Int}
    (h : (requireProjectOrApiKey cfg tick db header p).1.isOk = true) :
    Credentialed cfg tick db header := by
  unfold requireProjectOrApiKey at h
  split at h
  · rename_i hk
    refine .inr ⟨hk, ?_⟩
    split at h
    · cases h
    · rename_i hv
      rw [hv]
      rfl
  · split at h
    · rename_i hb
      refine .inl (.inr ⟨hb, ?_⟩)
      dsimp only at h
      split at h
      · cases h
      · rename_i user hu
        obtain ⟨userId, hs, -⟩ := tokenUser_eq_ok.mp hu
        rw [decodeToken, hs]
        rfl
    · cases h

/-- Behind a dependency, only a request with a credential is let through. -/
theorem credentialed_of_admitted
    (hb : ∀ h t, cfg.httpBearer h = some t → scheme cfg h = "bearer".toList)
    (hg : r.endpoint.guarded = true) (hs : scheme cfg r.authorization = "apikey".toList)
    (ha : r.admitted cfg tick db = true) : Credentialed cfg tick db r.authorization := by
  have not_bearer : scheme cfg r.authorization ≠ "bearer".toList := by rw [hs]; decide
  unfold Request.admitted at ha
  cases he : r.endpoint with
  | unguarded route => rw [he] at hg; cases hg
  | ofUser route =>
      rw [he] at ha
      obtain ⟨user, hu⟩ := isOk_iff.mp ha
      exact absurd (scheme_of_getCurrentUser hb hu) not_bearer
  | ofProject p route =>
      rw [he] at ha
      obtain ⟨project, hp⟩ := isOk_iff.mp ha
      rw [requireProject] at hp
      cases hu : getCurrentUser cfg tick.now db r.authorization with
      | error e => rw [hu] at hp; cases hp
      | ok user => exact absurd (scheme_of_getCurrentUser hb hu) not_bearer
  | ofKey p route =>
      rw [he] at ha
      exact credentialed_of_requireProjectOrApiKey ha

/-- One request. -/
theorem gateHolds_iff (hb : ∀ h t, cfg.httpBearer h = some t → scheme cfg h = "bearer".toList)
    (w : World) (h : Tick × Happening) : GateHolds cfg w h ↔ GateClosed cfg w h := by
  refine forall_congr' fun r => imp_congr_right fun _ => imp_congr_right fun hp => ?_
  rw [Request.entered, Bool.and_eq_true, gate_isOk hp]
  constructor
  · intro hh
    by_cases hg : r.endpoint.guarded = true
    · exact .inl hg
    · -- without a dependency, what passes the middleware is entered
      by_cases hs : scheme cfg r.authorization = "apikey".toList
      · refine .inr (.inr (hh ⟨.inr hs, ?_⟩))
        unfold Request.admitted
        cases he : r.endpoint with
        | unguarded route => rfl
        | ofUser route => rw [he] at hg; exact absurd rfl hg
        | ofProject p route => rw [he] at hg; exact absurd rfl hg
        | ofKey p route => rw [he] at hg; exact absurd rfl hg
      · exact .inr (.inl hs)
  · rintro hc ⟨hs | hs, ha⟩
    · exact .inl (.inl hs)
    · rcases hc with hg | hn | hc
      · exact credentialed_of_admitted hb hg hs ha
      · exact absurd hs hn
      · exact hc

/-! ### What a request reaches -/

section Through

variable {w : World} {p : Int}

/-- The project that a dependency lets through is the one that was asked for. -/
theorem id_of_requireProjectOrApiKey {db : Db} {header : Str} {project : Project}
    (h : (requireProjectOrApiKey cfg tick db header p).1 = .ok project) : project.id = p := by
  unfold requireProjectOrApiKey at h
  split at h
  · split at h
    · cases h
    · dsimp only at h
      split at h
      · rename_i hid
        exact Except.ok.inj h ▸ hid
      · cases h
  · split at h
    · dsimp only at h
      split at h
      · cases h
      · exact (owns_of_ownedProject h).2
    · cases h

/-- A request that gets through the dependency with a key changes at most the stamp of a key on its
way. -/
theorem handle_ofKey {route : KeyRoute} (he : r.endpoint = .ofKey p route)
    (hin : r.entered cfg tick w.db = true) :
    ∃ project keys, project.id = p ∧ handle cfg tick w r =
      ((keyBody cfg tick project { w.db with apiKeys := keys } route).1.response,
        { w with db := (keyBody cfg tick project { w.db with apiKeys := keys } route).2 }) := by
  rw [Request.entered, Bool.and_eq_true, Request.admitted, he] at hin
  obtain ⟨hg, ha⟩ := hin
  obtain ⟨⟨⟩, hg⟩ := isOk_iff.mp hg
  obtain ⟨project, hp⟩ := isOk_iff.mp ha
  obtain ⟨keys, hkeys⟩ := requireProjectOrApiKey_frame cfg tick w.db r.authorization p
  refine ⟨project, keys, id_of_requireProjectOrApiKey hp, ?_⟩
  rw [handle_of_gate hg, Request.dispatch, he]
  dsimp only
  rw [show requireProjectOrApiKey cfg tick w.db r.authorization p =
    (.ok project, { w.db with apiKeys := keys }) from Prod.ext hp hkeys]

end Through

/-! ### What a request is refused with -/

theorem decodeToken_eq_error {now : Time} {token : Str} {e : Raised}
    (h : decodeToken cfg now token = .error e) : ∃ code message, e = .http 401 code message := by
  unfold decodeToken at h
  split at h
  · cases h
  · cases h
    exact ⟨_, _, rfl⟩

/-- The middleware refuses with 401. -/
theorem gate_eq_error {e : Raised} (h : r.gate cfg tick = .error e) :
    ∃ code message, e = .http 401 code message := by
  unfold Request.gate requireAuth at h
  split at h
  · cases h
  · split at h
    · cases hd : decodeToken cfg tick.now (r.authorization.drop 7) with
      | error e' =>
          rw [hd] at h
          cases h
          exact decodeToken_eq_error hd
      | ok id =>
          rw [hd] at h
          cases h
    · split at h
      · cases h
        exact ⟨_, _, rfl⟩
      · cases h

theorem tokenUser_eq_error {now : Time} {token : Str} {e : Raised}
    (h : tokenUser cfg now db token = .error e) : ∃ code message, e = .http 401 code message := by
  unfold tokenUser at h
  split at h
  · rename_i hd
    cases h
    exact decodeToken_eq_error hd
  · split at h
    · cases h
    · cases h
      exact ⟨_, _, rfl⟩

/-- So does the dependency on a user. -/
theorem getCurrentUser_eq_error {header : Str} {e : Raised}
    (h : getCurrentUser cfg tick.now db header = .error e) :
    ∃ code message, e = .http 401 code message := by
  unfold getCurrentUser at h
  split at h
  · cases h
    exact ⟨_, _, rfl⟩
  · exact tokenUser_eq_error h

/-- A request of a user that does not come as far as its function is answered 401. -/
theorem handle_user_cases (cfg : Config) (tick : Tick) (w : World) (header : Str)
    (client : Option Str) (route : UserRoute) :
    (∃ code message, handle cfg tick w ⟨header, client, .ofUser route⟩ =
      ((Raised.http 401 code message).response, w)) ∨
    ∃ user, (Request.gate cfg tick ⟨header, client, .ofUser route⟩) = .ok () ∧
      getCurrentUser cfg tick.now w.db header = .ok user ∧
      handle cfg tick w ⟨header, client, .ofUser route⟩ =
        ((userBody cfg tick user w route).1.response, (userBody cfg tick user w route).2) := by
  cases hg : Request.gate cfg tick ⟨header, client, .ofUser route⟩ with
  | error e =>
      left
      obtain ⟨code, message, rfl⟩ := gate_eq_error hg
      exact ⟨code, message, by rw [handle, hg]⟩
  | ok u =>
      cases hu : getCurrentUser cfg tick.now w.db header with
      | error e =>
          left
          obtain ⟨code, message, rfl⟩ := getCurrentUser_eq_error hu
          refine ⟨code, message, ?_⟩
          rw [handle_of_gate hg]
          simp only [Request.dispatch, hu]
          rfl
      | ok user =>
          right
          refine ⟨user, rfl, rfl, ?_⟩
          rw [handle_of_gate hg]
          simp only [Request.dispatch, hu]

/-- The dependency on a key refuses with 401, or as where there is no such project. -/
theorem requireProjectOrApiKey_eq_error {header : Str} {p : Int} {e : Raised}
    (h : (requireProjectOrApiKey cfg tick db header p).1 = .error e) :
    e = projectNotFound ∨ ∃ code message, e = .http 401 code message := by
  unfold requireProjectOrApiKey at h
  split at h
  · split at h
    · cases h
      exact .inr ⟨_, _, rfl⟩
    · dsimp only at h
      split at h
      · cases h
      · exact .inl (Except.error.inj h).symm
  · split at h
    · dsimp only at h
      split at h
      · rename_i hd
        cases h
        exact .inr (tokenUser_eq_error hd)
      · exact .inl (ownedProject_eq_error h)
    · cases h
      exact .inr ⟨_, _, rfl⟩

/-- A request for a route with such a dependency that is not let in. -/
theorem handle_ofKey_refused {w : World} {p : Int} {route : KeyRoute}
    (he : r.endpoint = .ofKey p route) (h : r.entered cfg tick w.db = false) :
    ∃ e, (handle cfg tick w r).1 = Raised.response e ∧
      (e = projectNotFound ∨ ∃ code message, e = .http 401 code message) := by
  unfold handle
  cases hg : r.gate cfg tick with
  | error e => exact ⟨e, rfl, .inr (gate_eq_error hg)⟩
  | ok u =>
      have refused : (requireProjectOrApiKey cfg tick w.db r.authorization p).1.isOk = false := by
        rw [Request.entered, hg, Request.admitted, he] at h
        exact h
      dsimp only
      rw [Request.dispatch, he]
      dsimp only
      rcases hp : requireProjectOrApiKey cfg tick w.db r.authorization p with ⟨e | project, db⟩
      · exact ⟨e, rfl, requireProjectOrApiKey_eq_error (congrArg Prod.fst hp)⟩
      · rw [hp] at refused
        cases refused

/-! ### Runs -/

/-- **The gate.**  Along every run of the process, a function that is not public is entered with an
accepted credential only, exactly when no request of the run asks for a route without a dependency
under the scheme of API keys and without an accepted credential. -/
theorem gate_iff (hb : ∀ h t, cfg.httpBearer h = some t → scheme cfg h = "bearer".toList)
    {w w' : World} {hs : List (Tick × Happening)} :
    Run.All (Step cfg) (fun w h _ => GateHolds cfg w h) w hs w' ↔
      Run.All (Step cfg) (fun w h _ => GateClosed cfg w h) w hs w' :=
  Run.All.congr fun w h _ _ => gateHolds_iff hb w h

theorem demo_httpBearer (h t : Str) (ht : Config.demo.httpBearer h = some t) :
    scheme .demo h = "bearer".toList := by
  change readBearer .ascii h = some t at ht
  unfold readBearer at ht
  split at ht
  · rename_i hc
    exact hc.1
  · cases ht

/-- A run that asks for the quota with a token. -/
theorem gate_iff_quota :
    let quota : Request := ⟨"Bearer t", none, .unguarded .quota⟩
    Run.All (Step .demo) (fun w h _ => GateHolds .demo w h) .empty [(.zero, .request quota)]
      (handle .demo .zero .empty quota).2 := by
  intro quota
  refine (gate_iff demo_httpBearer).mpr (.cons rfl ?_ (.nil _))
  rintro r ⟨⟩ -
  exact .inr (.inl (by decide))

/-- User 1 signs up, and an action of the agent is left pending. -/
def pendingRequests : List Request :=
  [⟨"", none, .unguarded (.signup ⟨"a@b.co", "12345678"⟩)⟩,
    ⟨"Bearer t", none, .ofUser (.evaluate_agent_action "bot" ⟨"tickets", "delete", none⟩ none)⟩]

/-- The pending action is approved under `ApiKey x`, which is no credential. -/
theorem gate_open :
    let w := serveAll .demo .zero .empty pendingRequests
    let r : Request := ⟨"ApiKey x", none, .unguarded (.approve_agent_action 1 "ann")⟩
    Reachable (Step .demo) .empty w ∧ r.endpoint.path ∉ PUBLIC_PATHS ∧
      r.entered .demo .zero w.db = true ∧ ¬ Credentialed .demo .zero w.db r.authorization ∧
      ¬ GateHolds .demo w (.zero, .request r) ∧
      (w.db.agentActionLogs.find? 1).map (·.executionResult) = some .pending_approval ∧
      ((handle .demo .zero w r).2.db.agentActionLogs.find? 1).map (·.executionResult) =
        some .approved_not_executed := by
  intro w r
  have hp : r.endpoint.path ∉ PUBLIC_PATHS := by decide
  have he : r.entered .demo .zero w.db = true := by decide +kernel
  have hn : ¬ Credentialed .demo .zero w.db r.authorization := by
    rintro ((⟨h, -⟩ | ⟨h, -⟩) | ⟨-, h⟩)
    · exact absurd h (by decide)
    · exact absurd h (by decide)
    · cases h
  exact ⟨⟨_, run_serveAll pendingRequests .empty⟩, hp, he, hn, fun h => hn (h r rfl hp he),
    by decide +kernel, by decide +kernel⟩

end SentinelAI
