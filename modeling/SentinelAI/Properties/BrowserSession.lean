import SentinelAI.Frontend.AuthClient
import SentinelAI.Properties.Accounts
import SentinelAI.Properties.AuditTrail
import SentinelAI.Properties.Playground

/-!
# Properties — BrowserSession

A tab of the browser and the proxy, which serves others too.  The calls of the tab are on their way
side by side: each is served, lost or answered when it comes to that, and the tab goes on with an
answer as it stands by then, whoever has signed in or out meanwhile.  The tab may be loaded again at
any time; what it sent before may still be served.

* `browserSession_run`: the tab and the storage agree on who is signed in and which project is
  active, and the token is one that the proxy issued to that user.
* `ownProjects_run`: as long as nobody signs in or out while a call is on its way, the projects of
  the tab are those of the user who is signed in.
-/

namespace SentinelAI
open Support

namespace Web

/-! ### A tab and the proxy -/

/-- A call on its way, with the header of its request, and the reply once there is one. -/
structure Pending where
  call : Call
  header : Str
  reply : Option Reply := none

variable {ι : Type*} [DecidableEq ι]

structure BrowserSession (ι : Type*) where
  world : World
  tab : Tab
  pending : ι → Option Pending

def Tab.send (t : Tab) (call : Call) : Pending := { call, header := t.authHeaders }

/-- The tab after something that makes the call `i` be followed by another one, or by none. -/
def BrowserSession.follow (world : World) (pending : ι → Option Pending) (i : ι)
    (r : Tab × Option Call) : BrowserSession ι :=
  ⟨world, r.1, Function.update pending i (r.2.map r.1.send)⟩

/-- The first visit of a browser, which has a storage or refuses it. -/
def BrowserSession.start (world : World) (storage : Option Unit) : BrowserSession ι :=
  ⟨world, (load (storage.map fun _ => {})).1, fun _ => none⟩

/-- A call that a page makes. -/
def Call.OfPage : Call → Prop
  | .refreshProjects created mounting => created = none ∧ mounting = false
  | _ => True

inductive SessionLabel (ι : Type*) where
  | call (i : ι)
  | serve (i : ι)
  | lose (i : ι)
  | resume (i : ι)
  | select
  | logout
  | load (i : ι)
  /-- The proxy does something else. -/
  | proxy

inductive SessionStep (cfg : Config) :
    BrowserSession ι → SessionLabel ι → BrowserSession ι → Prop where
  | call {s : BrowserSession ι} {i : ι} {call : Call} (hi : s.pending i = none)
      (hc : call.OfPage) :
      SessionStep cfg s (.call i)
        ⟨s.world, s.tab, Function.update s.pending i (some (s.tab.send call))⟩
  | serve {s : BrowserSession ι} {i : ι} {p : Pending} (hi : s.pending i = some p)
      (hr : p.reply = none) (tick : Tick) (client : Option Str) :
      SessionStep cfg s (.serve i)
        ⟨(handle cfg tick s.world (p.call.request client p.header)).2, s.tab,
          Function.update s.pending i (some { p with
            reply := some (.ok (handle cfg tick s.world (p.call.request client p.header)).1) })⟩
  | lose {s : BrowserSession ι} {i : ι} {p : Pending} (hi : s.pending i = some p)
      (message : Str) :
      SessionStep cfg s (.lose i)
        ⟨s.world, s.tab,
          Function.update s.pending i (some { p with reply := some (.error message) })⟩
  | resume {s : BrowserSession ι} {i : ι} {p : Pending} {reply : Reply}
      (hi : s.pending i = some p) (hr : p.reply = some reply) :
      SessionStep cfg s (.resume i) (.follow s.world s.pending i (resume s.tab reply p.call))
  | select {s : BrowserSession ι} {p : Json} (hu : s.tab.user ≠ none)
      (hp : p ∈ s.tab.projects) :
      SessionStep cfg s .select ⟨s.world, setActiveProject s.tab (idOf p), s.pending⟩
  | logout {s : BrowserSession ι} :
      SessionStep cfg s .logout ⟨s.world, logout s.tab, s.pending⟩
  | load {s : BrowserSession ι} (i : ι) :
      SessionStep cfg s (.load i) (.follow s.world (fun _ => none) i (load s.tab.storage))
  | proxy {s : BrowserSession ι} {tick : Tick} {happening : Happening} {world : World}
      (h : Step cfg s.world (tick, happening) world) :
      SessionStep cfg s .proxy ⟨world, s.tab, s.pending⟩

end Web

/-! ### What the proxy answers -/

section Answers

variable {cfg : Config} {tick : Tick} {w : World}

/-- What FastAPI and PyJWT do with the tokens that the proxy issues. -/
structure Tokens (cfg : Config) : Prop where
  absent : cfg.httpBearer [] = none
  nonempty : ∀ now i, cfg.jwtEncode now i ≠ []
  /-- A token that is accepted names the user that it was issued to. -/
  subject : ∀ now i later j, cfg.jwtSubject later (cfg.jwtEncode now i) = some j → j = i
  bearer : ∀ now i token,
    cfg.httpBearer ("Bearer ".toList ++ cfg.jwtEncode now i) = some token →
      token = cfg.jwtEncode now i

/-- A token counts as one where it is read back. -/
theorem Tokens.filter (hc : Tokens cfg) (now : Time) (i : Int) :
    (some (cfg.jwtEncode now i)).filter (· ≠ []) = some (cfg.jwtEncode now i) := by
  simp [hc.nonempty now i]

namespace Web

variable {ι : Type*} [DecidableEq ι]

def Call.isAuth : Call → Bool
  | .signup _ _ | .login _ _ => true
  | _ => false

/-- An answer that signs someone in has a token that was issued to that user. -/
theorem authResult_handle {call : Call} (ha : call.isAuth = true) {client : Option Str}
    {header token : Str} {user : AuthUser}
    (h : authResult (.ok (handle cfg tick w (call.request client header)).1) =
      .ok (token, user)) : token = cfg.jwtEncode tick.now user.id := by
  cases call with
  | signup email password =>
      rw [show Call.request client header (.signup email password) =
        (Attempt.mk [] client ⟨email, password⟩).signup from rfl, handle_signup] at h
      revert h
      unfold signup
      split
      · exact nofun
      · dsimp only
        split
        · exact nofun
        · split
          · exact nofun
          · split
            · exact nofun
            · rintro ⟨⟩
              rfl
  | login email password =>
      rw [show Call.request client header (.login email password) =
        (Attempt.mk [] client ⟨email, password⟩).login from rfl, handle_login] at h
      revert h
      unfold login
      dsimp only
      split
      · exact nofun
      · split
        · exact nofun
        · split
          · rintro ⟨⟩
            rfl
          · exact nofun
  | createProject _ _ _ _ => cases ha
  | refreshProjects _ _ => cases ha

/-! ### What the tab does with a reply -/

/-- The projects that a reply to the call tells the tab of. -/
def Call.named (reply : Reply) : Call → List Json
  | .createProject _ _ _ _ => (createProjectResult reply).toOption.toList
  | .refreshProjects _ _ => listProjectsResult reply
  | _ => []

/-- The project that was created before the call. -/
def Call.made : Call → List Json
  | .refreshProjects created _ => created.toList
  | _ => []

def Call.isMounting : Call → Bool
  | .refreshProjects _ mounting => mounting
  | _ => false

inductive Resumed (t : Tab) (reply : Reply) (call : Call) : Tab × Option Call → Prop where
  | signedIn {token : Str} {user : AuthUser} (ha : call.isAuth = true)
      (h : authResult reply = .ok (token, user)) :
      Resumed t reply call (signedIn t token user, some (.refreshProjects none false))
  | created {project : Json} (hm : call.isMounting = false) (hp : project ∈ call.named reply) :
      Resumed t reply call (t, some (.refreshProjects (some project) false))
  | failed (hm : call.isMounting = false) : Resumed t reply call (t, none)
  | refreshed {created : Option Json} {mounting : Bool}
      (hc : call = .refreshProjects created mounting) :
      Resumed t reply call
        ({ activated (refreshed t (call.named reply)) created with
          loading := (activated (refreshed t (call.named reply)) created).loading && !mounting },
          none)

theorem resumed (t : Tab) (reply : Reply) (call : Call) :
    Resumed t reply call (resume t reply call) := by
  cases call with
  | signup email password =>
      unfold resume
      dsimp only
      split
      · rename_i hauth
        exact .signedIn rfl hauth
      · exact .failed rfl
  | login email password =>
      unfold resume
      dsimp only
      split
      · rename_i hauth
        exact .signedIn rfl hauth
      · exact .failed rfl
  | createProject name targetType repoUrl description =>
      unfold resume
      dsimp only
      split
      · rename_i project hp
        refine .created rfl ?_
        rw [Call.named, hp]
        exact List.mem_singleton_self project
      · exact .failed rfl
  | refreshProjects created mounting => exact .refreshed rfl

/-! ### The tab and its storage -/

section Storage

variable {t : Tab}

/-- The storage has the token and the user of one sign-in, or neither. -/
def LocalStorage.Issued (cfg : Config) (st : LocalStorage) : Prop :=
  (st.token = none ∧ st.user = none) ∨
    ∃ now user, st.token = some (cfg.jwtEncode now user.id) ∧ st.user = some user

/-- The page shows what the storage has. -/
structure Tab.Agrees (cfg : Config) (t : Tab) : Prop where
  issued : ∀ st, t.storage = some st → st.Issued cfg
  user : t.user = getStoredUser t
  active : ∀ i, t.activeProjectId = some i → t.storage ≠ none → getActiveProjectId t = some i

theorem agrees_setActiveProject (h : t.Agrees cfg) (id : Option Int) :
    (setActiveProject t id).Agrees cfg := by
  obtain ⟨storage, user, loading, projects, active⟩ := t
  cases storage with
  | none => exact ⟨nofun, h.user, fun _ _ hs => absurd rfl hs⟩
  | some st =>
      refine ⟨fun st' hst => ?_, h.user, fun i hi _ => hi⟩
      cases hst
      exact h.issued st rfl

theorem agrees_refreshed (h : t.Agrees cfg) (list : List Json) : (refreshed t list).Agrees cfg := by
  have listed : ({ t with projects := list } : Tab).Agrees cfg := ⟨h.issued, h.user, h.active⟩
  unfold refreshed
  dsimp only
  split
  · rename_i stored hs
    obtain ⟨hs, -⟩ := Option.filter_eq_some_iff.mp hs
    refine ⟨h.issued, h.user, fun i hi _ => ?_⟩
    cases hi
    exact hs
  · split
    · exact agrees_setActiveProject listed _
    · exact ⟨h.issued, h.user, nofun⟩

theorem agrees_activated (h : t.Agrees cfg) (created : Option Json) :
    (activated t created).Agrees cfg := by
  cases created with
  | none => exact h
  | some project => exact agrees_setActiveProject h _

theorem agrees_signedIn (h : t.Agrees cfg) (now : Time) (user : AuthUser) :
    (signedIn t (cfg.jwtEncode now user.id) user).Agrees cfg := by
  obtain ⟨storage, user', loading, projects, active⟩ := t
  cases storage with
  | none => exact ⟨nofun, rfl, fun _ _ hs => absurd rfl hs⟩
  | some st =>
      refine ⟨fun st' hst => ?_, rfl, fun i hi hs => h.active i hi (Option.some_ne_none st)⟩
      cases hst
      exact .inr ⟨now, user, rfl, rfl⟩

theorem agrees_logout (t : Tab) : (logout t).Agrees cfg := by
  obtain ⟨storage, user, loading, projects, active⟩ := t
  cases storage with
  | none => exact ⟨nofun, rfl, nofun⟩
  | some st =>
      refine ⟨fun st' hst => ?_, rfl, nofun⟩
      cases hst
      exact .inl ⟨rfl, rfl⟩

theorem agrees_load (hc : Tokens cfg) {storage : Option LocalStorage}
    (h : ∀ st, storage = some st → st.Issued cfg) : (load storage).1.Agrees cfg := by
  cases storage with
  | none => exact ⟨nofun, rfl, nofun⟩
  | some st =>
      rcases h st rfl with ⟨ht, hu⟩ | ⟨now, user, ht, hu⟩
      · obtain ⟨token, user, active⟩ := st
        cases ht
        cases hu
        exact ⟨fun _ hst => Option.some.inj hst ▸ .inl ⟨rfl, rfl⟩, rfl, nofun⟩
      · obtain ⟨token, user', active⟩ := st
        cases ht
        cases hu
        -- the token is not empty, and so the user of the storage is shown
        simp only [load, mount, getStoredUser, getToken, Option.bind_some,
          hc.filter now user.id]
        exact ⟨fun _ hst => Option.some.inj hst ▸ .inr ⟨now, user, rfl, rfl⟩, rfl, nofun⟩

theorem authHeader_some {page : Page} {token : Str}
    (h : page.token.filter (· ≠ []) = some token) :
    authHeader page = "Bearer ".toList ++ token := by
  rw [authHeader, h]

theorem authHeader_none {page : Page} (h : page.token.filter (· ≠ []) = none) :
    authHeader page = [] := by
  rw [authHeader, h]

/-- The requests of the tab carry a token of the user that it shows, or none. -/
theorem Tab.Agrees.authHeaders (hc : Tokens cfg) (h : t.Agrees cfg) :
    (t.user = none ∧ t.authHeaders = []) ∨
      ∃ now user, t.user = some user ∧
        t.authHeaders = "Bearer ".toList ++ cfg.jwtEncode now user.id := by
  rw [h.user, getStoredUser, Tab.authHeaders]
  cases hs : t.storage with
  | none => exact .inl ⟨rfl, authHeader_none (by rw [Tab.page, getToken, hs]; rfl)⟩
  | some st =>
      have page : (t.page []).token = st.token := by rw [Tab.page, getToken, hs]; rfl
      rcases h.issued st hs with ⟨ht, hu⟩ | ⟨now, user, ht, hu⟩
      · exact .inl ⟨hu, authHeader_none (by rw [page, ht]; rfl)⟩
      · exact .inr ⟨now, user, hu, authHeader_some (by rw [page, ht, hc.filter])⟩

end Storage

/-! ### Any order of steps -/

/-- The reply to a call that would sign someone in has a token of that user. -/
def Pending.Issued (cfg : Config) (p : Pending) : Prop :=
  p.call.isAuth = true → ∀ reply token user, p.reply = some reply →
    authResult reply = .ok (token, user) → ∃ now, token = cfg.jwtEncode now user.id

structure BrowserSession.Consistent (cfg : Config) (s : BrowserSession ι) : Prop where
  agrees : s.tab.Agrees cfg
  loading : s.tab.loading = true → ∃ i p, s.pending i = some p ∧ p.call.isMounting = true
  issued : ∀ i p, s.pending i = some p → p.Issued cfg

theorem update_eq_some {α : Type*} {f : ι → Option α} {i j : ι} {a : Option α} {p : α}
    (h : Function.update f i a j = some p) : (j = i ∧ a = some p) ∨ (j ≠ i ∧ f j = some p) := by
  by_cases hj : j = i
  · subst hj
    rw [Function.update_self] at h
    exact .inl ⟨rfl, h⟩
  · rw [Function.update_of_ne hj] at h
    exact .inr ⟨hj, h⟩

theorem follow_self (world : World) (f : ι → Option Pending) (i : ι) (r : Tab × Option Call) :
    (BrowserSession.follow world f i r).pending i = r.2.map r.1.send := by
  unfold BrowserSession.follow
  exact Function.update_self i _ f

theorem pending_follow {world : World} {f : ι → Option Pending} {i j : ι} {r : Tab × Option Call}
    {q : Pending} (h : (BrowserSession.follow world f i r).pending j = some q) :
    (j = i ∧ ∃ call, r.2 = some call ∧ q = r.1.send call) ∨ (j ≠ i ∧ f j = some q) := by
  rcases update_eq_some (f := f) h with ⟨rfl, hq⟩ | hq
  · obtain ⟨call, hcall, rfl⟩ := Option.map_eq_some_iff.mp hq
    exact .inl ⟨rfl, call, hcall, rfl⟩
  · exact .inr hq

variable {t : Tab}

theorem issued_send (call : Call) : (t.send call).Issued cfg := fun _ _ _ _ h => nomatch h

theorem loading_refreshed (list : List Json) : (refreshed t list).loading = t.loading := by
  unfold refreshed
  dsimp only
  split
  · rfl
  · split <;> rfl

theorem loading_activated (created : Option Json) :
    (activated t created).loading = t.loading := by
  cases created <;> rfl

theorem loading_resume (reply : Reply) (call : Call) :
    (resume t reply call).1.loading = (t.loading && !call.isMounting) := by
  have next := resumed t reply call
  generalize resume t reply call = r at next ⊢
  cases next with
  | signedIn ha =>
      have hm : call.isMounting = false := by
        cases call <;> first | rfl | cases ha
      simp [hm, signedIn, storeAuth]
  | created hm => simp [hm]
  | failed hm => simp [hm]
  | refreshed hc => simp [hc, loading_activated, loading_refreshed, Call.isMounting]

theorem agrees_resume (h : t.Agrees cfg) {p : Pending} (hp : p.Issued cfg) {reply : Reply}
    (hr : p.reply = some reply) : (resume t reply p.call).1.Agrees cfg := by
  have next := resumed t reply p.call
  generalize resume t reply p.call = r at next ⊢
  cases next with
  | signedIn ha hauth =>
      obtain ⟨now, rfl⟩ := hp ha reply _ _ hr hauth
      exact agrees_signedIn h now _
  | created => exact h
  | failed => exact h
  | @refreshed created _ hc =>
      have list := agrees_activated (agrees_refreshed h (p.call.named reply)) created
      exact ⟨list.issued, list.user, list.active⟩

/-- The first render waits for its list where there is someone to list for. -/
theorem loading_load (storage : Option LocalStorage) (h : (load storage).1.loading = true) :
    ∃ call, (load storage).2 = some call ∧ call.isMounting = true := by
  unfold load mount at *
  split at h
  · exact ⟨_, rfl, rfl⟩
  · cases h

variable {s s' : BrowserSession ι} {a : SessionLabel ι}

omit [DecidableEq ι] in
theorem consistent_start (hc : Tokens cfg) (storage : Option Unit) :
    (BrowserSession.start w storage : BrowserSession ι).Consistent cfg where
  agrees := agrees_load hc fun st hst => by
    obtain ⟨-, -, rfl⟩ := Option.map_eq_some_iff.mp hst
    exact .inl ⟨rfl, rfl⟩
  loading := by
    cases storage <;> exact nofun
  issued := nofun

theorem consistent_step (hc : Tokens cfg) (hs : SessionStep cfg s a s')
    (h : s.Consistent cfg) : s'.Consistent cfg := by
  -- a call that goes on under the same name
  have elsewhere : ∀ {i q}, (∀ p, s.pending i = some p → p.call.isMounting = true →
      q.call.isMounting = true) → s.tab.loading = true →
      ∃ j p, Function.update s.pending i (some q) j = some p ∧ p.call.isMounting = true := by
    intro i q hq hl
    obtain ⟨j, p, hj, hm⟩ := h.loading hl
    by_cases hji : j = i
    · subst hji
      exact ⟨j, q, Function.update_self _ _ _, hq p hj hm⟩
    · exact ⟨j, p, by rw [Function.update_of_ne hji, hj], hm⟩
  cases hs with
  | @call i call hi hp =>
      refine ⟨h.agrees, elsewhere fun p hp => ?_, fun j p hj => ?_⟩
      · rw [hi] at hp
        cases hp
      · rcases update_eq_some hj with ⟨rfl, hp⟩ | ⟨-, hp⟩
        · cases hp
          exact issued_send call
        · exact h.issued j p hp
  | @serve i p hi hr tick client =>
      refine ⟨h.agrees, elsewhere fun q hq hm => ?_, fun j q hj => ?_⟩
      · rw [hi] at hq
        cases hq
        exact hm
      · rcases update_eq_some hj with ⟨rfl, hq⟩ | ⟨-, hq⟩
        · cases hq
          intro ha reply token user hreply hauth
          cases hreply
          exact ⟨_, authResult_handle ha hauth⟩
        · exact h.issued j q hq
  | @lose i p hi message =>
      refine ⟨h.agrees, elsewhere fun q hq hm => ?_, fun j q hj => ?_⟩
      · rw [hi] at hq
        cases hq
        exact hm
      · rcases update_eq_some hj with ⟨rfl, hq⟩ | ⟨-, hq⟩
        · cases hq
          intro ha reply token user hreply hauth
          cases hreply
          cases hauth
        · exact h.issued j q hq
  | @resume i p reply hi hr =>
      refine ⟨agrees_resume h.agrees (h.issued i p hi) hr, fun hl => ?_, fun j q hj => ?_⟩
      · rw [BrowserSession.follow, loading_resume, Bool.and_eq_true, Bool.not_eq_true'] at hl
        obtain ⟨j, q, hj, hm⟩ := h.loading hl.1
        have hji : j ≠ i := by
          rintro rfl
          rw [hi] at hj
          cases hj
          exact Bool.false_ne_true (hl.2.symm.trans hm)
        exact ⟨j, q, (Function.update_of_ne hji _ _).trans hj, hm⟩
      · rcases pending_follow hj with ⟨-, call, -, rfl⟩ | ⟨-, hq⟩
        · exact issued_send call
        · exact h.issued j q hq
  | select hu hp => exact ⟨agrees_setActiveProject h.agrees _, h.loading, h.issued⟩
  | logout => exact ⟨agrees_logout s.tab, h.loading, h.issued⟩
  | load i =>
      refine ⟨agrees_load hc h.agrees.issued, fun hl => ?_, fun j q hj => ?_⟩
      · obtain ⟨call, hcall, hm⟩ := loading_load _ hl
        refine ⟨i, (load s.tab.storage).1.send call, ?_, hm⟩
        rw [follow_self, hcall]
        rfl
      · rcases pending_follow hj with ⟨-, call, -, rfl⟩ | ⟨-, hq⟩
        · exact issued_send call
        · cases hq
  | proxy hstep => exact ⟨h.agrees, h.loading, h.issued⟩

/-- **The tab and the storage agree**, in whatever order calls are made, served, lost and answered,
users sign in and out, projects are selected and the page is loaded: the user shown is the one in
the storage, every request carries a token that the proxy issued to that user, the active project is
the one in the storage, and the page is loading only while the list of the first render is on its
way. -/
theorem browserSession_run (hc : Tokens cfg) {storage : Option Unit}
    {as : List (SessionLabel ι)} (run : Run (SessionStep cfg) (.start w storage) as s) :
    s.tab.user = getStoredUser s.tab ∧
      ((s.tab.user = none ∧ s.tab.authHeaders = []) ∨
        ∃ now user, s.tab.user = some user ∧
          s.tab.authHeaders = "Bearer ".toList ++ cfg.jwtEncode now user.id) ∧
      (∀ i, s.tab.activeProjectId = some i → s.tab.storage ≠ none →
        getActiveProjectId s.tab = some i) ∧
      (s.tab.loading = true → ∃ i p, s.pending i = some p ∧ p.call.isMounting = true) := by
  have h : s.Consistent cfg :=
    run.invariant (fun _ _ _ hs => consistent_step hc hs) (consistent_start hc storage)
  exact ⟨h.agrees.user, h.agrees.authHeaders hc, h.agrees.active, h.loading⟩

/-! ### The projects of the tab -/

/-- `P` holds of every project that the tab knows of. -/
structure Tab.All (P : Int → Prop) (t : Tab) : Prop where
  projects : ∀ q ∈ t.projects, ∀ i, idOf q = some i → P i
  active : ∀ i, t.activeProjectId = some i → P i
  stored : ∀ i, getActiveProjectId t = some i → P i

section Projects

variable {P : Int → Prop}

theorem all_setActiveProject (h : t.All P) {id : Option Int} (hi : ∀ i, id = some i → P i) :
    (setActiveProject t id).All P := by
  refine ⟨h.projects, hi, fun i hs => ?_⟩
  obtain ⟨storage, user, loading, projects, active⟩ := t
  cases storage with
  | none => cases hs
  | some st => exact hi i hs

theorem all_refreshed (h : t.All P) {list : List Json}
    (hl : ∀ q ∈ list, ∀ i, idOf q = some i → P i) : (refreshed t list).All P := by
  have listed : ({ t with projects := list } : Tab).All P := ⟨hl, h.active, h.stored⟩
  unfold refreshed
  dsimp only
  split
  · rename_i stored hs
    obtain ⟨hs, -⟩ := Option.filter_eq_some_iff.mp hs
    exact ⟨hl, fun i hi => h.stored i (hs.trans hi), h.stored⟩
  · split
    · exact all_setActiveProject listed (hl _ List.mem_cons_self)
    · exact ⟨hl, nofun, h.stored⟩

theorem all_activated (h : t.All P) {created : Option Json}
    (hc : ∀ q ∈ created.toList, ∀ i, idOf q = some i → P i) : (activated t created).All P := by
  cases created with
  | none => exact h
  | some project => exact all_setActiveProject h (hc project (List.mem_singleton_self project))

theorem all_resume (h : t.All P) {reply : Reply} {call : Call}
    (hc : ∀ q ∈ call.made ++ call.named reply, ∀ i, idOf q = some i → P i) :
    (resume t reply call).1.All P := by
  have next := resumed t reply call
  generalize resume t reply call = r at next ⊢
  cases next with
  | signedIn =>
      refine ⟨h.projects, h.active, fun i hi => h.stored i ?_⟩
      obtain ⟨storage, _⟩ := t
      cases storage <;> exact hi
  | created => exact h
  | failed => exact h
  | refreshed he =>
      have list := all_refreshed h fun q hq => hc q (List.mem_append_right _ hq)
      subst he
      have after := all_activated list fun q hq => hc q (List.mem_append_left _ hq)
      exact ⟨after.projects, after.active, after.stored⟩

/-- What is told of a reply is handed on to the next call. -/
theorem made_resume {reply : Reply} {call next : Call} (h : (resume t reply call).2 = some next) :
    ∀ q ∈ next.made, q ∈ call.named reply := by
  have r := resumed t reply call
  generalize resume t reply call = after at r h
  cases r with
  | signedIn =>
      cases h
      exact nofun
  | created hm hp =>
      cases h
      intro q hq
      rwa [List.mem_singleton.mp hq]
  | failed => cases h
  | refreshed => cases h

theorem account_setActiveProject (t : Tab) (id : Option Int) :
    (setActiveProject t id).user = t.user ∧
      (setActiveProject t id).authHeaders = t.authHeaders := by
  obtain ⟨storage, _⟩ := t
  cases storage <;> exact ⟨rfl, rfl⟩

theorem account_refreshed (t : Tab) (list : List Json) :
    (refreshed t list).user = t.user ∧ (refreshed t list).authHeaders = t.authHeaders := by
  unfold refreshed
  dsimp only
  split
  · exact ⟨rfl, rfl⟩
  · split
    · exact account_setActiveProject _ _
    · exact ⟨rfl, rfl⟩

/-- Only an answer that signs someone in changes who is signed in. -/
theorem account_resume (t : Tab) (reply : Reply) (call : Call)
    (h : call.isAuth = true → ∀ auth, authResult reply ≠ .ok auth) :
    (resume t reply call).1.user = t.user ∧
      (resume t reply call).1.authHeaders = t.authHeaders := by
  have next := resumed t reply call
  generalize resume t reply call = r at next ⊢
  cases next with
  | signedIn ha hauth => exact absurd hauth (h ha _)
  | created => exact ⟨rfl, rfl⟩
  | failed => exact ⟨rfl, rfl⟩
  | @refreshed created _ hc =>
      have list := account_refreshed t (call.named reply)
      cases created with
      | none => exact list
      | some project =>
          have after := account_setActiveProject (refreshed t (call.named reply)) (idOf project)
          exact ⟨after.1.trans list.1, after.2.trans list.2⟩

theorem Tab.All.imp {Q : Int → Prop} (h : t.All P) (hi : ∀ i, P i → Q i) : t.All Q where
  projects q hq i hid := hi i (h.projects q hq i hid)
  active i ha := hi i (h.active i ha)
  stored i hs := hi i (h.stored i hs)

end Projects

/-- The projects that are listed are the caller's. -/
theorem owns_listProjects {db : Db} {user : User} {q : Json} (hq : q ∈ (listProjects user db).elems)
    {i : Int} (hi : idOf q = some i) : Owns db user.id i := by
  obtain ⟨project, ho, rfl⟩ := ownedProject_of_listed hq
  cases hi
  exact (owns_of_ownedProject ho).1

/-- So is the one that is created. -/
theorem owns_createProject {db : Db} {user : User} {body : ProjectCreate} {q : Json}
    (hq : (createProject tick user db body).1 = .ok (.ok q)) {i : Int} (hi : idOf q = some i) :
    Owns (createProject tick user db body).2 user.id i := by
  have workspace : ∃ ws ∈ (ensureWorkspace tick user db).2.workspaces.rows,
      ws.id = (ensureWorkspace tick user db).1 ∧ ws.ownerUserId = user.id := by
    unfold ensureWorkspace
    split
    · rename_i ws hw
      have owner := List.find?_some hw
      exact ⟨ws, List.mem_of_find?_eq_some hw, rfl, beq_iff_eq.mp owner⟩
    · exact ⟨_, Table.mem_insert.mpr (.inr rfl), rfl, rfl⟩
  obtain ⟨ws, hws, hid, ho⟩ := workspace
  unfold createProject at hq ⊢
  cases hq
  cases hi
  exact ⟨_, ws, Table.find?_eq_some_iff.mpr ⟨Table.mem_insert.mpr (.inr rfl), rfl⟩,
    Table.find?_eq_some_iff.mpr ⟨hws, hid⟩, ho⟩

/-- The projects that the proxy tells a tab of are those of the user that the header names. -/
theorem named_handle {call : Call} {client : Option Str} {header : Str} {q : Json}
    (hq : q ∈ call.named (.ok (handle cfg tick w (call.request client header)).1)) {i : Int}
    (hi : idOf q = some i) :
    ∃ user, getCurrentUser cfg tick.now w.db header = .ok user ∧
      Owns (handle cfg tick w (call.request client header)).2.db user.id i := by
  cases call with
  | signup email password => cases hq
  | login email password => cases hq
  | createProject name targetType repoUrl description =>
      rw [Call.request] at hq ⊢
      rcases handle_user_cases cfg tick w header client (.create_project
        ⟨name, targetType, repoUrl.filter (· ≠ []), description.filter (· ≠ [])⟩) with
        ⟨code, message, h⟩ | ⟨user, -, hu, h⟩
      · rw [h] at hq
        cases hq
      · rw [h] at hq ⊢
        refine ⟨user, hu, owns_createProject (q := q) ?_ hi⟩
        cases List.mem_singleton.mp hq
        rfl
  | refreshProjects created mounting =>
      rw [Call.request] at hq ⊢
      rcases handle_user_cases cfg tick w header client .list_projects with
        ⟨code, message, h⟩ | ⟨user, -, hu, h⟩
      · rw [h] at hq
        cases hq
      · rw [h] at hq ⊢
        exact ⟨user, hu, owns_listProjects hq hi⟩

/-- The header of the tab names nobody but the user who is shown. -/
theorem Tab.Agrees.user_of_getCurrentUser (hc : Tokens cfg) (h : t.Agrees cfg) {now : Time}
    {db : Db} {user : User} (hu : getCurrentUser cfg now db t.authHeaders = .ok user) :
    ∃ u, t.user = some u ∧ u.id = user.id := by
  obtain ⟨token, hb, ht⟩ := getCurrentUser_eq_ok.mp hu
  rcases h.authHeaders hc with ⟨-, hh⟩ | ⟨issue, u, hu, hh⟩
  · rw [hh, hc.absent] at hb
    cases hb
  · rw [hh] at hb
    obtain rfl := hc.bearer issue u.id token hb
    obtain ⟨id, hs, hf⟩ := tokenUser_eq_ok.mp ht
    obtain ⟨-, hid⟩ := Table.find?_eq_some_iff.mp hf
    exact ⟨u, hu, (hc.subject issue u.id now id hs).symm.trans hid.symm⟩

/-! ### One user at a time -/

/-- The project is one of the user who is signed in. -/
def BrowserSession.Mine (s : BrowserSession ι) (i : Int) : Prop :=
  ∃ user, s.tab.user = some user ∧ Owns s.world.db user.id i

/-- The reply to the call `i` is about to sign someone in. -/
def BrowserSession.SignsIn (s : BrowserSession ι) (i : ι) : Prop :=
  ∃ p reply auth, s.pending i = some p ∧ p.call.isAuth = true ∧ p.reply = some reply ∧
    authResult reply = .ok auth

/-- Nobody signs in over another user, or signs in or out while a call is on its way. -/
def BrowserSession.Calm (s : BrowserSession ι) : SessionLabel ι → Prop
  | .resume i => s.SignsIn i → s.tab.user = none ∧ ∀ j, j ≠ i → s.pending j = none
  | .logout => ∀ j, s.pending j = none
  | _ => True

/-- The call was sent for the user who is signed in, and so were those that it goes on from. -/
structure Pending.Mine (s : BrowserSession ι) (p : Pending) : Prop where
  header : p.call.isAuth = false → p.header = s.tab.authHeaders
  made : ∀ q ∈ p.call.made, ∀ i, idOf q = some i → s.Mine i
  named : ∀ reply, p.reply = some reply → ∀ q ∈ p.call.named reply, ∀ i, idOf q = some i → s.Mine i

structure BrowserSession.OwnProjects (cfg : Config) (s : BrowserSession ι) : Prop where
  consistent : s.Consistent cfg
  all : s.tab.All s.Mine
  pending : ∀ i p, s.pending i = some p → p.Mine s

omit [DecidableEq ι] in
/-- A call stays one of the user's where the user stays and keeps the projects. -/
theorem Pending.Mine.imp {p : Pending} (h : p.Mine s)
    (hh : s'.tab.authHeaders = s.tab.authHeaders) (hm : ∀ i, s.Mine i → s'.Mine i) : p.Mine s' where
  header ha := (h.header ha).trans hh.symm
  made q hq i hi := hm i (h.made q hq i hi)
  named reply hr q hq i hi := hm i (h.named reply hr q hq i hi)

omit [DecidableEq ι] in
theorem mine_send (call : Call) (h : ∀ q ∈ call.made, ∀ i, idOf q = some i → s.Mine i) :
    (s.tab.send call).Mine s where
  header _ := rfl
  made := h
  named := nofun

omit [DecidableEq ι] in
theorem mine_of_world {world : World} (h : AuditTrail s.world.db world.db) {i : Int}
    {f : ι → Option Pending} (hi : s.Mine i) : (BrowserSession.mk world s.tab f).Mine i := by
  obtain ⟨user, hu, ho⟩ := hi
  exact ⟨user, hu, ho.of_evolves h.workspaces h.projects⟩

theorem isAuth_eq_false_of_named {call : Call} {reply : Reply} {q : Json}
    (h : q ∈ call.named reply) : call.isAuth = false := by
  cases call <;> first | rfl | cases h

theorem load_frame (storage : Option LocalStorage) :
    (load storage).1.storage = storage ∧ (load storage).1.projects = [] ∧
      (load storage).1.activeProjectId = none ∧ ∀ call, (load storage).2 = some call →
        call.made = [] := by
  unfold load mount
  split
  · refine ⟨rfl, rfl, rfl, fun call hcall => ?_⟩
    cases hcall
    rfl
  · exact ⟨rfl, rfl, rfl, nofun⟩

theorem getActiveProjectId_logout (t : Tab) : getActiveProjectId (logout t) = none := by
  obtain ⟨storage, _⟩ := t
  cases storage <;> rfl

theorem ownProjects_resume {i : ι} {p : Pending} {reply : Reply} (hi : s.pending i = some p)
    (hr : p.reply = some reply) (hcalm : s.Calm (.resume i)) (h : s.OwnProjects cfg)
    (hs : (BrowserSession.follow s.world s.pending i (resume s.tab reply p.call)).Consistent cfg) :
    (BrowserSession.follow s.world s.pending i (resume s.tab reply p.call)).OwnProjects cfg := by
  have mine := h.pending i p hi
  have told : ∀ q ∈ p.call.made ++ p.call.named reply, ∀ j, idOf q = some j → s.Mine j := by
    intro q hq
    rcases List.mem_append.mp hq with hq | hq
    · exact mine.made q hq
    · exact mine.named reply hr q hq
  by_cases signs : p.call.isAuth = true ∧ ∃ auth, authResult reply = .ok auth
  · -- nobody was signed in, and nothing else is on its way
    obtain ⟨ha, auth, hauth⟩ := signs
    obtain ⟨nobody, alone⟩ := hcalm ⟨p, reply, auth, hi, ha, hr, hauth⟩
    have none_mine : ∀ j, s.Mine j → False := by
      rintro j ⟨user, hu, -⟩
      rw [nobody] at hu
      cases hu
    refine ⟨hs, ?_, fun j q hj => ?_⟩
    · exact (all_resume (h.all.imp none_mine) fun q hq j hj => none_mine j (told q hq j hj)).imp
        fun j => False.elim
    · rcases pending_follow hj with ⟨-, call, hcall, rfl⟩ | ⟨hji, hq⟩
      · refine mine_send (s := .follow s.world s.pending i (resume s.tab reply p.call)) call
          fun q hq => ?_
        have named := made_resume hcall q hq
        rw [isAuth_eq_false_of_named named] at ha
        cases ha
      · rw [alone j hji] at hq
        cases hq
  · obtain ⟨user, header⟩ := account_resume s.tab reply p.call
      fun ha auth hauth => signs ⟨ha, auth, hauth⟩
    have kept : ∀ j, s.Mine j →
        (BrowserSession.follow s.world s.pending i (resume s.tab reply p.call)).Mine j := by
      rintro j ⟨u, hu, ho⟩
      exact ⟨u, user.trans hu, ho⟩
    refine ⟨hs, (all_resume h.all told).imp kept, fun j q hj => ?_⟩
    rcases pending_follow hj with ⟨-, call, hcall, rfl⟩ | ⟨-, hq⟩
    · refine mine_send (s := .follow s.world s.pending i (resume s.tab reply p.call)) call
        fun q hq j hj => kept j ?_
      exact mine.named reply hr q (made_resume hcall q hq) j hj
    · exact (h.pending j q hq).imp header kept

theorem ownProjects_step (hc : Tokens cfg) (hs : SessionStep cfg s a s') (hcalm : s.Calm a)
    (h : s.OwnProjects cfg) : s'.OwnProjects cfg := by
  have consistent := consistent_step hc hs h.consistent
  cases hs with
  | @call i call hi hp =>
      refine ⟨consistent, h.all, fun j q hj => ?_⟩
      rcases update_eq_some hj with ⟨-, hq⟩ | ⟨-, hq⟩
      · cases hq
        have fresh : ∀ q ∈ call.made, ∀ i, idOf q = some i → s.Mine i := by
          cases call with
          | refreshProjects created mounting =>
              obtain ⟨rfl, -⟩ := hp
              exact nofun
          | _ => exact nofun
        exact (mine_send call fresh).imp rfl fun _ hm => hm
      · exact (h.pending j q hq).imp rfl fun _ hm => hm
  | @serve i p hi hr tick client =>
      have trail : AuditTrail s.world.db
          (handle cfg tick s.world (p.call.request client p.header)).2.db := auditTrail_handle _
      refine ⟨consistent, h.all.imp fun j => mine_of_world trail, fun j q hj => ?_⟩
      rcases update_eq_some hj with ⟨-, hq⟩ | ⟨-, hq⟩
      · cases hq
        have mine := h.pending i p hi
        have still : p.Mine ⟨(handle cfg tick s.world (p.call.request client p.header)).2,
            s.tab, s.pending⟩ := mine.imp rfl fun j => mine_of_world trail
        refine ⟨still.header, still.made, fun reply hreply q hq j hj => ?_⟩
        cases hreply
        obtain ⟨user, hu, ho⟩ := named_handle hq hj
        rw [mine.header (isAuth_eq_false_of_named hq)] at hu
        obtain ⟨u, hsigned, hid⟩ := h.consistent.agrees.user_of_getCurrentUser hc hu
        exact ⟨u, hsigned, hid ▸ ho⟩
      · exact (h.pending j q hq).imp rfl fun j => mine_of_world trail
  | @lose i p hi message =>
      refine ⟨consistent, h.all, fun j q hj => ?_⟩
      rcases update_eq_some hj with ⟨-, hq⟩ | ⟨-, hq⟩
      · cases hq
        have mine := h.pending i p hi
        refine ⟨mine.header, mine.made, fun reply hreply q hq => ?_⟩
        cases hreply
        obtain ⟨call, _⟩ := p
        cases call <;> cases hq
      · exact (h.pending j q hq).imp rfl fun _ hm => hm
  | resume hi hr => exact ownProjects_resume hi hr hcalm h consistent
  | @select q hu hq =>
      obtain ⟨user, header⟩ := account_setActiveProject s.tab (idOf q)
      have kept : ∀ j, s.Mine j →
          (BrowserSession.mk s.world (setActiveProject s.tab (idOf q)) s.pending).Mine j := by
        rintro j ⟨u, hu, ho⟩
        exact ⟨u, user.trans hu, ho⟩
      refine ⟨consistent, ?_, fun j p hj => (h.pending j p hj).imp header kept⟩
      exact (all_setActiveProject h.all (h.all.projects q hq)).imp kept
  | logout =>
      refine ⟨consistent, ⟨nofun, nofun, fun i hi => ?_⟩, fun j p hj => ?_⟩
      · rw [getActiveProjectId_logout] at hi
        cases hi
      · rw [hcalm j] at hj
        cases hj
  | load i =>
      obtain ⟨storage, projects, active, made⟩ := load_frame s.tab.storage
      have user : (load s.tab.storage).1.user = s.tab.user := by
        rw [(agrees_load hc h.consistent.agrees.issued).user, h.consistent.agrees.user,
          getStoredUser, storage]
        rfl
      have kept : ∀ j, s.Mine j →
          (BrowserSession.follow s.world (fun _ => none) i (load s.tab.storage)).Mine j := by
        rintro j ⟨u, hu, ho⟩
        exact ⟨u, user.trans hu, ho⟩
      refine ⟨consistent, ⟨?_, ?_, fun j hj => kept j (h.all.stored j ?_)⟩, fun j p hj => ?_⟩
      · rw [BrowserSession.follow, projects]
        exact nofun
      · rw [BrowserSession.follow, active]
        exact nofun
      · rw [BrowserSession.follow, getActiveProjectId, storage] at hj
        exact hj
      · rcases pending_follow hj with ⟨-, call, hcall, rfl⟩ | ⟨-, hp⟩
        · refine mine_send (s := .follow s.world (fun _ => none) i (load s.tab.storage)) call ?_
          rw [made call hcall]
          exact nofun
        · cases hp
  | proxy hstep =>
      have trail := auditTrail_step hstep
      exact ⟨consistent, h.all.imp fun j => mine_of_world trail,
        fun j p hj => (h.pending j p hj).imp rfl fun j => mine_of_world trail⟩

/-- **One user at a time.**  As long as nobody signs in over another user, or signs in or out while
a call is on its way, every project that the tab lists, shows as active or has in the storage is one
of the user who is signed in; so that the proxy refuses the tab none of them, for as long as it
accepts the token. -/
theorem ownProjects_run (hc : Tokens cfg) {storage : Option Unit} {as : List (SessionLabel ι)}
    (run : Run.All (SessionStep cfg) (fun s a _ => s.Calm a) (.start w storage) as s) {i : Int}
    (hi : s.tab.activeProjectId = some i ∨ getActiveProjectId s.tab = some i ∨
      ∃ q ∈ s.tab.projects, idOf q = some i) :
    (∃ user, s.tab.user = some user ∧ Owns s.world.db user.id i) ∧
      ∃ project, ∀ tick user,
        getCurrentUser cfg tick.now s.world.db s.tab.authHeaders = .ok user →
          requireProject cfg tick s.world.db s.tab.authHeaders i = .ok project := by
  have start : (BrowserSession.start w storage : BrowserSession ι).OwnProjects cfg := by
    refine ⟨consistent_start hc storage, ⟨?_, ?_, ?_⟩, nofun⟩ <;> cases storage <;> exact nofun
  have h : s.OwnProjects cfg :=
    run.invariant (fun _ _ _ hs hcalm => ownProjects_step hc hs hcalm) start
  have mine : s.Mine i := by
    rcases hi with hi | hi | ⟨q, hq, hi⟩
    · exact h.all.active i hi
    · exact h.all.stored i hi
    · exact h.all.projects q hq i hi
  obtain ⟨u, hu, ho⟩ := mine
  obtain ⟨project, workspace, hp, hw, how⟩ := ho
  refine ⟨⟨u, hu, project, workspace, hp, hw, how⟩, project, fun tick user huser => ?_⟩
  obtain ⟨u', hu', hid⟩ := h.consistent.agrees.user_of_getCurrentUser hc huser
  rw [hu] at hu'
  cases hu'
  rw [requireProject, huser]
  exact ownedProject_eq_ok.mpr ⟨hp, workspace, hw, how.trans hid⟩

end Web

end Answers

/-! ### A proxy that issues tokens -/

/-- The token of a user is a sign and as many letters as the id says. -/
def Config.issuing : Config :=
  { Config.demo with
    checkpw := fun password passwordHash => some (password == passwordHash)
    jwtEncode := fun _ i => (if i < 0 then '-' else '+') :: List.replicate i.natAbs 'x'
    jwtSubject := fun _ token =>
      match token with
      | '-' :: xs => some (-xs.length)
      | '+' :: xs => some xs.length
      | _ => none }

theorem tokens_issuing : Tokens .issuing where
  absent := rfl
  nonempty _ _ := List.cons_ne_nil _ _
  subject now i later j h := by
    by_cases hi : i < 0
    · simp only [Config.issuing, if_pos hi, List.length_replicate, Option.some.injEq] at h
      omega
    · simp only [Config.issuing, if_neg hi, List.length_replicate, Option.some.injEq] at h
      omega
  bearer now i token h := by
    change readBearer .ascii ("Bearer ".toList ++ Config.issuing.jwtEncode now i) = some token at h
    unfold readBearer at h
    split at h
    · exact (Option.some.inj h).symm
    · cases h

namespace Web

/-- Two users, of whom the first has a project. -/
def sharedProxy : World :=
  serveAll .issuing .zero .empty
    [⟨[], none, .unguarded (.signup ⟨"a@b.co", "12345678"⟩)⟩,
      ⟨"Bearer +x", none, .ofUser (.create_project ⟨"p", "model", none, none⟩)⟩,
      ⟨[], none, .unguarded (.signup ⟨"c@d.co", "12345678"⟩)⟩]

/-- The call `i` is made. -/
def BrowserSession.called (s : BrowserSession Bool) (i : Bool) (p : Pending) :
    BrowserSession Bool :=
  ⟨s.world, s.tab, Function.update s.pending i (some p)⟩

/-- The call `i` is served. -/
def BrowserSession.served (s : BrowserSession Bool) (i : Bool) (p : Pending) :
    BrowserSession Bool :=
  ⟨(handle .issuing .zero s.world (p.call.request none p.header)).2, s.tab,
    Function.update s.pending i (some { p with
      reply := some (.ok (handle .issuing .zero s.world (p.call.request none p.header)).1) })⟩

/-- The reply to the call `i` has come. -/
def BrowserSession.resumed (s : BrowserSession Bool) (i : Bool) (call : Call) (reply : Reply) :
    BrowserSession Bool := .follow s.world s.pending i (resume s.tab reply call)

/-- The first user's list comes when the second user has signed in, and makes the first user's
project the second's active one. -/
theorem browserSession_run_late : ∃ as, ∃ s : BrowserSession Bool,
    Run (SessionStep .issuing) (.start sharedProxy (some ())) as s ∧
      s.tab.user = getStoredUser s.tab ∧ s.tab.user.map (·.id) = some 2 ∧
      s.tab.activeProjectId = some 1 ∧ getActiveProjectId s.tab = some 1 ∧
      ¬ (ownedProject s.world.db 1 2).isOk := by
  let s₀ : BrowserSession Bool := .start sharedProxy (some ())
  let a := s₀.tab.send (.login "a@b.co" "12345678")
  let s₁ := s₀.called true a
  let s₂ := s₁.served true a
  have h₁ : SessionStep .issuing s₀ (.call true) s₁ := .call rfl trivial
  have h₂ : SessionStep .issuing s₁ (.serve true) s₂ := .serve (p := a) rfl rfl .zero none
  let reply := (handle .issuing .zero s₁.world (a.call.request none a.header)).1
  let s₃ := s₂.resumed true a.call (.ok reply)
  have h₃ : SessionStep .issuing s₂ (.resume true) s₃ :=
    .resume (p := { a with reply := some (.ok reply) }) rfl rfl
  let list := s₃.tab.send (.refreshProjects none false)
  let s₄ := s₃.served true list
  have h₄ : SessionStep .issuing s₃ (.serve true) s₄ := .serve (p := list) rfl rfl .zero none
  let late := (handle .issuing .zero s₃.world (list.call.request none list.header)).1
  let s₅ : BrowserSession Bool := ⟨s₄.world, logout s₄.tab, s₄.pending⟩
  have h₅ : SessionStep .issuing s₄ .logout s₅ := .logout
  let c := s₅.tab.send (.login "c@d.co" "12345678")
  let s₆ := s₅.called false c
  let s₇ := s₆.served false c
  have h₆ : SessionStep .issuing s₅ (.call false) s₆ := .call rfl trivial
  have h₇ : SessionStep .issuing s₆ (.serve false) s₇ := .serve (p := c) rfl rfl .zero none
  let other := (handle .issuing .zero s₆.world (c.call.request none c.header)).1
  let s₈ := s₇.resumed false c.call (.ok other)
  have h₈ : SessionStep .issuing s₇ (.resume false) s₈ :=
    .resume (p := { c with reply := some (.ok other) }) rfl rfl
  let s₉ := s₈.resumed true list.call (.ok late)
  have h₉ : SessionStep .issuing s₈ (.resume true) s₉ :=
    .resume (p := { list with reply := some (.ok late) }) rfl rfl
  have run := Run.cons h₁ (.cons h₂ (.cons h₃ (.cons h₄ (.cons h₅ (.cons h₆ (.cons h₇
    (.cons h₈ (.one h₉))))))))
  obtain ⟨user, -, active, -⟩ := browserSession_run tokens_issuing run
  have shown : s₉.tab.activeProjectId = some 1 := by decide +kernel
  have storage : s₉.tab.storage ≠ none := Option.isSome_iff_ne_none.mp (by decide +kernel)
  exact ⟨_, _, run, user, by decide +kernel, shown, active 1 shown storage, by decide +kernel⟩

/-- The first user's project becomes active when the list of the sign-in comes. -/
theorem ownProjects_run_first : ∃ as, ∃ s : BrowserSession Bool,
    Run.All (SessionStep .issuing) (fun s a _ => s.Calm a) (.start sharedProxy (some ())) as s ∧
      s.tab.activeProjectId = some 1 ∧
      ∃ user, s.tab.user = some user ∧ Owns s.world.db user.id 1 := by
  let s₀ : BrowserSession Bool := .start sharedProxy (some ())
  let a := s₀.tab.send (.login "a@b.co" "12345678")
  let s₁ := s₀.called true a
  let s₂ := s₁.served true a
  have h₁ : SessionStep .issuing s₀ (.call true) s₁ := .call rfl trivial
  have h₂ : SessionStep .issuing s₁ (.serve true) s₂ := .serve (p := a) rfl rfl .zero none
  let reply := (handle .issuing .zero s₁.world (a.call.request none a.header)).1
  let s₃ := s₂.resumed true a.call (.ok reply)
  have h₃ : SessionStep .issuing s₂ (.resume true) s₃ :=
    .resume (p := { a with reply := some (.ok reply) }) rfl rfl
  have calm₃ : s₂.Calm (.resume true) := fun _ => ⟨rfl, fun j hj => by
    cases j
    · rfl
    · exact absurd rfl hj⟩
  let list := s₃.tab.send (.refreshProjects none false)
  let s₄ := s₃.served true list
  have h₄ : SessionStep .issuing s₃ (.serve true) s₄ := .serve (p := list) rfl rfl .zero none
  let projects := (handle .issuing .zero s₃.world (list.call.request none list.header)).1
  let s₅ := s₄.resumed true list.call (.ok projects)
  have h₅ : SessionStep .issuing s₄ (.resume true) s₅ :=
    .resume (p := { list with reply := some (.ok projects) }) rfl rfl
  have calm₅ : s₄.Calm (.resume true) := by
    rintro ⟨p, _, _, hp, ha, -⟩
    have hl : s₄.pending true = some { list with reply := some (.ok projects) } := rfl
    rw [hl] at hp
    cases hp
    cases ha
  have run : Run.All (SessionStep .issuing) (fun s a _ => s.Calm a) s₀ _ s₅ :=
    .cons h₁ trivial (.cons h₂ trivial (.cons h₃ calm₃ (.cons h₄ trivial
      (.cons h₅ calm₅ (.nil _)))))
  have shown : s₅.tab.activeProjectId = some 1 := by decide +kernel
  exact ⟨_, _, run, shown, (ownProjects_run tokens_issuing run (.inl shown)).1⟩

end Web

end SentinelAI
