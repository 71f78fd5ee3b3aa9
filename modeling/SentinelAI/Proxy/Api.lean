import SentinelAI.Proxy.Routes
import SentinelAI.Support.Runs

/-!
# Proxy — Api

The application of `proxy/main.py`: the middleware, the routes with their dependencies, and the
process that serves one request after another.

A request is taken as the router reads it, with its parameters validated.  One that matches no
route, or whose parameters do not validate, is answered without entering a function.

* `leaves_handle`: what a request leaves, by how far it came.
* `step_cases`: a step of the process is a request, or changes the events and no other table.
-/

namespace SentinelAI
open Support

/-- A route and its parameters, by the dependency that stands before it. -/
inductive Endpoint where
  | unguarded (route : OpenRoute)
  | ofUser (route : UserRoute)
  | ofProject (projectId : Int) (route : ProjectRoute)
  | ofKey (projectId : Int) (route : KeyRoute)

inductive Method where
  | GET
  | POST
  | PATCH
  | DELETE
  | OPTIONS
deriving DecidableEq, Repr

def OpenRoute.method : OpenRoute → Method
  | .health | .quota | .list_agents | .get_events_config => .GET
  | .signup _ | .login _ | .run_security_tests _ | .approve_agent_action _ _
  | .reject_agent_action _ _ | .apply_event_retention => .POST

def OpenRoute.path : OpenRoute → Str
  | .health => "/health"
  | .signup _ => "/v1/auth/signup"
  | .login _ => "/v1/auth/login"
  | .quota => "/quota"
  | .run_security_tests _ => "/v1/security-tests/run"
  | .list_agents => "/v1/agents"
  | .approve_agent_action logId _ =>
      "/v1/agent-actions/".toList ++ strInt logId ++ "/approve".toList
  | .reject_agent_action logId _ =>
      "/v1/agent-actions/".toList ++ strInt logId ++ "/reject".toList
  | .get_events_config => "/v1/events/config"
  | .apply_event_retention => "/v1/events/retention/apply"

def UserRoute.method : UserRoute → Method
  | .get_me | .list_projects | .list_agent_actions _ _ _ | .get_finding _ => .GET
  | .create_project _ | .evaluate_agent_action _ _ _ | .generate _ => .POST
  | .update_finding_status _ _ => .PATCH

def UserRoute.path : UserRoute → Str
  | .get_me => "/v1/auth/me"
  | .create_project _ | .list_projects => "/v1/projects"
  | .evaluate_agent_action agentId _ _ => "/v1/agents/".toList ++ agentId ++ "/evaluate".toList
  | .list_agent_actions _ _ _ => "/v1/agent-actions"
  | .get_finding findingId | .update_finding_status findingId _ =>
      "/v1/findings/".toList ++ strInt findingId
  | .generate _ => "/v1/generate"

def ProjectRoute.method : ProjectRoute → Method
  | .update_project _ => .PATCH
  | .create_project_api_key _ | .create_security_baseline _ _ => .POST
  | .revoke_project_api_key _ => .DELETE
  | _ => .GET

def ProjectRoute.path (projectId : Int) : ProjectRoute → Str
  | .get_project | .update_project _ => "/v1/projects/".toList ++ strInt projectId
  | .create_project_api_key _ | .list_project_api_keys =>
      "/v1/projects/".toList ++ strInt projectId ++ "/api-keys".toList
  | .revoke_project_api_key keyId =>
      "/v1/projects/".toList ++ strInt projectId ++ "/api-keys/".toList ++ strInt keyId
  | .create_security_baseline _ _ | .list_baselines => "/v1/baselines"
  | .list_events _ => "/v1/events"
  | .get_executive_report _ _ _ => "/v1/reports/executive"
  | .get_technical_report _ _ _ => "/v1/reports/technical"
  | .security_dashboard => "/v1/security-dashboard"
  | .list_findings _ => "/v1/findings"
  | .list_calls _ => "/v1/calls"

def KeyRoute.method : KeyRoute → Method
  | .sync_security_findings _ _ => .POST
  | .regression_report _ _ => .GET

def KeyRoute.path : KeyRoute → Str
  | .sync_security_findings _ _ => "/v1/findings/sync"
  | .regression_report _ _ => "/v1/regression-report"

def Endpoint.method : Endpoint → Method
  | .unguarded route => route.method
  | .ofUser route => route.method
  | .ofProject _ route => route.method
  | .ofKey _ route => route.method

def Endpoint.path : Endpoint → Str
  | .unguarded route => route.path
  | .ofUser route => route.path
  | .ofProject projectId route => route.path projectId
  | .ofKey _ route => route.path

/-- `_PUBLIC_PATHS` -/
def PUBLIC_PATHS : List Str :=
  ["/health", "/docs", "/redoc", "/openapi.json", "/v1/auth/signup", "/v1/auth/login"]

structure Request where
  /-- The header, empty where it is absent. -/
  authorization : Str
  /-- The address of the client, where it is known. -/
  client : Option Str := none
  endpoint : Endpoint

variable (cfg : Config) (tick : Tick)

/-- The scheme that the middleware reads. -/
def scheme (header : Str) : Str := cfg.U.lower (firstWord header)

/-- `require_auth` -/
def requireAuth (method : Method) (path header : Str) : Except Raised Unit :=
  if method = .OPTIONS ∨ path ∈ PUBLIC_PATHS then .ok ()
  else if scheme cfg header = "bearer".toList then
    (decodeToken cfg tick.now (header.drop 7)).map fun _ => ()
  else if scheme cfg header ≠ "apikey".toList then
    .error (.http 401 "not_authenticated" "Missing bearer token or API key.")
  else .ok ()

/-- The middleware, for the route of the request. -/
def Request.gate (r : Request) : Except Raised Unit :=
  requireAuth cfg tick r.endpoint.method r.endpoint.path r.authorization

/-- The dependency of the route lets the request through. -/
def Request.admitted (r : Request) (db : Db) : Bool :=
  match r.endpoint with
  | .unguarded _ => true
  | .ofUser _ => (getCurrentUser cfg tick.now db r.authorization).isOk
  | .ofProject projectId _ => (requireProject cfg tick db r.authorization projectId).isOk
  | .ofKey projectId _ => (requireProjectOrApiKey cfg tick db r.authorization projectId).1.isOk

/-- The function of the route is entered. -/
def Request.entered (r : Request) (db : Db) : Bool :=
  (r.gate cfg tick).isOk && r.admitted cfg tick db

/-- The dependency of the route, and then its function. -/
def Request.dispatch (r : Request) (w : World) : Answer × World :=
  match r.endpoint with
  | .unguarded route => openBody cfg tick w r.client route
  | .ofUser route =>
      match getCurrentUser cfg tick.now w.db r.authorization with
      | .error e => (.error e, w)
      | .ok user => userBody cfg tick user w route
  | .ofProject projectId route =>
      match requireProject cfg tick w.db r.authorization projectId with
      | .error e => (.error e, w)
      | .ok project =>
          let a := projectBody cfg tick project w.db route
          (a.1, { w with db := a.2 })
  | .ofKey projectId route =>
      match requireProjectOrApiKey cfg tick w.db r.authorization projectId with
      | (.error e, db) => (.error e, { w with db })
      | (.ok project, db) =>
          let a := keyBody cfg tick project db route
          (a.1, { w with db := a.2 })

/-- A request is served. -/
def handle (w : World) (r : Request) : Response × World :=
  match r.gate cfg tick with
  | .error e => (e.response, w)
  | .ok () =>
      let a := r.dispatch cfg tick w
      (a.1.response, a.2)

/-- The process is started again: the counters are empty, and old events are purged. -/
def restart (w : World) : Option World :=
  (purgeExpired w.db.securityEvents cfg.settings.eventsRetentionDays tick.now).map fun r =>
    { db := { w.db with securityEvents := r.2 }, counts := fun _ => 0, windows := fun _ => none }

/-- What happens to the process. -/
inductive Happening where
  | request (r : Request)
  | restart
  /-- An event is recorded for no project, by another process on the same database. -/
  | gatewayEvent (e : EventFields)

/-- One step of the process. -/
def Step (w : World) (h : Tick × Happening) (w' : World) : Prop :=
  match h.2 with
  | .request r => w' = (handle cfg h.1 w r).2
  | .restart => restart cfg h.1 w = some w'
  | .gatewayEvent e => w' = { w with db := w.db.recordEvent cfg h.1 0 { e with projectId := none } }

/-- The requests are served one after the other. -/
def serveAll (w : World) : List Request → World
  | [] => w
  | r :: rs => serveAll (handle cfg tick w r).2 rs

variable {cfg tick}

theorem run_serveAll : ∀ (rs : List Request) (w : World),
    Run (Step cfg) w (rs.map fun r => (tick, .request r)) (serveAll cfg tick w rs)
  | [], _ => .nil _
  | _ :: rs, _ => .cons rfl (run_serveAll rs _)

/-! ### What a request leaves -/

theorem handle_of_gate {w : World} {r : Request} (h : r.gate cfg tick = .ok ()) :
    handle cfg tick w r =
      ((r.dispatch cfg tick w).1.response, (r.dispatch cfg tick w).2) := by
  rw [handle, h]

/-- The state after a request, by how far the request came. -/
inductive Request.Leaves (cfg : Config) (tick : Tick) (w : World) (r : Request) : World → Prop where
  | refused : Leaves cfg tick w r w
  /-- Turned away with an API key, which may have been stamped before. -/
  | stamped {p : Int} {route : KeyRoute} {keys : Table ProjectAPIKey}
      (he : r.endpoint = .ofKey p route)
      (hk : (requireProjectOrApiKey cfg tick w.db r.authorization p).2 =
        { w.db with apiKeys := keys }) :
      Leaves cfg tick w r { w with db := { w.db with apiKeys := keys } }
  | unguarded {route : OpenRoute} (he : r.endpoint = .unguarded route) :
      Leaves cfg tick w r (openBody cfg tick w r.client route).2
  | ofUser {route : UserRoute} {user : User} (hg : r.gate cfg tick = .ok ())
      (he : r.endpoint = .ofUser route)
      (hu : getCurrentUser cfg tick.now w.db r.authorization = .ok user) :
      Leaves cfg tick w r (userBody cfg tick user w route).2
  | ofProject {p : Int} {route : ProjectRoute} {project : Project}
      (he : r.endpoint = .ofProject p route)
      (hp : requireProject cfg tick w.db r.authorization p = .ok project) :
      Leaves cfg tick w r { w with db := (projectBody cfg tick project w.db route).2 }
  | ofKey {p : Int} {route : KeyRoute} {project : Project} {keys : Table ProjectAPIKey}
      (he : r.endpoint = .ofKey p route)
      (hp : requireProjectOrApiKey cfg tick w.db r.authorization p =
        (.ok project, { w.db with apiKeys := keys })) :
      Leaves cfg tick w r
        { w with db := (keyBody cfg tick project { w.db with apiKeys := keys } route).2 }

/-- **What a request leaves.** -/
theorem leaves_handle (cfg : Config) (tick : Tick) (w : World) (r : Request) :
    r.Leaves cfg tick w (handle cfg tick w r).2 := by
  cases hg : r.gate cfg tick with
  | error e =>
      rw [handle, hg]
      exact .refused
  | ok u =>
      rw [handle_of_gate hg, Request.dispatch]
      cases he : r.endpoint with
      | unguarded route => exact .unguarded he
      | ofUser route =>
          dsimp only
          cases hu : getCurrentUser cfg tick.now w.db r.authorization with
          | error e => exact .refused
          | ok user => exact .ofUser hg he hu
      | ofProject p route =>
          dsimp only
          cases hp : requireProject cfg tick w.db r.authorization p with
          | error e => exact .refused
          | ok project => exact .ofProject he hp
      | ofKey p route =>
          dsimp only
          obtain ⟨keys, hk⟩ := requireProjectOrApiKey_frame cfg tick w.db r.authorization p
          rcases hp : requireProjectOrApiKey cfg tick w.db r.authorization p with
            ⟨e | project, db⟩
          · rw [show db = _ from (congrArg Prod.snd hp).symm.trans hk]
            exact .stamped he hk
          · obtain rfl : db = _ := (congrArg Prod.snd hp).symm.trans hk
            exact .ofKey he hp

/-- Whatever else happens to the process changes no table but that of the events. -/
theorem step_cases {w w' : World} {h : Tick × Happening} (hs : Step cfg w h w') :
    (∃ r, h.2 = .request r ∧ w' = (handle cfg h.1 w r).2) ∨
      (∀ r, h.2 ≠ .request r) ∧ ∃ events, w'.db = { w.db with securityEvents := events } := by
  obtain ⟨tick, happening⟩ := h
  cases happening with
  | request r => exact .inl ⟨r, rfl, hs⟩
  | restart =>
      obtain ⟨_, -, rfl⟩ := Option.map_eq_some_iff.mp (show restart cfg tick w = some w' from hs)
      exact .inr ⟨fun _ h => (nomatch h), _, rfl⟩
  | gatewayEvent e =>
      rw [show w' = _ from hs]
      exact .inr ⟨fun _ h => (nomatch h), _, rfl⟩

/-! ### Requests that do not get through -/

/-- A function that is not entered leaves the state, but for the stamp of an API key. -/
theorem handle_of_not_entered {w : World} {r : Request} (h : r.entered cfg tick w.db = false) :
    (handle cfg tick w r).2 = w ∨
      ∃ rawKey, (handle cfg tick w r).2 =
        { w with db := (verifyApiKey cfg tick w.db rawKey).2 } := by
  rw [Request.entered, Bool.and_eq_false_iff] at h
  unfold handle
  cases hg : r.gate cfg tick with
  | error e => exact .inl rfl
  | ok u =>
      replace h : r.admitted cfg tick w.db = false := h.resolve_left (by rw [hg]; rintro ⟨⟩)
      dsimp only
      unfold Request.admitted at h
      unfold Request.dispatch
      cases he : r.endpoint with
      | unguarded route => rw [he] at h; cases h
      | ofUser route =>
          rw [he] at h
          dsimp only at h ⊢
          cases hu : getCurrentUser cfg tick.now w.db r.authorization with
          | error e => exact .inl rfl
          | ok user => rw [hu] at h; cases h
      | ofProject projectId route =>
          rw [he] at h
          dsimp only at h ⊢
          cases hp : requireProject cfg tick w.db r.authorization projectId with
          | error e => exact .inl rfl
          | ok project => rw [hp] at h; cases h
      | ofKey projectId route =>
          rw [he] at h
          dsimp only at h ⊢
          have hs := requireProjectOrApiKey_snd cfg tick w.db r.authorization
            projectId
          rcases hd : requireProjectOrApiKey cfg tick w.db r.authorization projectId with
            ⟨e | project, db⟩
          · rw [hd] at hs
            rcases hs with rfl | ⟨rawKey, rfl⟩
            · exact .inl rfl
            · exact .inr ⟨rawKey, rfl⟩
          · rw [hd] at h; cases h

end SentinelAI
