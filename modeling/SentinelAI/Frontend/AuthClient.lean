import SentinelAI.Frontend.Playground

/-!
# Frontend — AuthClient

Who is signed in, as a tab of the browser knows it: `web/lib/auth.ts`, which keeps the token, the
user and the active project in `localStorage`, and `web/lib/auth-context.tsx`, whose `AuthProvider`
holds the state that the pages show.  Every call of the provider waits for the proxy, and goes on
with the answer in whatever state the tab is by then.
-/

namespace SentinelAI
open Support

namespace Web

structure AuthUser where
  id : Int
  email : Str

/-- What the app keeps in `localStorage`. -/
structure LocalStorage where
  token : Option Str := none
  user : Option AuthUser := none
  activeProjectId : Option Int := none

/-- The storage, and the state of `AuthProvider`. -/
structure Tab where
  /-- `safeLocalStorage`; none where the browser refuses it. -/
  storage : Option LocalStorage
  user : Option AuthUser := none
  loading : Bool := true
  projects : List Json := []
  activeProjectId : Option Int := none

/-! ### `web/lib/auth.ts` -/

section Storage

variable (t : Tab)

def getToken : Option Str := t.storage.bind (·.token)

def getStoredUser : Option AuthUser := t.storage.bind (·.user)

def getActiveProjectId : Option Int := t.storage.bind (·.activeProjectId)

/-- `setActiveProjectId`, which the provider imports as `persistActiveProjectId`. -/
def persistActiveProjectId (id : Option Int) : Tab :=
  { t with storage := t.storage.map fun s => { s with activeProjectId := id } }

def storeAuth (token : Str) (user : AuthUser) : Tab :=
  { t with storage := t.storage.map fun s => { s with token := some token, user := some user } }

def clearAuth : Tab := { t with storage := t.storage.map fun _ => {} }

/-- What the requests of the tab read of it. -/
def Tab.page (sessionId : Str) : Page := ⟨getToken t, getActiveProjectId t, sessionId⟩

def Tab.authHeaders : Str := authHeader (t.page [])

end Storage

/-- `resp.ok` -/
def respOk (statusCode : Nat) : Bool := 200 ≤ statusCode && statusCode < 300

/-- What `fetch` comes to: an answer, or the message of what it raises. -/
abbrev Reply := Except Str Response

def strOf : Json → Option Str
  | .str s => some s
  | _ => none

def intOf : Json → Option Int
  | .int n => some n
  | _ => none

/-- The token and the user of an `AuthResponse`. -/
def ofAuthResponse (body : Json) : Option (Str × AuthUser) := do
  let token ← strOf (body.get "access_token")
  let id ← intOf (body.get "user_id")
  let email ← strOf (body.get "email")
  return (token, ⟨id, email⟩)

/-- `AuthResult` with status `error`. -/
structure AuthError where
  code : Json
  message : Json

def networkError (message : Str) : AuthError := ⟨.str "network_error", .str message⟩

/-- What `authRequest` makes of the reply: the token and the user that it stores, or an error. -/
def authResult : Reply → Except AuthError (Str × AuthUser)
  | .error message => .error (networkError message)
  | .ok ⟨statusCode, .json body⟩ =>
      if respOk statusCode then
        match ofAuthResponse body with
        | some auth => .ok auth
        | none => .error (networkError "")
      else
        .error ⟨orElse ((body.get "detail").get "code") (.str "unknown"),
          orElse ((body.get "detail").get "message") (.str "Request failed.")⟩
  | .ok ⟨_, .text _ _⟩ => .error (networkError "Unexpected token")

def listProjectsResult : Reply → List Json
  | .ok ⟨statusCode, .json body⟩ => if respOk statusCode then body.elems else []
  | _ => []

def createProjectResult : Reply → Except Json Json
  | .error message => .error (.str message)
  | .ok ⟨statusCode, .json body⟩ =>
      if respOk statusCode then .ok body
      else
        .error (orElse ((body.get "detail").get "message")
          (.str ("Failed (".toList ++ strInt statusCode ++ ")".toList)))
  | .ok ⟨statusCode, .text _ _⟩ =>
      .error (.str (if respOk statusCode then "Unexpected token".toList
        else "Failed (".toList ++ strInt statusCode ++ ")".toList))

/-! ### `web/lib/auth-context.tsx` -/

/-- `p.id` -/
def idOf (p : Json) : Option Int := intOf (p.get "id")

/-- A call of the provider that waits for a reply. -/
inductive Call where
  | signup (email password : Str)
  | login (email password : Str)
  | createProject (name targetType : Str) (repoUrl description : Option Str)
  /-- With the project that was created before it, and whether the effect of the first render has
  called it. -/
  | refreshProjects (created : Option Json) (mounting : Bool)

/-- The request of a call, with the address that the proxy sees it come from. -/
def Call.request (client : Option Str) (header : Str) : Call → Request
  | .signup email password => ⟨[], client, .unguarded (.signup ⟨email, password⟩)⟩
  | .login email password => ⟨[], client, .unguarded (.login ⟨email, password⟩)⟩
  | .createProject name targetType repoUrl description =>
      ⟨header, client, .ofUser (.create_project
        ⟨name, targetType, repoUrl.filter (· ≠ []), description.filter (· ≠ [])⟩)⟩
  | .refreshProjects _ _ => ⟨header, client, .ofUser .list_projects⟩

section Provider

variable (t : Tab)

def setActiveProject (id : Option Int) : Tab :=
  { persistActiveProjectId t id with activeProjectId := id }

/-- `refreshProjects`, once it has the list. -/
def refreshed (list : List Json) : Tab :=
  let t := { t with projects := list }
  match (getActiveProjectId t).filter fun stored => list.any (idOf · == some stored) with
  | some stored => { t with activeProjectId := some stored }
  | none =>
      match list with
      | p :: _ => setActiveProject t (idOf p)
      | [] => { t with activeProjectId := none }

/-- The rest of `createProject`, after the refresh, if that is what has called it. -/
def activated (created : Option Json) : Tab :=
  match created with
  | some project => setActiveProject t (idOf project)
  | none => t

/-- `login` and `signup`, once answered, up to the refresh. -/
def signedIn (token : Str) (user : AuthUser) : Tab :=
  let t := storeAuth t token user
  { t with user := getStoredUser t }

def logout : Tab :=
  { clearAuth t with user := none, projects := [], activeProjectId := none }

/-- The effect of the first render. -/
def mount : Tab × Option Call :=
  match getStoredUser t, (getToken t).filter (· ≠ []) with
  | some user, some _ => ({ t with user := some user }, some (.refreshProjects none true))
  | _, _ => ({ t with loading := false }, none)

/-- The page is loaded: only the storage is as it was. -/
def load (storage : Option LocalStorage) : Tab × Option Call := mount { storage }

/-- What the tab does with a reply, and the call that it waits for next. -/
def resume (reply : Reply) : Call → Tab × Option Call
  | .signup _ _ | .login _ _ =>
      match authResult reply with
      | .ok (token, user) => (signedIn t token user, some (.refreshProjects none false))
      | .error _ => (t, none)
  | .createProject _ _ _ _ =>
      match createProjectResult reply with
      | .ok project => (t, some (.refreshProjects (some project) false))
      | .error _ => (t, none)
  | .refreshProjects created mounting =>
      let t := activated (refreshed t (listProjectsResult reply)) created
      ({ t with loading := t.loading && !mounting }, none)

end Provider

end Web

end SentinelAI
