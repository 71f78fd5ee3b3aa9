import SentinelAI.Proxy.Api
import SentinelAI.Proxy.Ci

/-!
# Proxy — CiClient

The requests of `scripts/sentinel_ci.py`, where the application of `proxy/main.py` serves them.
-/

namespace SentinelAI.CI
open Support

/-- Where and when a request is served, unless it is lost. -/
abbrev Served := Except Str (Config × Tick × World)

/-- The first request of `_bootstrap_auth`, with what it draws. -/
def signupRequest (client : Option Str) (emailHex passwordHex : Str) : Request :=
  ⟨"", client, .unguarded (.signup
    ⟨"ci-".toList ++ emailHex ++ "@sentinelai.local".toList, passwordHex⟩)⟩

def projectRequest (authorization : Str) : Request :=
  ⟨authorization, none, .ofUser (.create_project { name := "CI" })⟩

def syncRequest (category : Option Str) (auth : Auth) : Request :=
  ⟨auth.authorization, none,
    .ofKey auth.projectId (.sync_security_findings (category.filter (· ≠ [])) "ci_cd")⟩

def reportRequest (auth : Auth) : Request :=
  ⟨auth.authorization, none, .ofKey auth.projectId (.regression_report none none)⟩

/-- `resp.raise_for_status()` -/
def raiseForStatus (resp : Response) : Except Str Unit :=
  if 400 ≤ resp.statusCode ∧ resp.statusCode < 600 then .error (strInt resp.statusCode) else .ok ()

/-- `resp.json()` -/
def jsonOf (resp : Response) : Except Str Json :=
  match resp.content with
  | .json body => .ok body
  | .text _ _ => .error "Expecting value"

def textOf : Json → Except Str Str
  | .str s => .ok s
  | _ => .error "KeyError"

def intOf : Json → Except Str Int
  | .int i => .ok i
  | _ => .error "KeyError"

/-- `signup.json()["access_token"]`, where the status is none of an error. -/
def tokenOf (resp : Response) : Except Str Str := do
  raiseForStatus resp
  let body ← jsonOf resp
  textOf (body.get "access_token")

/-- `project.json()["id"]`, likewise. -/
def projectIdOf (resp : Response) : Except Str Int := do
  raiseForStatus resp
  let body ← jsonOf resp
  intOf (body.get "id")

/-- What is read of a result, which are texts. -/
def resultOf (r : Json) : Except Str CIResult := do
  return {
    testId := ← textOf (r.get "test_id")
    category := ← textOf (r.get "category")
    severity := ← textOf (r.get "severity")
    status := ← textOf (r.get "status")
    detail := ← textOf (r.get "detail") }

/-- `resp.json()["results"]`, where the status is none of an error. -/
def resultsOf (resp : Response) : Except Str (List CIResult) := do
  raiseForStatus resp
  let body ← jsonOf resp
  (body.get "results").elems.mapM resultOf

def reportReply (resp : Response) : ReportReply where
  statusCode := resp.statusCode
  report := (jsonOf resp).map fun body => ⟨some (body.get "regressions").elems⟩
  message := (jsonOf resp).bind fun body => textOf ((body.get "detail").get "message")

/-- `_bootstrap_auth`, where its two requests are served there. -/
def CIEnv.bootstrapped (env : CIEnv) (client : Option Str) (emailHex passwordHex : Str)
    (signup project : Served) : CIEnv :=
  { env with
    bootstrapAuth := fun _ => do
      let (cfg, tick, w) ← signup
      let token ← tokenOf (handle cfg tick w (signupRequest client emailHex passwordHex)).1
      let authorization := "Bearer ".toList ++ token
      let (cfg, tick, w) ← project
      let projectId ← projectIdOf (handle cfg tick w (projectRequest authorization)).1
      return ⟨authorization, projectId⟩ }

/-- The surroundings in which the other two requests are served there. -/
def CIEnv.served (env : CIEnv) (sync report : Served) : CIEnv :=
  { env with
    fetchResults := fun _ category auth => do
      let (cfg, tick, w) ← sync
      resultsOf (handle cfg tick w (syncRequest category auth)).1
    getReport := fun _ auth => do
      let (cfg, tick, w) ← report
      return reportReply (handle cfg tick w (reportRequest auth)).1 }

end SentinelAI.CI
