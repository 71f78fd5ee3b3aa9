import SentinelAI.Support.Json

/-!
# Proxy — Http

What a request ends in: a response, or an exception on its way to a handler of the application: that
of `HTTPException`, of a failed validation, or of every other exception.
-/

namespace SentinelAI
open Support

/-- An exception raised while a request is served. -/
inductive Raised where
  /-- `HTTPException(status_code, {"code": code, "message": message})` -/
  | http (statusCode : Nat) (code message : Str)
  /-- The validation of the parameters, with the place and the text of each error. -/
  | validation (errors : List (List Str × Str))
  /-- Any exception that nothing on the way catches. -/
  | unhandled
deriving DecidableEq

inductive Content where
  | json (body : Json)
  | text (mediaType body : Str)

structure Response where
  statusCode : Nat
  content : Content

/-- What a route's function makes of a request. -/
abbrev Answer := Except Raised Response

def Response.ok (body : Json) : Response := ⟨200, .json body⟩

def errorBody (code message : Str) : Json := .obj [("code", .str code), ("message", .str message)]

def Raised.response : Raised → Response
  | .http statusCode code message => ⟨statusCode, .json (.obj [("detail", errorBody code message)])⟩
  | .validation errors =>
      ⟨422, .json (.obj [("detail", .arr (errors.map fun e =>
        .obj [("loc", .strs e.1), ("msg", .str e.2)]))])⟩
  | .unhandled =>
      ⟨500, .json (.obj [("output", .null), ("guardrails", .null), ("usage", .null),
        ("error", errorBody "internal_error" "An internal error occurred.")])⟩

def Answer.response : Answer → Response
  | .ok r => r
  | .error e => e.response

end SentinelAI
