import SentinelAI.Proxy.Http

/-!
# Gateway — Main

`gateway/main.py`: the key of the gateway, the middleware that asks every request for it, and the
handler of the exceptions that nothing on the way catches.

* `firstWord_afterFirstSpace`, `firstWord_append`: a header is divided at its first space.
-/

namespace SentinelAI
open Support

/-! ### The key -/

/-- The settings that `gateway/main.py` reads on import. -/
structure GatewaySettings where
  env : Str := "development"
  gatewayApiKey : Str := []

/-- `_EFFECTIVE_GATEWAY_KEY`: the key that is set, or one that is drawn.  In production, without one
that is set, the import raises. -/
def effectiveGatewayKey (settings : GatewaySettings) (tokenHex : Str) : Option Str :=
  if settings.env = "production".toList ∧ settings.gatewayApiKey = [] then none
  else some (if settings.gatewayApiKey = [] then tokenHex else settings.gatewayApiKey)

/-- `_GATEWAY_PUBLIC_PATHS` -/
def GATEWAY_PUBLIC_PATHS : List Str := ["/health"]

/-- `hmac.compare_digest` on strings, or nothing where it raises `TypeError`: on characters beyond
ASCII. -/
def compareDigest (a b : Str) : Option Bool :=
  if a.all isAscii && b.all isAscii then some (a == b) else none

/-! ### The middleware -/

/-- A request, as the middleware sees it. -/
structure GatewayHttpRequest where
  method : Str
  path : Str
  /-- The `Authorization` header. -/
  authorization : Option Str

/-- What the middleware does with a request. -/
inductive Passage where
  /-- `return await call_next(request)` -/
  | forwarded
  | answered (response : Response)
  /-- An exception leaves the middleware. -/
  | raised

def gatewayError (statusCode : Nat) (reason : Str) : Response :=
  ⟨statusCode, .json (.obj [("decision", .str "ERROR"), ("reason", .str reason)])⟩

/-- The answer to a request without the key. -/
def gatewayUnauthorized : Response := gatewayError 401 "Missing or invalid gateway credential."

/-- The third part of `s.partition(" ")`. -/
def afterFirstSpace (s : Str) : Str := (s.dropWhile (· ≠ ' ')).drop 1

/-- `require_gateway_key` -/
def requireGatewayKey (U : Ucd) (key : Str) (r : GatewayHttpRequest) : Passage :=
  if r.method = "OPTIONS".toList ∨ r.path ∈ GATEWAY_PUBLIC_PATHS then .forwarded
  else
    let authHeader := r.authorization.getD ""
    let scheme := firstWord authHeader
    let token := afterFirstSpace authHeader
    if U.lower scheme ≠ "bearer".toList then .answered gatewayUnauthorized
    else match compareDigest token key with
    | none => .raised
    | some false => .answered gatewayUnauthorized
    | some true => .forwarded

/-- `unhandled_exception_handler` -/
def gatewayUnhandled : Response := gatewayError 500 "An internal error occurred."

/-- What the client is answered, where the application behind the middleware comes to `callNext`: a
response, or an exception that nothing catches. -/
def gatewayResponse (callNext : Option Response) : Passage → Response
  | .forwarded => callNext.getD gatewayUnhandled
  | .answered response => response
  | .raised => gatewayUnhandled

/-! ### The first space -/

/-- A header is its scheme, a space and its token, or has no space and is all scheme. -/
theorem firstWord_afterFirstSpace (s : Str) :
    ' ' ∉ firstWord s ∧
      (s = firstWord s ++ ' ' :: afterFirstSpace s ∨ s = firstWord s ∧ afterFirstSpace s = []) := by
  have split : s = firstWord s ++ s.dropWhile (· ≠ ' ') :=
    (List.takeWhile_append_dropWhile (p := fun c => decide (c ≠ ' '))).symm
  refine ⟨fun h => ?_, ?_⟩
  · have other := List.mem_takeWhile_imp h
    revert other
    decide
  · unfold afterFirstSpace
    cases hd : s.dropWhile (· ≠ ' ') with
    | nil =>
        rw [hd, List.append_nil] at split
        exact .inr ⟨split, rfl⟩
    | cons c rest =>
        have space := List.head?_dropWhile_not (fun c => decide (c ≠ ' ')) s
        rw [hd] at split space
        have hc : c = ' ' := by simpa using space
        rw [hc] at split
        exact .inl split

/-- The first space is where the text is divided. -/
theorem firstWord_append {a b : Str} (h : ' ' ∉ a) : firstWord (a ++ ' ' :: b) = a ∧
    afterFirstSpace (a ++ ' ' :: b) = b := by
  have other : ∀ c ∈ a, decide (c ≠ ' ') = true := fun c hc =>
    decide_eq_true fun he => h (he ▸ hc)
  unfold firstWord afterFirstSpace
  rw [List.takeWhile_append_of_pos other, List.dropWhile_append_of_pos other]
  simp

end SentinelAI
