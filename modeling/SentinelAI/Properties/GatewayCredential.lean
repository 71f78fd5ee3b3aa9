import SentinelAI.Gateway.Main

/-!
# Properties — GatewayCredential

The middleware of the gateway.  `compare_digest` is partial on strings: a token with a character
beyond ASCII, which a header may hold, makes it raise, and the request is answered as one that the
gateway failed on.

* `requireGatewayKey_eq`: what the middleware does, by the scheme and the token.
* `credentialChecked_iff`: the check is exact and total exactly on other schemes, and where both the
  token and the key are ASCII.
* `not_credentialChecked_accent`: a token of one accented letter.
-/

namespace SentinelAI
open Support

/-- The header carries `key` under the scheme `bearer`, in any case. -/
def Credential (U : Ucd) (key header : Str) : Prop :=
  ∃ scheme token, ' ' ∉ scheme ∧ U.lower scheme = "bearer".toList ∧ token = key ∧
    (header = scheme ++ ' ' :: token ∨ header = scheme ∧ token = [])

/-- **The check of the credential is exact and total.** -/
structure CredentialChecked (U : Ucd) (key : Str) (r : GatewayHttpRequest) : Prop where
  forwards : requireGatewayKey U key r = .forwarded ↔ Credential U key (r.authorization.getD "")
  refuses : ¬ Credential U key (r.authorization.getD "") →
    requireGatewayKey U key r = .answered gatewayUnauthorized

/-- The text is ASCII. -/
def Ascii (s : Str) : Prop := ∀ c ∈ s, isAscii c = true

/-- `compare_digest` compares ASCII strings, and raises on others. -/
theorem compareDigest_cases (a b : Str) :
    Ascii a ∧ Ascii b ∧ compareDigest a b = some (a == b) ∨
      ¬ (Ascii a ∧ Ascii b) ∧ compareDigest a b = none := by
  unfold compareDigest Ascii
  rw [← List.all_eq_true, ← List.all_eq_true]
  cases ha : a.all isAscii with
  | false => exact .inr ⟨fun h => Bool.false_ne_true h.1, rfl⟩
  | true =>
      cases hb : b.all isAscii with
      | false => exact .inr ⟨fun h => Bool.false_ne_true h.2, rfl⟩
      | true => exact .inl ⟨rfl, rfl, rfl⟩

section Check

variable {U : Ucd} {key : Str} {r : GatewayHttpRequest}

/-- A header carries the key exactly when its first word and the rest do. -/
theorem credential_iff {header : Str} : Credential U key header ↔
    U.lower (firstWord header) = "bearer".toList ∧ afterFirstSpace header = key := by
  constructor
  · rintro ⟨scheme, token, hs, hb, rfl, rfl | ⟨rfl, rfl⟩⟩
    · obtain ⟨h₁, h₂⟩ := firstWord_append (b := token) hs
      rw [h₁]
      exact ⟨hb, h₂⟩
    · obtain ⟨-, h | ⟨h, hn⟩⟩ := firstWord_afterFirstSpace header
      · refine absurd ?_ hs
        rw [h]
        exact List.mem_append_right _ List.mem_cons_self
      · rw [← h]
        exact ⟨hb, hn⟩
  · rintro ⟨hb, hk⟩
    obtain ⟨hs, h⟩ := firstWord_afterFirstSpace header
    exact ⟨_, _, hs, hb, hk, h⟩

variable (U key) in
/-- What the middleware does with a request that it asks for the key. -/
theorem requireGatewayKey_eq (hm : r.method ≠ "OPTIONS".toList)
    (hp : r.path ∉ GATEWAY_PUBLIC_PATHS) :
    requireGatewayKey U key r =
      if U.lower (firstWord (r.authorization.getD "")) ≠ "bearer".toList then
        .answered gatewayUnauthorized
      else match compareDigest (afterFirstSpace (r.authorization.getD "")) key with
      | none => .raised
      | some false => .answered gatewayUnauthorized
      | some true => .forwarded :=
  if_neg (not_or.mpr ⟨hm, hp⟩)

/-- **The credential of the gateway.**  Outside the public paths and `OPTIONS`, the check is exact
and total exactly when the scheme is another, or both the token and the key are ASCII. -/
theorem credentialChecked_iff (hm : r.method ≠ "OPTIONS".toList)
    (hp : r.path ∉ GATEWAY_PUBLIC_PATHS) :
    CredentialChecked U key r ↔
      (U.lower (firstWord (r.authorization.getD "")) = "bearer".toList →
        Ascii (afterFirstSpace (r.authorization.getD "")) ∧ Ascii key) := by
  have served := requireGatewayKey_eq U key hm hp
  by_cases hb : U.lower (firstWord (r.authorization.getD "")) = "bearer".toList
  · rw [if_neg (not_not.mpr hb)] at served
    rcases compareDigest_cases (afterFirstSpace (r.authorization.getD "")) key with
      ⟨ha, hk, hc⟩ | ⟨hn, hc⟩
    · refine iff_of_true ?_ fun _ => ⟨ha, hk⟩
      rw [hc] at served
      by_cases he : afterFirstSpace (r.authorization.getD "") = key
      · -- the token is the key
        have carries : Credential U key (r.authorization.getD "") := credential_iff.mpr ⟨hb, he⟩
        rw [beq_iff_eq.mpr he] at served
        exact ⟨iff_of_true served carries, fun h => absurd carries h⟩
      · have refused : ¬ Credential U key (r.authorization.getD "") :=
          fun h => he (credential_iff.mp h).2
        rw [beq_eq_false_iff_ne.mpr he] at served
        refine ⟨iff_of_false (fun h => ?_) refused, fun _ => served⟩
        rw [served] at h
        cases h
    · rw [hc] at served
      refine iff_of_false (fun h => ?_) fun h => hn (h hb)
      -- it neither forwards nor refuses
      by_cases carries : Credential U key (r.authorization.getD "")
      · cases served.symm.trans (h.forwards.mpr carries)
      · cases served.symm.trans (h.refuses carries)
  · rw [if_pos hb] at served
    have refused : ¬ Credential U key (r.authorization.getD "") :=
      fun h => hb (credential_iff.mp h).1
    refine iff_of_true ⟨iff_of_false (fun h => ?_) refused, fun _ => served⟩ fun h => absurd h hb
    rw [served] at h
    cases h

end Check

/-- A request for an answer of the gateway. -/
def chatWith (authorization : Str) : GatewayHttpRequest :=
  ⟨"POST", "/v1/gateway/chat", some authorization⟩

/-- With the key, the request goes through. -/
theorem credentialChecked_iff_key : CredentialChecked .ascii "k1" (chatWith "BEARER k1") :=
  (credentialChecked_iff (by decide) (by decide)).mpr fun _ =>
    ⟨List.all_eq_true.mp rfl, List.all_eq_true.mp rfl⟩

/-- **One accented letter** for a token: the middleware raises, and the request is answered with an
internal error. -/
theorem not_credentialChecked_accent :
    let r := chatWith "Bearer é"
    effectiveGatewayKey ⟨"production", "k1"⟩ [] = some "k1" ∧
      requireGatewayKey .ascii "k1" r = .raised ∧
      (∀ callNext, (gatewayResponse callNext (requireGatewayKey .ascii "k1" r)).statusCode = 500) ∧
      ¬ CredentialChecked .ascii "k1" r := by
  intro r
  have raised : requireGatewayKey .ascii "k1" r = .raised := rfl
  have other : ¬ Credential .ascii "k1" "Bearer é" := by
    rw [credential_iff]
    decide
  refine ⟨rfl, raised, fun _ => by rw [raised]; rfl, fun h => ?_⟩
  cases raised.symm.trans (h.refuses other)

end SentinelAI
