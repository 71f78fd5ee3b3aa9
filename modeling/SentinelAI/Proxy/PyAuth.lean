import SentinelAI.Proxy.Routes
import SentinelAI.Support.PyStr

/-!
# Proxy — PyAuth

`signup` and `login` on Python's own strings.  The email is bound to a query and the password is
encoded to be hashed or checked; either raises `UnicodeEncodeError` on a lone surrogate.  That is a
`ValueError`, so `verify_password` catches it, and nothing else does.

* `signup_ofTexts`, `login_ofTexts`: on texts, they are those of the model of texts.
* `signup_of_not_utf8`, `db_login`: a sign-up that does not encode fails; no login stores anything.
-/

namespace SentinelAI.Py
open Support

/-- The body of a sign-up or a login. -/
structure Credentials where
  email : PyStr
  password : PyStr

variable (cfg : Config) (tick : Tick)

/-- What the validators of `SignupRequest` find. -/
def signupErrors (body : Credentials) : List (List Str × Str) :=
  SentinelAI.signupErrors ⟨body.email.replaced, body.password.replaced⟩

/-- The answer to a body that they refuse, which quotes the fields at fault. -/
def refusedBody (body : Credentials) : Raised :=
  if (emailMatches body.email.replaced = true ∨ body.email.Utf8) ∧
      (MIN_PASSWORD_LENGTH ≤ body.password.length ∨ body.password.Utf8) then
    .validation (signupErrors body)
  else .unhandled

/-- `hash_password`, or nothing where the encoding or the hashing raises. -/
def hashPassword (password : PyStr) : Option Str := password.encode?.bind (cfg.hashpw tick.salt)

/-- `verify_password` -/
def verifyPassword (password : PyStr) (passwordHash : Str) : Bool :=
  match password.encode? with
  | none => false
  | some text => SentinelAI.verifyPassword cfg text passwordHash

def signup (w : World) (client : Option Str) (body : Credentials) : Answer × World :=
  if signupErrors body ≠ [] then (.error (refusedBody body), w)
  else
    let (allowed, w) := authAttempt tick w client
    if !allowed then (.error tooManyAttempts, w)
    else match (body.email.lower cfg.U).encode? with
    | none => (.error .unhandled, w)
    | some email =>
        if w.db.users.rows.any (·.email == email) then
          (.error (.http 409 "email_taken" "An account with this email already exists."), w)
        else match hashPassword cfg tick body.password with
        | none => (.error .unhandled, w)
        | some passwordHash =>
            let r := signedUp cfg tick w.db email passwordHash
            (r.1, { w with db := r.2 })

def login (w : World) (client : Option Str) (body : Credentials) : Answer × World :=
  let (allowed, w) := authAttempt tick w client
  let refused : Raised := .http 401 "invalid_credentials" "Incorrect email or password."
  if !allowed then (.error tooManyAttempts, w)
  else match (body.email.lower cfg.U).encode? with
  | none => (.error .unhandled, w)
  | some email =>
      match w.db.users.rows.find? (·.email == email) with
      | none => (.error refused, w)
      | some user =>
          if verifyPassword cfg body.password user.passwordHash then
            (.ok (.ok (authResponse (cfg.jwtEncode tick.now user.id) user.id user.email)), w)
          else (.error refused, w)

/-! ### On texts -/

def Credentials.ofTexts (body : SentinelAI.Credentials) : Credentials :=
  ⟨.ofStr body.email, .ofStr body.password⟩

variable {cfg tick} {w : World} {client : Option Str}

/-- A body whose fields have encodings is one of texts. -/
theorem exists_ofTexts {body : Credentials} (he : body.email.Utf8) (hp : body.password.Utf8) :
    ∃ body', body = .ofTexts body' :=
  ⟨⟨body.email.escaped, body.password.escaped⟩, by
    rw [Credentials.ofTexts, PyStr.escaped, PyStr.escaped, PyStr.ofStr_render he,
      PyStr.ofStr_render hp]⟩

theorem signupErrors_ofTexts (body : SentinelAI.Credentials) :
    signupErrors (.ofTexts body) = SentinelAI.signupErrors body := by
  rw [signupErrors, Credentials.ofTexts, PyStr.replaced_ofStr, PyStr.replaced_ofStr]

theorem refusedBody_ofTexts (body : SentinelAI.Credentials) :
    refusedBody (.ofTexts body) = .validation (SentinelAI.signupErrors body) := by
  rw [refusedBody, if_pos ⟨.inr (PyStr.utf8_ofStr _), .inr (PyStr.utf8_ofStr _)⟩,
    signupErrors_ofTexts]

theorem encode?_lower_ofTexts (body : SentinelAI.Credentials) :
    ((Credentials.ofTexts body).email.lower cfg.U).encode? = some (cfg.U.lower body.email) :=
  PyStr.encode?_eq_some_iff.mpr (PyStr.lower_ofStr cfg.U body.email)

theorem hashPassword_ofTexts (body : SentinelAI.Credentials) :
    hashPassword cfg tick (Credentials.ofTexts body).password =
      cfg.hashpw tick.salt body.password := by
  have encoded : (Credentials.ofTexts body).password.encode? = some body.password :=
    PyStr.encode?_eq_some_iff.mpr rfl
  rw [hashPassword, encoded, Option.bind_some]

theorem verifyPassword_ofTexts (body : SentinelAI.Credentials) :
    verifyPassword cfg (Credentials.ofTexts body).password =
      SentinelAI.verifyPassword cfg body.password := by
  have encoded : (Credentials.ofTexts body).password.encode? = some body.password :=
    PyStr.encode?_eq_some_iff.mpr rfl
  funext passwordHash
  rw [verifyPassword, encoded]

/-- **On texts**, the sign-up is the one on texts. -/
theorem signup_ofTexts (body : SentinelAI.Credentials) :
    signup cfg tick w client (.ofTexts body) = SentinelAI.signup cfg tick w client body := by
  unfold signup SentinelAI.signup
  rewrite [signupErrors_ofTexts, refusedBody_ofTexts, encode?_lower_ofTexts, hashPassword_ofTexts]
  rfl

/-- And so is the login. -/
theorem login_ofTexts (body : SentinelAI.Credentials) :
    login cfg tick w client (.ofTexts body) = SentinelAI.login cfg tick w client body := by
  unfold login SentinelAI.login
  rewrite [encode?_lower_ofTexts, verifyPassword_ofTexts]
  rfl

/-! ### Elsewhere -/

theorem statusCode_refusedBody (body : Credentials) :
    (refusedBody body).response.statusCode ≠ 200 := by
  unfold refusedBody
  split
  · exact (by decide : 422 ≠ 200)
  · exact (by decide : 500 ≠ 200)

/-- **A sign-up without encodings** of its fields stores nothing, and is not answered with 200. -/
theorem signup_of_not_utf8 {body : Credentials} (h : ¬ (body.email.Utf8 ∧ body.password.Utf8)) :
    (signup cfg tick w client body).1.response.statusCode ≠ 200 ∧
      (signup cfg tick w client body).2.db = w.db := by
  unfold signup
  dsimp only
  split
  · exact ⟨statusCode_refusedBody body, rfl⟩
  · split
    · exact ⟨(by decide : 429 ≠ 200), rfl⟩
    · by_cases he : body.email.Utf8
      · have hashed : hashPassword cfg tick body.password = none := by
          rw [hashPassword, PyStr.encode?_of_not_utf8 fun hp => h ⟨he, hp⟩, Option.bind_none]
        rw [hashed, PyStr.encode?_of_utf8 (PyStr.utf8_lower.mpr he)]
        dsimp only
        split
        · exact ⟨(by decide : 409 ≠ 200), rfl⟩
        · exact ⟨(by decide : 500 ≠ 200), rfl⟩
      · rw [PyStr.encode?_of_not_utf8 fun hl => he (PyStr.utf8_lower.mp hl)]
        exact ⟨(by decide : 500 ≠ 200), rfl⟩

/-- A login stores nothing. -/
theorem db_login (body : Credentials) : (login cfg tick w client body).2.db = w.db := by
  unfold login
  dsimp only
  split
  · rfl
  · split
    · rfl
    · split
      · rfl
      · split
        · rfl
        · rfl

/-- **A login without encodings** of its fields fails. -/
theorem login_of_not_utf8 {body : Credentials} (h : ¬ (body.email.Utf8 ∧ body.password.Utf8)) :
    (login cfg tick w client body).1.response.statusCode ≠ 200 := by
  unfold login
  dsimp only
  split
  · exact (by decide : 429 ≠ 200)
  · by_cases he : body.email.Utf8
    · have wrong (passwordHash : Str) : verifyPassword cfg body.password passwordHash = false := by
        rw [verifyPassword, PyStr.encode?_of_not_utf8 fun hp => h ⟨he, hp⟩]
      rw [PyStr.encode?_of_utf8 (PyStr.utf8_lower.mpr he)]
      dsimp only
      split
      · exact (by decide : 401 ≠ 200)
      · rw [wrong, if_neg Bool.false_ne_true]
        exact (by decide : 401 ≠ 200)
    · rw [PyStr.encode?_of_not_utf8 fun hl => he (PyStr.utf8_lower.mp hl)]
      exact (by decide : 500 ≠ 200)

end SentinelAI.Py
