import SentinelAI.Properties.Accounts
import SentinelAI.Proxy.PyAuth

/-!
# Properties — AccountEncoding

Signing up and logging in, with any Python strings.  A sign-up encodes its email to look it up and
its password to hash it, and bcrypt bounds the encoding of the password; nothing on the way catches
what they raise.

* `opens_iff_of_new`: what logs into an account that was new.
* `opensAccount_iff`: an accepted sign-up opens an account that only its email and password log into
  exactly when both have an encoding and that of the password fits.
* `not_opensAccount_long`: 25 characters that do not.
-/

namespace SentinelAI.Py
open Support

/-! ### Attempts -/

/-- A request to sign up or to log in. -/
structure Attempt where
  client : Option Str
  body : Credentials

namespace Attempt

/-- The attempt is not rate limited. -/
def allowed (tick : Tick) (w : World) (a : Attempt) : Bool := (authAttempt tick w a.client).1

/-- The login succeeds, and is answered with a token of the user. -/
def Opens (cfg : Config) (tick : Tick) (w : World) (a : Attempt) (user : User) : Prop :=
  (login cfg tick w a.client a.body).1.response =
    .ok (authResponse (cfg.jwtEncode tick.now user.id) user.id user.email)

end Attempt

/-- What can happen to the process, with sign-ups and logins of any strings. -/
inductive Happening where
  | texts (h : SentinelAI.Happening)
  | signup (a : Attempt)
  | login (a : Attempt)

/-- A step of the process under some configuration. -/
def Step (w : World) (a : Config × Tick × Happening) (w' : World) : Prop :=
  match a.2.2 with
  | .texts h => ConfiguredStep w (a.1, a.2.1, h) w'
  | .signup b => w' = (signup a.1 a.2.1 w b.client b.body).2
  | .login b => w' = (login a.1 a.2.1 w b.client b.body).2

/-- The sign-up is answered with 200 and makes one user and one workspace; afterwards, whatever has
happened, a login goes to the user exactly when it has the email and the password. -/
def OpensAccount (cfg : Config) (tick : Tick) (w : World) (a : Attempt) : Prop :=
  (signup cfg tick w a.client a.body).1.response.statusCode = 200 ∧
  ∃ user workspace,
    (signup cfg tick w a.client a.body).2.db.users.rows = w.db.users.rows ++ [user] ∧
    (signup cfg tick w a.client a.body).2.db.workspaces.rows =
      w.db.workspaces.rows ++ [workspace] ∧
    .ofStr user.email = a.body.email.lower cfg.U ∧ workspace.ownerUserId = user.id ∧
    ∀ as w', Run Step (signup cfg tick w a.client a.body).2 as w' →
      ∀ (later : Config) (time : Tick) (b : Attempt), later.U = cfg.U →
        later.checkpw = cfg.checkpw → b.allowed time w' = true →
        (b.Opens later time w' user ↔
          b.body.email.lower cfg.U = .ofStr user.email ∧ b.body.password = a.body.password)

/-! ### Accounts stay -/

theorem users_signup (cfg : Config) (tick : Tick) (w : World) (a : Attempt) :
    w.db.users.rows <+: (signup cfg tick w a.client a.body).2.db.users.rows := by
  by_cases h : a.body.email.Utf8 ∧ a.body.password.Utf8
  · obtain ⟨body, hbody⟩ := exists_ofTexts h.1 h.2
    have served := users_handle cfg tick w (SentinelAI.Attempt.mk [] a.client body).signup
    rw [handle_signup] at served
    rw [hbody, signup_ofTexts]
    exact served
  · rw [(signup_of_not_utf8 h).2]

theorem users_step {w w' : World} {a : Config × Tick × Happening} (hs : Step w a w') :
    w.db.users.rows <+: w'.db.users.rows := by
  obtain ⟨cfg, tick, h | b | b⟩ := a
  · exact SentinelAI.users_step hs
  · have step : w' = (signup cfg tick w b.client b.body).2 := hs
    rw [step]
    exact users_signup cfg tick w b
  · have step : w' = (login cfg tick w b.client b.body).2 := hs
    rw [step, db_login]

/-- **Accounts stay**, whatever strings are sent to sign up or to log in. -/
theorem users_run {w w' : World} {as : List (Config × Tick × Happening)} (h : Run Step w as w') :
    w.db.users.rows <+: w'.db.users.rows :=
  h.relates (R := fun w w' : World => w.db.users.rows <+: w'.db.users.rows)
    (fun _ => List.prefix_rfl) (fun _ _ _ h₁ h₂ => h₁.trans h₂) fun _ _ _ hs => users_step hs

/-! ### The account -/

section Account

variable {cfg : Config} {tick : Tick}

/-- **What logs into an account** that was made when its email was new: its email in any case that
comes to the same, and its password. -/
theorem opens_iff_of_new {old : List User} {user : User} {password : Str} {w : World}
    {a : Attempt} (stays : old ++ [user] <+: w.db.users.rows)
    (hn : ∀ u ∈ old, u.email ≠ user.email) (ha : a.allowed tick w = true)
    (checks : ∀ other, SentinelAI.verifyPassword cfg other user.passwordHash = true ↔
      other = password) :
    a.Opens cfg tick w user ↔
      a.body.email.lower cfg.U = .ofStr user.email ∧ a.body.password = .ofStr password := by
  have hu : user ∈ w.db.users.rows :=
    stays.subset (List.mem_append_right _ (List.mem_singleton_self _))
  by_cases h : a.body.email.Utf8 ∧ a.body.password.Utf8
  · obtain ⟨body, hbody⟩ := exists_ofTexts h.1 h.2
    have texts : a.Opens cfg tick w user ↔
        (SentinelAI.Attempt.mk [] a.client body).Opens cfg tick w user := by
      rw [Attempt.Opens, SentinelAI.Attempt.Opens, handle_login, hbody, login_ofTexts]
    have email : a.body.email.lower cfg.U = .ofStr (cfg.U.lower body.email) := by
      rw [hbody]
      exact PyStr.lower_ofStr cfg.U body.email
    have written : a.body.password = .ofStr body.password := by rw [hbody]; rfl
    have allowed : (SentinelAI.Attempt.mk [] a.client body).allowed tick w = true := ha
    rw [texts, SentinelAI.opens_iff allowed hu, find?_email_iff stays hn, checks, email, written,
      PyStr.ofStr_injective.eq_iff, PyStr.ofStr_injective.eq_iff]
  · refine iff_of_false (fun opens => ?_) ?_
    · exact login_of_not_utf8 h (congrArg Response.statusCode opens)
    · rintro ⟨email, written⟩
      have encodes : (a.body.email.lower cfg.U).Utf8 := by
        rw [email]
        exact PyStr.utf8_ofStr _
      refine h ⟨PyStr.utf8_lower.mp encodes, ?_⟩
      rw [written]
      exact PyStr.utf8_ofStr _

/-- An accepted sign-up of texts with an email that is new fails exactly where the hashing does. -/
theorem signup_of_new {w : World} {a : Attempt} {body : SentinelAI.Credentials}
    (hbody : a.body = .ofTexts body) (hv : signupErrors a.body = [])
    (hn : ∀ user ∈ w.db.users.rows, user.email ≠ cfg.U.lower body.email)
    (ha : a.allowed tick w = true) :
    signup cfg tick w a.client a.body =
      match cfg.hashpw tick.salt body.password with
      | none => (.error .unhandled, (authAttempt tick w a.client).2)
      | some passwordHash =>
          let r := signedUp cfg tick w.db (cfg.U.lower body.email) passwordHash
          (r.1, { (authAttempt tick w a.client).2 with db := r.2 }) := by
  have accepted : SentinelAI.signupErrors body = [] := by
    rw [← signupErrors_ofTexts, ← hbody, hv]
  rw [hbody, signup_ofTexts]
  exact @SentinelAI.signup_of_new cfg tick w ⟨[], a.client, body⟩ accepted hn ha

/-- **An accepted sign-up** with an email that is new opens an account that its email and password
log into, and no others, exactly when both have an encoding and that of the password is within the
bound of bcrypt. -/
theorem opensAccount_iff (hb : Bcrypt cfg tick.salt) {w : World} {a : Attempt}
    (hv : signupErrors a.body = [])
    (hn : ∀ user ∈ w.db.users.rows, PyStr.ofStr user.email ≠ a.body.email.lower cfg.U)
    (ha : a.allowed tick w = true) :
    OpensAccount cfg tick w a ↔
      a.body.email.Utf8 ∧ a.body.password.Utf8 ∧
        encodedLength a.body.password.escaped ≤ 72 := by
  by_cases h : a.body.email.Utf8 ∧ a.body.password.Utf8
  · obtain ⟨body, hbody⟩ := exists_ofTexts h.1 h.2
    have written : a.body.password = .ofStr body.password := by rw [hbody]; rfl
    have lowered : a.body.email.lower cfg.U = .ofStr (cfg.U.lower body.email) := by
      rw [hbody]
      exact PyStr.lower_ofStr cfg.U body.email
    have new : ∀ user ∈ w.db.users.rows, user.email ≠ cfg.U.lower body.email := by
      intro user hu he
      refine hn user hu ?_
      rw [he, lowered]
    rw [and_iff_right h.1, and_iff_right h.2]
    unfold OpensAccount
    rw [signup_of_new hbody hv new ha, written, PyStr.escaped_ofStr]
    cases hh : cfg.hashpw tick.salt body.password with
    | none =>
        -- the password is accepted, and hashing it raises
        refine iff_of_false (fun opens => ?_) (Nat.not_le_of_lt ((hb.hashpw _).mp hh))
        have code : 500 = 200 := opens.1
        exact absurd code (by decide)
    | some passwordHash =>
        have fits : ¬ 72 < encodedLength body.password := by
          rw [← hb.hashpw, hh]
          rintro ⟨⟩
        refine iff_of_true ⟨rfl, w.db.users.stored _, w.db.workspaces.stored _, rfl, rfl,
          lowered.symm, rfl, ?_⟩ (Nat.le_of_not_lt fits)
        intro as w' hrun later time b hU hcheck hallowed
        have stays := users_run hrun
        have checks (other : Str) : SentinelAI.verifyPassword later other passwordHash = true ↔
            other = body.password := by
          rw [SentinelAI.verifyPassword, hcheck]
          exact verifyPassword_iff hb hh
        have opens := opens_iff_of_new stays new hallowed checks
        rw [hU] at opens
        exact opens
  · refine iff_of_false (fun opens => ?_) fun encodes => h ⟨encodes.1, encodes.2.1⟩
    exact (signup_of_not_utf8 h).1 opens.1

end Account

/-! ### A password in bytes -/

/-- A server whose bcrypt keeps the passwords that it can hash as they are. -/
def Config.storing : Config :=
  { Config.bare with
    hashpw := fun _ password => if encodedLength password ≤ 72 then some password else none
    checkpw := fun password passwordHash =>
      if encodedLength password ≤ 72 then some (decide (password = passwordHash)) else none }

theorem bcrypt_storing (salt : Str) : Bcrypt Config.storing salt where
  hashpw password := by simp [Config.storing]
  checkpw_long password passwordHash h := if_neg (Nat.not_le_of_lt h)
  checkpw password other passwordHash h ho := by
    simp only [Config.storing, Option.ite_none_right_eq_some, Option.some.injEq] at h ⊢
    exact ⟨ho, by rw [h.2]⟩

def signingUp (password : Str) : Attempt := ⟨none, ⟨.ofStr "a@x.co", .ofStr password⟩⟩

/-- A password of eight characters opens the account. -/
theorem opensAccount_iff_short :
    OpensAccount Config.storing .zero .empty (signingUp "12345678") :=
  (opensAccount_iff (bcrypt_storing _) (by decide) (fun _ h => (List.not_mem_nil h).elim)
    (by decide)).mpr (by decide)

/-- One of 25 characters, each of three bytes. -/
def longPassword : Str := List.replicate 25 '€'

/-- **A password that is accepted** fails the sign-up with an internal error. -/
theorem not_opensAccount_long :
    Bcrypt Config.storing Tick.zero.salt ∧ signupErrors (signingUp longPassword).body = [] ∧
      (signingUp longPassword).allowed .zero .empty = true ∧
      (signup Config.storing .zero .empty none
        (signingUp longPassword).body).1.response.statusCode = 500 ∧
      ¬ OpensAccount Config.storing .zero .empty (signingUp longPassword) := by
  have code : (signup Config.storing .zero .empty none
      (signingUp longPassword).body).1.response.statusCode = 500 := by decide
  refine ⟨bcrypt_storing _, by decide, by decide, code, fun h => ?_⟩
  exact absurd (code.symm.trans h.1) (by decide)

end SentinelAI.Py
