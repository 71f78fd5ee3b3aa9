import SentinelAI.Properties.LiveFindings

/-!
# Properties — Accounts

The accounts, and who logs in.  The length of a password is checked in characters, and bcrypt bounds
its encoding in bytes: what it refuses to hash it refuses to check, and the login answers that with
the error of a wrong password, while nothing on the way of a sign-up catches it.

* `users_handle_cases`: a sign-up that goes through adds an account, and nothing else changes them.
* `users_run`: no account goes, whatever happens to the process.
* `opens_iff`: a login goes to the first user with its email, if the password checks out.
-/

namespace SentinelAI
open Support

/-! ### Attempts -/

/-- A request to sign up or to log in. -/
structure Attempt where
  authorization : Str
  client : Option Str
  body : Credentials

namespace Attempt

def signup (a : Attempt) : Request := ⟨a.authorization, a.client, .unguarded (.signup a.body)⟩

def login (a : Attempt) : Request := ⟨a.authorization, a.client, .unguarded (.login a.body)⟩

/-- The attempt is not rate limited. -/
def allowed (tick : Tick) (w : World) (a : Attempt) : Bool := (authAttempt tick w a.client).1

/-- The login succeeds, and is answered with a token of the user. -/
def Opens (cfg : Config) (tick : Tick) (w : World) (a : Attempt) (user : User) : Prop :=
  (handle cfg tick w a.login).1 =
    .ok (authResponse (cfg.jwtEncode tick.now user.id) user.id user.email)

end Attempt

/-- `len(password.encode("utf-8"))` -/
def encodedLength (password : Str) : Nat := (password.map Char.utf8Size).sum

/-- What bcrypt 5.0 does with passwords, under the salt that it has generated. -/
structure Bcrypt (cfg : Config) (salt : Str) : Prop where
  hashpw : ∀ password, cfg.hashpw salt password = none ↔ 72 < encodedLength password
  checkpw_long : ∀ password passwordHash, 72 < encodedLength password →
    cfg.checkpw password passwordHash = none
  checkpw : ∀ password other passwordHash, cfg.hashpw salt password = some passwordHash →
    encodedLength other ≤ 72 → cfg.checkpw other passwordHash = some (decide (other = password))

/-- The middleware lets a request to a public path through. -/
theorem gate_public {cfg : Config} {tick : Tick} {r : Request}
    (h : r.endpoint.path ∈ PUBLIC_PATHS) : r.gate cfg tick = .ok () :=
  if_pos (.inr h)

theorem signup_public (body : Credentials) : (OpenRoute.signup body).path ∈ PUBLIC_PATHS :=
  .tail _ (.tail _ (.tail _ (.tail _ (.head _))))

theorem login_public (body : Credentials) : (OpenRoute.login body).path ∈ PUBLIC_PATHS :=
  .tail _ (.tail _ (.tail _ (.tail _ (.tail _ (.head _)))))

/-! ### Signing up -/

section SignUp

variable {cfg : Config} {tick : Tick} {w : World} {a : Attempt}

theorem handle_signup : handle cfg tick w a.signup =
    ((signup cfg tick w a.client a.body).1.response, (signup cfg tick w a.client a.body).2) :=
  handle_of_gate (gate_public (signup_public a.body))

/-- An accepted sign-up with an email that is new fails exactly where the hashing does. -/
theorem signup_of_new (hv : signupErrors a.body = [])
    (hn : ∀ user ∈ w.db.users.rows, user.email ≠ cfg.U.lower a.body.email)
    (ha : a.allowed tick w = true) :
    signup cfg tick w a.client a.body =
      match cfg.hashpw tick.salt a.body.password with
      | none => (.error .unhandled, (authAttempt tick w a.client).2)
      | some passwordHash =>
          let r := signedUp cfg tick w.db (cfg.U.lower a.body.email) passwordHash
          (r.1, { (authAttempt tick w a.client).2 with db := r.2 }) := by
  have free : w.db.users.rows.any (·.email == cfg.U.lower a.body.email) = false := by
    rw [List.any_eq_false]
    exact fun user hu he => hn user hu (beq_iff_eq.mp he)
  have allowed : (authAttempt tick w a.client).1 = true := ha
  have db : (authAttempt tick w a.client).2.db = w.db := rfl
  cases hh : cfg.hashpw tick.salt a.body.password with
  | none =>
      simp only [signup, hv, allowed, db, free, hh, ne_eq, not_true_eq_false, if_false,
        Bool.not_true, Bool.false_eq_true]
  | some passwordHash =>
      simp only [signup, hv, allowed, db, free, hh, ne_eq, not_true_eq_false, if_false,
        Bool.not_true, Bool.false_eq_true]

end SignUp

/-! ### The accounts -/

/-- The sign-up goes through: it passes the checks and the rate limit, no account has its email, and
its password is hashed. -/
structure Attempt.GoesThrough (cfg : Config) (tick : Tick) (w : World) (a : Attempt) : Prop where
  checked : signupErrors a.body = []
  allowed : a.allowed tick w = true
  free : ∀ user ∈ w.db.users.rows, user.email ≠ cfg.U.lower a.body.email
  hashed : ∃ passwordHash, cfg.hashpw tick.salt a.body.password = some passwordHash

section Accounts

variable {cfg : Config} {tick : Tick} {w : World} {a : Attempt}

/-- A sign-up that goes through adds a user with the lowercase of its email. -/
theorem users_signup_of_goesThrough (h : a.GoesThrough cfg tick w) :
    ∃ user, user.email = cfg.U.lower a.body.email ∧
      (signup cfg tick w a.client a.body).2.db.users.rows = w.db.users.rows ++ [user] := by
  obtain ⟨hv, ha, hn, passwordHash, hh⟩ := h
  rw [signup_of_new hv hn ha, hh]
  exact ⟨w.db.users.stored _, rfl, rfl⟩

/-- One that does not adds none. -/
theorem users_signup_of_not (h : ¬ a.GoesThrough cfg tick w) :
    (signup cfg tick w a.client a.body).2.db.users = w.db.users := by
  unfold signup
  by_cases hv : signupErrors a.body = []
  · rw [if_neg (not_not.mpr hv)]
    dsimp only
    cases ha : (authAttempt tick w a.client).1 with
    | false => rfl
    | true =>
        rw [if_neg (by decide)]
        split
        · rfl
        · rename_i taken
          have free : ∀ user ∈ w.db.users.rows, user.email ≠ cfg.U.lower a.body.email :=
            fun user hu he => taken (List.any_eq_true.mpr ⟨user, hu, beq_iff_eq.mpr he⟩)
          cases hh : cfg.hashpw tick.salt a.body.password with
          | none => rfl
          | some passwordHash => exact absurd ⟨hv, ha, free, passwordHash, hh⟩ h
  · rw [if_pos hv]

/-- What needs no account but a sign-up leaves the accounts. -/
theorem users_openBody {route : OpenRoute} (h : ∀ body, route ≠ .signup body)
    (client : Option Str) : (openBody cfg tick w client route).2.db.users = w.db.users := by
  cases route with
  | signup body => exact absurd rfl (h body)
  | login body =>
      unfold openBody login
      dsimp only
      split
      · rfl
      · split
        · rfl
        · split
          · rfl
          · rfl
  | approve_agent_action logId approver =>
      obtain ⟨_, _, he⟩ := @resolveAction_frame cfg tick w.db logId approver true
      have users : (resolveAction cfg tick w.db logId approver true).2.users = w.db.users := by
        rw [he]
      exact users
  | reject_agent_action logId approver =>
      obtain ⟨_, _, he⟩ := @resolveAction_frame cfg tick w.db logId approver false
      have users : (resolveAction cfg tick w.db logId approver false).2.users = w.db.users := by
        rw [he]
      exact users
  | apply_event_retention =>
      unfold openBody
      dsimp only
      split
      · rfl
      · rfl
  | _ => rfl

variable (cfg tick w) in
/-- **What a request does to the accounts**: a sign-up that goes through adds one, and nothing else
changes them. -/
theorem users_handle_cases (r : Request) :
    (∃ a : Attempt, r = a.signup ∧ a.GoesThrough cfg tick w) ∨
      (handle cfg tick w r).2.db.users = w.db.users := by
  have left := leaves_handle cfg tick w r
  generalize hw : (handle cfg tick w r).2 = w' at left ⊢
  cases left with
  | refused => exact .inr rfl
  | stamped he hk => exact .inr rfl
  | @unguarded route he =>
      by_cases hs : ∃ body, route = .signup body
      · obtain ⟨body, rfl⟩ := hs
        have hr : r = (⟨r.authorization, r.client, body⟩ : Attempt).signup := by
          obtain ⟨authorization, client, endpoint⟩ := r
          dsimp only at he
          rw [he]
          rfl
        by_cases h : (⟨r.authorization, r.client, body⟩ : Attempt).GoesThrough cfg tick w
        · exact .inl ⟨_, hr, h⟩
        · have same := users_signup_of_not h
          exact .inr same
      · exact .inr (users_openBody (fun body he => hs ⟨body, he⟩) _)
  | @ofUser route user hg he hu =>
      obtain ⟨_, _, _, _, _, _, h⟩ := @userBody_frame cfg tick w user route
      rw [h]
      exact .inr rfl
  | @ofProject p route project he hp =>
      obtain ⟨_, _, _, h, -⟩ := @projectBody_frame cfg tick project w.db route
      dsimp only
      rw [h]
      exact .inr rfl
  | @ofKey p route project keys he hp =>
      obtain ⟨_, _, _, h⟩ := @keyBody_frame cfg tick project { w.db with apiKeys := keys } route
      dsimp only
      rw [h]
      exact .inr rfl

end Accounts

/-! ### Accounts stay -/

section Stay

variable {w w' : World}

theorem users_handle (cfg : Config) (tick : Tick) (w : World) (r : Request) :
    w.db.users.rows <+: (handle cfg tick w r).2.db.users.rows := by
  rcases users_handle_cases cfg tick w r with ⟨a, rfl, goes⟩ | same
  · obtain ⟨user, -, hrows⟩ := users_signup_of_goesThrough goes
    rw [handle_signup]
    exact ⟨[user], hrows.symm⟩
  · rw [same]

theorem users_step {a : Config × Tick × Happening} (hs : ConfiguredStep w a w') :
    w.db.users.rows <+: w'.db.users.rows := by
  obtain ⟨cfg, tick, happening⟩ := a
  rcases step_cases hs with ⟨r, rfl, he⟩ | ⟨-, _, he⟩
  · rw [he]
    exact users_handle cfg tick w r
  · rw [he]

/-- **Accounts stay**, as they are and in their order, whatever happens to the process. -/
theorem users_run {as : List (Config × Tick × Happening)} (h : Run ConfiguredStep w as w') :
    w.db.users.rows <+: w'.db.users.rows :=
  h.relates (R := fun w w' : World => w.db.users.rows <+: w'.db.users.rows)
    (fun _ => List.prefix_rfl) (fun _ _ _ h₁ h₂ => h₁.trans h₂) fun _ _ _ hs => users_step hs

end Stay

/-! ### Logging in -/

section LogIn

variable {cfg : Config} {tick : Tick} {w : World} {a : Attempt}

theorem handle_login : handle cfg tick w a.login =
    ((login cfg tick w a.client a.body).1.response, (login cfg tick w a.client a.body).2) :=
  handle_of_gate (gate_public (login_public a.body))

/-- An answer with a token is no other user's. -/
theorem authResponse_inj {token token' : Str} {userId userId' : Int} {email email' : Str}
    (h : Response.ok (authResponse token userId email) =
      .ok (authResponse token' userId' email')) : userId = userId' ∧ email = email' := by
  simp only [Response.ok, authResponse, Response.mk.injEq, Content.json.injEq, Json.obj.injEq,
    List.cons.injEq, Prod.mk.injEq, Json.int.injEq, Json.str.injEq, true_and, and_true] at h
  exact h.2

/-- **A login that is not rate limited** goes to the first user with its email, if the password
checks out. -/
theorem opens_iff (ha : a.allowed tick w = true) {user : User} (hu : user ∈ w.db.users.rows) :
    a.Opens cfg tick w user ↔
      w.db.users.rows.find? (·.email == cfg.U.lower a.body.email) = some user ∧
        verifyPassword cfg a.body.password user.passwordHash = true := by
  have allowed : (authAttempt tick w a.client).1 = true := ha
  have db : (authAttempt tick w a.client).2.db = w.db := rfl
  rw [Attempt.Opens, handle_login]
  unfold login
  simp only [allowed, db, Bool.not_true, Bool.false_eq_true, if_false]
  cases hf : w.db.users.rows.find? (·.email == cfg.U.lower a.body.email) with
  | none =>
      refine iff_of_false (fun h => ?_) (fun h => (nomatch h.1))
      cases congrArg Response.statusCode h
  | some row =>
      dsimp only
      cases hp : verifyPassword cfg a.body.password row.passwordHash with
      | false =>
          rw [if_neg Bool.false_ne_true]
          refine iff_of_false (fun h => ?_) ?_
          · cases congrArg Response.statusCode h
          · rintro ⟨⟨⟩, h⟩
            exact Bool.false_ne_true (hp.symm.trans h)
      | true =>
          rw [if_pos rfl]
          constructor
          · intro h
            have hid : row.id = user.id := (authResponse_inj h).1
            cases Table.eq_of_key (List.mem_of_find?_eq_some hf) hu hid
            exact ⟨rfl, hp⟩
          · rintro ⟨⟨⟩, -⟩
            rfl

end LogIn

/-! ### The account -/

/-- The first user with an email is the one that was added when no user had it. -/
theorem find?_email_iff {old rows : List User} {user : User} (h : old ++ [user] <+: rows)
    (hn : ∀ u ∈ old, u.email ≠ user.email) (email : Str) :
    rows.find? (·.email == email) = some user ↔ email = user.email := by
  constructor
  · intro hf
    have he := List.find?_some hf
    exact (beq_iff_eq.mp he).symm
  · rintro rfl
    obtain ⟨more, rfl⟩ := h
    have none : old.find? (·.email == user.email) = none :=
      List.find?_eq_none.mpr fun u hu he => hn u hu (beq_iff_eq.mp he)
    rw [List.append_assoc, List.find?_append, none, Option.none_or, List.singleton_append]
    exact List.find?_cons_of_pos (beq_self_eq_true user.email)

section Account

variable {cfg : Config} {tick : Tick}

/-- What bcrypt hashed checks out under that password, and under no other. -/
theorem verifyPassword_iff (hb : Bcrypt cfg tick.salt) {password passwordHash other : Str}
    (hh : cfg.hashpw tick.salt password = some passwordHash) :
    verifyPassword cfg other passwordHash = true ↔ other = password := by
  have fits : encodedLength password ≤ 72 := by
    by_contra hlong
    have hnone := (hb.hashpw password).mpr (Nat.lt_of_not_le hlong)
    cases hh.symm.trans hnone
  unfold verifyPassword
  by_cases ho : encodedLength other ≤ 72
  · rw [hb.checkpw password other passwordHash hh ho, Option.getD_some, decide_eq_true_iff]
  · rw [hb.checkpw_long other passwordHash (Nat.lt_of_not_le ho), Option.getD_none]
    refine iff_of_false Bool.false_ne_true ?_
    rintro rfl
    exact ho fits

end Account

end SentinelAI
