import SentinelAI.Proxy.Config

/-!
# Proxy — Auth

`proxy/auth.py`: the checks of a sign-up, passwords, and tokens.
-/

namespace SentinelAI
open Support

/-- `[^@\s]` -/
def emailChar (c : Char) : Bool := c != '@' && !isSpace c

/-- `_EMAIL_RE` without its anchors. -/
def EMAIL_RE : Re :=
  let part : Re := .plus (.set emailChar)
  Re.cat [part, Re.chr '@', part, Re.chr '.', part]

/-- `_EMAIL_RE.match`: the `$` also stands before a final newline. -/
def emailMatches (v : Str) : Bool :=
  (EMAIL_RE.ends ⟨[], v⟩).any fun z => z.after == [] || z.after == ['\n']

def MIN_PASSWORD_LENGTH : Nat := 8

structure Credentials where
  email : Str
  password : Str

/-- `AuthResponse` -/
def authResponse (accessToken : Str) (userId : Int) (email : Str) : Json :=
  .obj [("access_token", .str accessToken), ("token_type", .str "bearer"), ("user_id", .int userId),
    ("email", .str email)]

/-- What the validators of `SignupRequest` find. -/
def signupErrors (body : Credentials) : List (List Str × Str) :=
  let email : List (List Str × Str) :=
    if emailMatches body.email then []
    else [(["body", "email"], "Value error, Not a valid email address.")]
  let password : List (List Str × Str) :=
    if MIN_PASSWORD_LENGTH ≤ body.password.length then []
    else [(["body", "password"], "Value error, Password must be at least 8 characters.")]
  email ++ password

variable (cfg : Config)

def verifyPassword (password passwordHash : Str) : Bool :=
  (cfg.checkpw password passwordHash).getD false

def decodeToken (now : Time) (token : Str) : Except Raised Int :=
  match cfg.jwtSubject now token with
  | some userId => .ok userId
  | none => .error (.http 401 "invalid_token" "Invalid or expired token.")

/-- The account that a token names. -/
def tokenUser (now : Time) (db : Db) (token : Str) : Except Raised User :=
  match decodeToken cfg now token with
  | .error e => .error e
  | .ok userId =>
      match db.users.find? userId with
      | some user => .ok user
      | none => .error (.http 401 "user_not_found" "Token references a deleted account.")

/-- `get_current_user` -/
def getCurrentUser (now : Time) (db : Db) (header : Str) : Except Raised User :=
  match cfg.httpBearer header with
  | none => .error (.http 401 "not_authenticated" "Missing bearer token.")
  | some token => tokenUser cfg now db token

variable {cfg}

theorem tokenUser_eq_ok {now : Time} {db : Db} {token : Str} {user : User} :
    tokenUser cfg now db token = .ok user ↔
      ∃ userId, cfg.jwtSubject now token = some userId ∧ db.users.find? userId = some user := by
  unfold tokenUser decodeToken
  cases cfg.jwtSubject now token with
  | none => simp
  | some userId =>
      dsimp only
      cases hu : db.users.find? userId <;> simp [hu]

theorem getCurrentUser_eq_ok {now : Time} {db : Db} {header : Str} {user : User} :
    getCurrentUser cfg now db header = .ok user ↔
      ∃ token, cfg.httpBearer header = some token ∧ tokenUser cfg now db token = .ok user := by
  unfold getCurrentUser
  cases cfg.httpBearer header <;> simp

end SentinelAI
