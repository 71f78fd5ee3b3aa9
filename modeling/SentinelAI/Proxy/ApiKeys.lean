import SentinelAI.Proxy.Auth
import SentinelAI.Proxy.Projects

/-!
# Proxy — Api keys

`proxy/api_keys.py`, and the two dependencies of `proxy/projects.py` that stand before the routes of
a project.  Only the hash of a key is stored; the column is unique.
-/

namespace SentinelAI
open Support

/-- `_KEY_PREFIX` -/
def KEY_PREFIX : Str := "sk_live_"

variable (cfg : Config) (tick : Tick)

/-- `create_api_key`: the row, the raw key and the table after it, or nothing where the unique
column refuses the row. -/
def createApiKey (t : Table ProjectAPIKey) (projectId : Int) (name : Str) :
    Option (ProjectAPIKey × Str × Table ProjectAPIKey) :=
  let rawKey := KEY_PREFIX ++ tick.tokenHex
  let row : ProjectAPIKey :=
    ⟨0, projectId, name, cfg.sha256 rawKey, rawKey.take 12, tick.now, none, none⟩
  if t.rows.any (·.keyHash == row.keyHash) then none else some (t.stored row, rawKey, t.insert row)

/-- The key and the project that a raw key resolves to. -/
def resolveApiKey (db : Db) (rawKey : Str) : Option (ProjectAPIKey × Project) :=
  if startsWith rawKey KEY_PREFIX then
    match db.apiKeys.rows.find? (·.keyHash == cfg.sha256 rawKey) with
    | none => none
    | some row =>
        if row.revokedAt.isSome then none else (db.projects.find? row.projectId).map (row, ·)
  else none

/-- A key that was used now. -/
def ProjectAPIKey.stamped (k : ProjectAPIKey) (now : Time) : ProjectAPIKey :=
  { k with lastUsedAt := some now }

/-- `verify_api_key`: the project, and the database with the key stamped. -/
def verifyApiKey (db : Db) (rawKey : Str) : Option Project × Db :=
  match resolveApiKey cfg db rawKey with
  | none => (none, db)
  | some (row, project) =>
      (some project,
        -- a stamp that cannot be written is rolled back, and the key counts all the same
        if tick.keyFault then db
        else { db with apiKeys := db.apiKeys.modify row.id (·.stamped tick.now) })

/-- `revoke_api_key`: the table after it, or nothing where the project has no such key. -/
def revokeApiKey (t : Table ProjectAPIKey) (projectId keyId : Int) (now : Time) :
    Option (Table ProjectAPIKey) :=
  match t.find? keyId with
  | none => none
  | some row =>
      if row.projectId = projectId then some (t.modify keyId ({ · with revokedAt := some now }))
      else none

def apiKeyToDict (k : ProjectAPIKey) : List (Str × Json) :=
  [("id", .int k.id), ("project_id", .int k.projectId), ("name", .str k.name),
    ("key_prefix", .str k.keyPrefix), ("created_at", .time k.createdAt),
    ("last_used_at", .opt .time k.lastUsedAt), ("revoked_at", .opt .time k.revokedAt),
    ("active", .bool k.revokedAt.isNone)]

/-! ### The dependencies of a route -/

/-- `require_project` -/
def requireProject (db : Db) (header : Str) (projectId : Int) : Except Raised Project :=
  match getCurrentUser cfg tick.now db header with
  | .error e => .error e
  | .ok user => ownedProject db projectId user.id

/-- `require_project_or_api_key` -/
def requireProjectOrApiKey (db : Db) (header : Str) (projectId : Int) :
    Except Raised Project × Db :=
  if startsWith (cfg.U.lower header) "apikey " then
    match verifyApiKey cfg tick db (strip (header.drop 7)) with
    | (none, db) => (.error (.http 401 "invalid_api_key" "Invalid or revoked API key."), db)
    | (some project, db) =>
        -- a key is good for its own project only
        (if project.id = projectId then .ok project else .error projectNotFound, db)
  else if startsWith (cfg.U.lower header) "bearer " then
    (match tokenUser cfg tick.now db (strip (header.drop 7)) with
      | .error e => .error e
      | .ok user => ownedProject db projectId user.id, db)
  else
    (.error (.http 401 "not_authenticated" "Missing bearer token or API key."), db)

/-! ### What a dependency leaves -/

/-- Verifying a key changes at most its stamp. -/
theorem verifyApiKey_snd (db : Db) (rawKey : Str) :
    (verifyApiKey cfg tick db rawKey).2 = db ∨ ∃ row project,
      resolveApiKey cfg db rawKey = some (row, project) ∧
      (verifyApiKey cfg tick db rawKey).2 =
        { db with apiKeys := db.apiKeys.modify row.id (·.stamped tick.now) } := by
  unfold verifyApiKey
  cases hr : resolveApiKey cfg db rawKey with
  | none => exact .inl rfl
  | some kp =>
      dsimp only
      split
      · exact .inl rfl
      · exact .inr ⟨kp.1, kp.2, rfl, rfl⟩

theorem verifyApiKey_fst (db : Db) (rawKey : Str) :
    (verifyApiKey cfg tick db rawKey).1 = (resolveApiKey cfg db rawKey).map (·.2) := by
  unfold verifyApiKey
  cases resolveApiKey cfg db rawKey <;> rfl

/-- Under the scheme of API keys the key decides. -/
theorem requireProjectOrApiKey_of_key (db : Db) {header : Str} (projectId : Int)
    (hk : startsWith (cfg.U.lower header) "apikey ") :
    (requireProjectOrApiKey cfg tick db header projectId).1 =
      match resolveApiKey cfg db (strip (header.drop 7)) with
      | none => .error (.http 401 "invalid_api_key" "Invalid or revoked API key.")
      | some (_, project) =>
          if project.id = projectId then .ok project else .error projectNotFound := by
  rw [requireProjectOrApiKey, if_pos hk, verifyApiKey]
  cases resolveApiKey cfg db (strip (header.drop 7)) <;> rfl

theorem requireProjectOrApiKey_snd (db : Db) (header : Str) (projectId : Int) :
    (requireProjectOrApiKey cfg tick db header projectId).2 = db ∨ ∃ rawKey,
      (requireProjectOrApiKey cfg tick db header projectId).2 =
        (verifyApiKey cfg tick db rawKey).2 := by
  unfold requireProjectOrApiKey
  split
  · refine .inr ⟨strip (header.drop 7), ?_⟩
    rcases verifyApiKey cfg tick db (strip (header.drop 7)) with ⟨_ | project, db'⟩ <;> rfl
  · split <;> exact .inl rfl

/-- A dependency changes keys at most. -/
theorem requireProjectOrApiKey_frame (db : Db) (header : Str) (projectId : Int) :
    ∃ keys, (requireProjectOrApiKey cfg tick db header projectId).2 =
      { db with apiKeys := keys } := by
  rcases requireProjectOrApiKey_snd cfg tick db header projectId with h | ⟨rawKey, h⟩
  · exact ⟨db.apiKeys, h⟩
  · rcases verifyApiKey_snd cfg tick db rawKey with hv | ⟨row, _, -, hv⟩
    · exact ⟨db.apiKeys, h.trans hv⟩
    · exact ⟨_, h.trans hv⟩

end SentinelAI
