import Mathlib.Algebra.Order.Ring.Rat
import SentinelAI.Support.Schema
import SentinelAI.Support.Text

/-!
# Proxy — DbSession

`proxy/db/session.py`: how the process opens a database that an earlier release may have written.
The tables are those of `proxy/db/models.py`, here with their columns only; a cell is what the
database stores, dates and JSON as texts.  A database may have other tables, and other columns.

The indexes that `create_all` makes along with a table are left out.
-/

namespace SentinelAI
open Support

/-- A value as the database stores it. -/
inductive Cell where
  | null
  | integer (n : Int)
  | real (q : ℚ)
  | text (s : Str)
deriving DecidableEq

/-- What is stored, as opposed to what the application makes of it (`Db`). -/
abbrev Storage := Catalog Str Str Cell

/-! ### `proxy/db/models.py` -/

namespace Base

def users : Sheet Str Cell := .create ["id", "email", "password_hash", "created_at"] (by decide)

def workspaces : Sheet Str Cell := .create ["id", "owner_user_id", "name", "created_at"] (by decide)

def projects : Sheet Str Cell := .create
  ["id", "workspace_id", "name", "target_type", "repo_url", "description", "created_at"] (by decide)

def callLogs : Sheet Str Cell := .create
  ["id", "project_id", "session_id", "operation", "provider", "model", "latency_ms", "tokens_in",
    "tokens_out", "cost_estimate_usd", "guardrails", "error_code", "created_at"] (by decide +kernel)

def findings : Sheet Str Cell := .create
  ["id", "project_id", "test_id", "category", "severity", "title", "description",
    "affected_target", "evidence", "reproduction", "provider", "model", "status", "created_at",
    "updated_at"] (by decide +kernel)

def testRunResults : Sheet Str Cell := .create
  ["id", "project_id", "run_id", "test_id", "category", "severity", "status", "provider", "model",
    "execution_source", "executed_at"] (by decide +kernel)

def agentActionLogs : Sheet Str Cell := .create
  ["id", "project_id", "agent_id", "tool", "action", "data_source", "decision", "reason",
    "execution_result", "approved_by", "created_at", "updated_at"] (by decide +kernel)

def securityEvents : Sheet Str Cell := .create
  ["id", "project_id", "event_type", "severity", "category", "source", "application", "model",
    "summary", "details", "created_at"] (by decide +kernel)

def projectApiKeys : Sheet Str Cell := .create
  ["id", "project_id", "name", "key_hash", "key_prefix", "created_at", "last_used_at",
    "revoked_at"] (by decide +kernel)

def baselines : Sheet Str Cell := .create
  ["id", "project_id", "name", "run_id", "created_at"] (by decide)

/-- `Base.metadata`, as `create_all` makes the tables. -/
def metadata : List (Str × Sheet Str Cell) :=
  [("users", users), ("workspaces", workspaces), ("projects", projects), ("call_logs", callLogs),
    ("findings", findings), ("test_run_results", testRunResults),
    ("agent_action_logs", agentActionLogs), ("security_events", securityEvents),
    ("project_api_keys", projectApiKeys), ("baselines", baselines)]

end Base

/-! ### The migration -/

def TABLES_NEEDING_PROJECT_ID : List Str :=
  ["call_logs", "findings", "test_run_results", "agent_action_logs", "security_events", "baselines"]

/-- The type `VARCHAR DEFAULT 'dashboard'` fills the rows that are there; `VARCHAR` leaves
`NULL`. -/
def ADDITIVE_COLUMNS : List (Additive Str Str Cell) :=
  [⟨"test_run_results", "execution_source", .text "dashboard"⟩,
    ⟨"projects", "repo_url", .null⟩,
    ⟨"projects", "description", .null⟩]

/-- `_migrate_add_project_id_columns`.  The inspector keeps what it has read of a table, and reads
it before the table is altered: it shows the database as it was. -/
def migrateAddProjectIdColumns (db : Storage) : Option Storage := do
  let inspector := db
  let conn ← inspector.addMissing (TABLES_NEEDING_PROJECT_ID.map (⟨·, "project_id", .null⟩)) db
  inspector.addMissing ADDITIVE_COLUMNS conn

/-- `init_db`; nothing where a statement fails, as one that adds a column twice does. -/
def initDb (db : Storage) : Option Storage :=
  migrateAddProjectIdColumns (db.createAll Base.metadata)

/-! ### What the application reads -/

/-- `select(Model)`: the statement names every mapped column, and fails where one is missing, with
or without rows. -/
def selectAll (db : Storage) (table : Str) : Option (List (List Cell)) := do
  let model ← Catalog.ofTables Base.metadata table
  let s ← db table
  if ∀ c ∈ model.columns, c ∈ s.columns then
    s.rows.mapM fun r => model.columns.mapM (s.get r)
  else none

end SentinelAI
