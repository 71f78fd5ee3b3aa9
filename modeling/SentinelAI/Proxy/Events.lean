import SentinelAI.Proxy.Config

/-!
# Proxy — Events

`proxy/events.py`: security events, which record what was observed and change nothing else.  A
write that fails is rolled back and logged; the request goes on.
-/

namespace SentinelAI
open Support

/-- The arguments of `record_event`. -/
structure EventFields where
  eventType : EventType
  severity : Str
  category : Str
  source : Str
  summary : Str
  application : Option Str := none
  model : Option Str := none
  details : Json := .obj []
  projectId : Option Int := none

variable (settings : Settings)

/-- `_RANK.get(severity, 0)` -/
def severityRank (severity : Str) : Nat := ((EventSeverity.ofValue severity).map (·.rank)).getD 0

/-- The row of an event stored at `now`, before the table gives it its key. -/
def EventFields.row (e : EventFields) (now : Time) : SecurityEvent where
  id := 0
  projectId := e.projectId
  eventType := e.eventType
  severity := e.severity
  category := e.category
  source := e.source
  application := e.application
  model := e.model
  summary := e.summary
  details := e.details
  createdAt := now

/-- `record_event`: the event stored, if one is, and the table after it. -/
def recordEvent (t : Table SecurityEvent) (e : EventFields) (now : Time) (fault : Bool) :
    Option SecurityEvent × Table SecurityEvent :=
  if !settings.eventsEnabled then (none, t)
  else if severityRank e.severity < settings.eventsMinSeverity.rank then (none, t)
  else if fault then (none, t)
  else (some (t.stored (e.row now)), t.insert (e.row now))

/-- Event `i` of a request. -/
def Db.recordEvent (db : Db) (cfg : Config) (tick : Tick) (i : Nat) (e : EventFields) : Db :=
  { db with
    securityEvents :=
      (SentinelAI.recordEvent cfg.settings db.securityEvents e (tick.eventTime i)
        (tick.eventFault i)).2 }

/-- The events of a request from the `i`-th on, in order. -/
def Db.recordEvents (db : Db) (cfg : Config) (tick : Tick) : Nat → List EventFields → Db
  | _, [] => db
  | i, e :: es => (db.recordEvent cfg tick i e).recordEvents cfg tick (i + 1) es

/-- The items of a comma-separated value, or none. -/
def csv (value : Option Str) : Option (List Str) :=
  let items := (((value.getD []).splitOn ',').map strip).filter (· ≠ [])
  if items = [] then none else some items

/-- The filters of `GET /v1/events`. -/
structure EventQuery where
  since : Option Time := none
  until' : Option Time := none
  severity : Option Str := none
  minSeverity : Option Str := none
  application : Option Str := none
  model : Option Str := none
  category : Option Str := none
  eventType : Option Str := none
  limit : Int := 200

/-- A filter that an absent value leaves out. -/
def given {α : Type*} (value : Option α) (p : α → Bool) : Bool :=
  match value with
  | none => true
  | some a => p a

/-- A column between two bounds, each of which may be absent. -/
def inPeriod (since until' : Option Time) (t : Time) : Bool :=
  given since (· ≤ t) && given until' (t ≤ ·)

/-- The `WHERE` clause of a query, the project apart. -/
def EventQuery.keeps (q : EventQuery) (e : SecurityEvent) : Bool :=
  inPeriod q.since q.until' e.createdAt &&
  given (csv q.severity) (e.severity ∈ ·) &&
  given (q.minSeverity.bind EventSeverity.ofValue) (fun m =>
    e.severity ∈ (EventSeverity.SEVERITIES.drop m.rank).map (·.value)) &&
  given (q.application.filter (· ≠ [])) (fun a => e.application == some a) &&
  given (q.model.filter (· ≠ [])) (fun m => e.model == some m) &&
  given (csv q.category) (e.category ∈ ·) &&
  given (csv q.eventType) (e.eventType.value ∈ ·)

/-- `query_events` on the events of one project. -/
def queryEvents (events : List SecurityEvent) (q : EventQuery) : List SecurityEvent :=
  limit q.limit (orderDesc (·.createdAt) (events.filter q.keeps))

/-- Microseconds in a day. -/
def day : Time := 86400000000

/-- `datetime.min` -/
def datetimeMin : Time := -62135596800000000

/-- `now - timedelta(days=days)`, or nothing where it overflows. -/
def daysBefore (now : Time) (days : Int) : Option Time :=
  if days > 999999999 ∨ now - days * day < datetimeMin then none else some (now - days * day)

/-- `purge_expired`: the number of rows deleted and the table after it, or nothing where the cutoff
overflows. -/
def purgeExpired (t : Table SecurityEvent) (days : Int) (now : Time) :
    Option (Int × Table SecurityEvent) :=
  if days ≤ 0 then some (0, t)
  else
    (daysBefore now days).map fun cutoff =>
      let expired (e : SecurityEvent) : Bool := e.createdAt < cutoff
      ((t.rows.filter expired).length, t.deleteWhere expired)

def eventToDict (e : SecurityEvent) : Json :=
  .obj [("id", .int e.id), ("project_id", .opt .int e.projectId),
    ("event_type", .str e.eventType.value), ("severity", .str e.severity),
    ("category", .str e.category), ("source", .str e.source),
    ("application", .opt .str e.application), ("model", .opt .str e.model),
    ("summary", .str e.summary), ("details", e.details), ("created_at", .time e.createdAt)]

/-- `EVENT_TYPES` -/
def EVENT_TYPES : List EventType :=
  [.attack_attempt, .request_blocked, .policy_violation, .finding_opened, .regression_detected,
    .suspicious_tool_activity]

def eventsConfig : Json :=
  .obj [("enabled", .bool settings.eventsEnabled),
    ("retention_days", .int settings.eventsRetentionDays),
    ("min_severity", .str settings.eventsMinSeverity.value),
    ("gateway_record_events", .bool settings.gatewayRecordEvents),
    ("event_types", .strs (EVENT_TYPES.map (·.value))),
    ("severities", .strs (EventSeverity.SEVERITIES.map (·.value)))]

/-! ### What recording leaves alone -/

theorem recordEvent_snd (t : Table SecurityEvent) (e : EventFields) (now : Time) (fault : Bool) :
    (recordEvent settings t e now fault).2 = t ∨
      (recordEvent settings t e now fault).2 = t.insert (e.row now) := by
  unfold recordEvent
  split
  · exact .inl rfl
  · split
    · exact .inl rfl
    · split
      · exact .inl rfl
      · exact .inr rfl

/-- Recording events changes their table and no other. -/
theorem Db.recordEvents_eq (cfg : Config) (tick : Tick) :
    ∀ (es : List EventFields) (db : Db) (i : Nat),
    db.recordEvents cfg tick i es =
      { db with securityEvents := (db.recordEvents cfg tick i es).securityEvents }
  | [], _, _ => rfl
  | e :: es, db, i => by
      rw [Db.recordEvents, Db.recordEvents_eq cfg tick es]
      rfl

end SentinelAI
