import SentinelAI.Proxy.Engine
import SentinelAI.Proxy.Http
import SentinelAI.Proxy.PiiScanner
import SentinelAI.Proxy.Provider
import SentinelAI.Proxy.SchemaValidator

/-!
# Proxy — Config

What the handlers are given by their surroundings.  `Config` is what stays as it is while the
process runs: the settings of `proxy/config.py`, the plugins, the agent profiles, and the libraries
the code calls (pydantic, PyJWT, bcrypt, hashlib, FastAPI's `HTTPBearer`, Presidio).  `Tick` is what
one request draws: the time, the random values, the answers of the provider.
-/

namespace SentinelAI
open Support

/-- `proxy/events.py`: `SEVERITIES`, in the order of their ranks. -/
inductive EventSeverity where
  | info
  | low
  | medium
  | high
  | critical
deriving DecidableEq, Repr

namespace EventSeverity

def value : EventSeverity → Str
  | .info => "info"
  | .low => "low"
  | .medium => "medium"
  | .high => "high"
  | .critical => "critical"

def rank : EventSeverity → Nat
  | .info => 0
  | .low => 1
  | .medium => 2
  | .high => 3
  | .critical => 4

def SEVERITIES : List EventSeverity := [.info, .low, .medium, .high, .critical]

def ofValue (s : Str) : Option EventSeverity := SEVERITIES.find? fun v => v.value == s

end EventSeverity

structure Settings where
  groqApiKey : Str := []
  geminiApiKey : Str := []
  rateLimitPerSession : Int := 8
  eventsEnabled : Bool := true
  eventsRetentionDays : Int := 30
  eventsMinSeverity : EventSeverity := .info
  gatewayRecordEvents : Bool := false

structure Config where
  settings : Settings
  U : Ucd
  analyzer : Analyzer
  /-- The order in which `list` takes the elements of a set. -/
  setOrder : List Str → List Str
  /-- `model_validate_json`, then `model_dump`; nothing where validation fails. -/
  modelValidateJson : SchemaModel → Str → Option Json
  /-- `int(jwt.decode(token)["sub"])` at a time, or nothing where one of them raises. -/
  jwtSubject : Time → Str → Option Int
  /-- `jwt.encode`, at a time. -/
  jwtEncode : Time → Int → Str
  /-- `bcrypt.hashpw` with a salt, or nothing where it raises. -/
  hashpw : Str → Str → Option Str
  /-- `bcrypt.checkpw`, or nothing where it raises `ValueError`. -/
  checkpw : Str → Str → Option Bool
  sha256 : Str → Str
  /-- The credentials that `HTTPBearer(auto_error=False)` reads from a header. -/
  httpBearer : Str → Option Str
  /-- `str` of a list, a dictionary or a float. -/
  pyStr : Json → Str
  tests : List SecurityTest
  profiles : List ProfileDict

structure Tick where
  now : Time
  /-- `time.monotonic()` -/
  monotonic : Time
  /-- When test `i` of a suite ends. -/
  testTime : Nat → Time
  /-- When finding `i` of a sync is stored. -/
  findingTime : Nat → Time
  /-- When event `i` of a request is stored. -/
  eventTime : Nat → Time
  /-- Storing event `i` raises. -/
  eventFault : Nat → Bool
  /-- Stamping an API key raises. -/
  keyFault : Bool
  /-- `uuid.uuid4()` -/
  runId : Str
  /-- `secrets.token_hex(24)` -/
  tokenHex : Str
  /-- `bcrypt.gensalt()` -/
  salt : Str
  /-- How long the provider takes. -/
  latencyMs : Int
  sdks : Sdks

/-- Default settings, no plugin, no profile, no Presidio, and libraries that accept nothing. -/
def Config.bare : Config where
  settings := {}
  U := .ascii
  analyzer := none
  setOrder l := l
  modelValidateJson _ _ := none
  jwtSubject _ _ := none
  jwtEncode _ _ := []
  hashpw _ _ := none
  checkpw _ _ := none
  sha256 s := s
  httpBearer _ := none
  pyStr _ := []
  tests := []
  profiles := []

/-- What `HTTPBearer` reads: the rest of the header, under the scheme of bearer tokens. -/
def readBearer (U : Ucd) (header : Str) : Option Str :=
  if U.lower (firstWord header) = "bearer".toList ∧ header.drop 7 ≠ [] then some (header.drop 7)
  else none

/-- A server with one agent and one test, at which the token `b` is user 2's and every other token
is user 1's. -/
def Config.demo : Config :=
  { Config.bare with
    jwtSubject := fun _ token => some (if token = "b".toList then 2 else 1)
    hashpw := fun _ password => some password
    httpBearer := readBearer .ascii
    tests := [⟨"t1", "n", "c", "d", .high, "a", "e", .ok ⟨"a", .null, "local", "m", none, .obj []⟩,
      fun _ => .ok (.FAIL, "missed")⟩]
    profiles := [⟨"bot", "m", some ["tickets"], none,
      some [⟨"tickets", "delete", "REQUIRE_APPROVAL"⟩]⟩] }

/-- A request at time 0, in which no write fails and no provider answers. -/
def Tick.zero : Tick where
  now := 0
  monotonic := 0
  testTime _ := 0
  findingTime _ := 0
  eventTime _ := 0
  eventFault _ := false
  keyFault := false
  runId := []
  tokenHex := []
  salt := []
  latencyMs := 0
  sdks := ⟨fun _ _ _ => .error [], fun _ _ _ => .error [], [], []⟩

end SentinelAI
