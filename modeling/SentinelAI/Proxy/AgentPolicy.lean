import SentinelAI.Support.Json
import Mathlib.Data.Finset.Dedup
import Mathlib.Data.Finset.Image
import Mathlib.Data.Finset.Sort
import Mathlib.Data.List.Lex

/-!
# Proxy — Agent policy

`proxy/agent_policy.py`: agent profiles, and the evaluation of one requested action against one.
Evaluation decides and says why; nothing is executed.
-/

namespace SentinelAI
open Support

inductive Decision where
  | ALLOW
  | DENY
  | REQUIRE_APPROVAL
deriving DecidableEq, Repr

def Decision.value : Decision → Str
  | .ALLOW => "ALLOW"
  | .DENY => "DENY"
  | .REQUIRE_APPROVAL => "REQUIRE_APPROVAL"

/-- `Decision(v)`, or no value where that raises `ValueError`. -/
def Decision.ofValue (v : Str) : Option Decision :=
  [Decision.ALLOW, .DENY, .REQUIRE_APPROVAL].find? fun d => d.value == v

/-- Most restrictive first. -/
def precedence : List Decision := [.DENY, .REQUIRE_APPROVAL, .ALLOW]

def wildcard : Char := '*'

structure PolicyRule where
  tool : Str
  /-- May be the wildcard. -/
  action : Str
  decision : Decision
deriving DecidableEq

structure AgentProfile where
  agentId : Str
  model : Str
  tools : Finset Str
  dataSources : Finset Str
  rules : List PolicyRule

structure ActionRequest where
  tool : Str
  action : Str
  dataSource : Option Str

/-- The machine-readable reason of a decision. -/
inductive PolicyCode where
  | empty_name
  | wildcard_request
  | unregistered_tool
  | unregistered_data_source
  | rule (d : Decision)
  | default_deny
deriving DecidableEq

def PolicyCode.value : PolicyCode → Str
  | .empty_name => "empty_name"
  | .wildcard_request => "wildcard_request"
  | .unregistered_tool => "unregistered_tool"
  | .unregistered_data_source => "unregistered_data_source"
  | .rule .ALLOW => "rule_allow"
  | .rule .DENY => "rule_deny"
  | .rule .REQUIRE_APPROVAL => "rule_require_approval"
  | .default_deny => "default_deny"

structure PolicyDecision where
  decision : Decision
  reason : Str
  code : PolicyCode

def outOfBoundsCodes : List PolicyCode :=
  [.empty_name, .wildcard_request, .unregistered_tool, .unregistered_data_source]

/-- The rule is for this tool, and for this action or every action. -/
def PolicyRule.applies (rule : PolicyRule) (tool action : Str) : Bool :=
  rule.tool == tool && (rule.action == action || rule.action == [wildcard])

/-- The decisions of the rules that apply. -/
def AgentProfile.matched (profile : AgentProfile) (tool action : Str) : List Decision :=
  (profile.rules.filter fun rule => rule.applies tool action).map (·.decision)

variable (U : Ucd)

def evaluate (profile : AgentProfile) (request : ActionRequest) : PolicyDecision :=
  let tool := U.canon request.tool
  let action := U.canon request.action
  if tool = [] ∨ action = [] then
    ⟨.DENY, "Empty tool or action name.", .empty_name⟩
  else if wildcard ∈ action ∨ wildcard ∈ tool then
    ⟨.DENY, "Wildcards are not allowed in a request, only in policy rules.", .wildcard_request⟩
  else if tool ∉ profile.tools then
    ⟨.DENY, "Tool '" ++ tool ++ "' is not registered to agent '" ++ profile.agentId ++ "'.",
      .unregistered_tool⟩
  -- an empty data source is looked up like any other
  else match request.dataSource.filter fun d => U.canon d ∉ profile.dataSources with
  | some d =>
      ⟨.DENY, "Data source '" ++ U.canon d ++ "' is not registered to agent '" ++ profile.agentId ++
        "'.", .unregistered_data_source⟩
  | none =>
      match precedence.find? (· ∈ profile.matched tool action) with
      | some d =>
          ⟨d, "Matched " ++ d.value ++ " rule for " ++ tool ++ "." ++ action ++ ".", .rule d⟩
      | none =>
          ⟨.DENY, "No rule permits " ++ tool ++ "." ++ action ++ " (default deny).", .default_deny⟩

/-! ### Profiles from configuration -/

structure RuleDict where
  tool : Str
  action : Str
  decision : Str

structure ProfileDict where
  agentId : Str
  model : Str
  tools : Option (List Str)
  dataSources : Option (List Str)
  rules : Option (List RuleDict)

def ruleFromDict (r : RuleDict) : Option PolicyRule := do
  let decision ← Decision.ofValue r.decision
  return ⟨U.canon r.tool, U.canon r.action, decision⟩

/-- No value where an unknown decision raises `ValueError`. -/
def profileFromDict (data : ProfileDict) : Option AgentProfile := do
  let rules ← (data.rules.getD []).mapM (ruleFromDict U)
  return {
    agentId := U.canon data.agentId
    model := data.model
    tools := ((data.tools.getD []).map U.canon).toFinset
    dataSources := ((data.dataSources.getD []).map U.canon).toFinset
    rules }

/-- The profiles of the configuration, by agent: of two with one id the later counts.  No value
where one of them raises. -/
def loadProfiles (profiles : List ProfileDict) : Option (List AgentProfile) := do
  let all ← profiles.mapM (profileFromDict U)
  return (all.map (·.agentId)).eraseDups.filterMap fun id => all.reverse.find? (·.agentId == id)

def profileToDict (p : AgentProfile) : Json :=
  .obj [("agent_id", .str p.agentId), ("model", .str p.model),
    ("tools", .strs (p.tools.sort (· ≤ ·))), ("data_sources", .strs (p.dataSources.sort (· ≤ ·))),
    ("rules", .arr (p.rules.map fun r => .obj [("tool", .str r.tool), ("action", .str r.action),
      ("decision", .str r.decision.value)]))]

end SentinelAI
