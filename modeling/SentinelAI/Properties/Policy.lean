import SentinelAI.Proxy.AgentPolicy
import Mathlib.Tactic.Tauto

/-!
# Properties — Policy

What `evaluate` decides, in terms of the configuration a profile was built from.

A request is *in bounds* when its tool and action are names without a wildcard, the tool is
registered, and so is the data source if it names one.  Out of bounds it is denied with one of
`outOfBoundsCodes`; in bounds the rules that apply decide, the most restrictive first.
`evaluate` reads the rules only through the set of decisions of those that apply
(`evaluate_congr`), so neither their order nor their number matters.
-/

namespace SentinelAI
open Support

variable (U : Ucd)

/-! ### Evaluation, by the bounds and the rules -/

/-- The bounds of the profile hold of the request. -/
structure InBounds (profile : AgentProfile) (request : ActionRequest) : Prop where
  tool_ne : U.canon request.tool ≠ []
  action_ne : U.canon request.action ≠ []
  action_plain : wildcard ∉ U.canon request.action
  tool_plain : wildcard ∉ U.canon request.tool
  registered : U.canon request.tool ∈ profile.tools
  source : ∀ d, request.dataSource = some d → U.canon d ∈ profile.dataSources

/-- Some rule with this decision applies to the request. -/
def AgentProfile.Rules (profile : AgentProfile) (request : ActionRequest) (d : Decision) : Prop :=
  d ∈ profile.matched (U.canon request.tool) (U.canon request.action)

theorem evaluate_of_not_inBounds {profile : AgentProfile} {request : ActionRequest}
    (h : ¬ InBounds U profile request) :
    (evaluate U profile request).decision = .DENY ∧
      (evaluate U profile request).code ∈ outOfBoundsCodes := by
  unfold evaluate
  simp only
  split
  · exact ⟨rfl, by simp [outOfBoundsCodes]⟩
  · rename_i h₁
    split
    · exact ⟨rfl, by simp [outOfBoundsCodes]⟩
    · rename_i h₂
      split
      · exact ⟨rfl, by simp [outOfBoundsCodes]⟩
      · rename_i h₃
        split
        · exact ⟨rfl, by simp [outOfBoundsCodes]⟩
        · rename_i h₄
          -- no check failed, so the request is in bounds
          refine absurd ⟨?_, ?_, ?_, ?_, not_not.mp h₃, fun d hd => ?_⟩ h
          · exact fun h => h₁ (.inl h)
          · exact fun h => h₁ (.inr h)
          · exact fun h => h₂ (.inl h)
          · exact fun h => h₂ (.inr h)
          · by_contra hn
            rw [hd, Option.filter_some_pos (by simpa using hn)] at h₄
            cases h₄

/-- In bounds, the most restrictive of the decisions of the rules that apply is taken. -/
theorem evaluate_of_inBounds {profile : AgentProfile} {request : ActionRequest}
    (h : InBounds U profile request) :
    ((evaluate U profile request).decision, (evaluate U profile request).code) =
      match precedence.find?
          (· ∈ profile.matched (U.canon request.tool) (U.canon request.action)) with
      | some d => (d, .rule d)
      | none => (.DENY, .default_deny) := by
  have hs : request.dataSource.filter (fun d => U.canon d ∉ profile.dataSources) = none := by
    cases hd : request.dataSource with
    | none => rfl
    | some d => exact Option.filter_some_neg (by simpa using h.source d hd)
  unfold evaluate
  simp only
  rw [if_neg (not_or.mpr ⟨h.tool_ne, h.action_ne⟩),
    if_neg (not_or.mpr ⟨h.action_plain, h.tool_plain⟩), if_neg (not_not.mpr h.registered), hs]
  simp only
  cases precedence.find?
    (· ∈ profile.matched (U.canon request.tool) (U.canon request.action)) <;> rfl

/-- The rules in bounds, case by case. -/
theorem evaluate_cases {profile : AgentProfile} {request : ActionRequest}
    (h : InBounds U profile request) :
    (profile.Rules U request .DENY ∧ (evaluate U profile request).decision = .DENY ∧
        (evaluate U profile request).code = .rule .DENY) ∨
    (¬ profile.Rules U request .DENY ∧ profile.Rules U request .REQUIRE_APPROVAL ∧
        (evaluate U profile request).decision = .REQUIRE_APPROVAL ∧
        (evaluate U profile request).code = .rule .REQUIRE_APPROVAL) ∨
    (¬ profile.Rules U request .DENY ∧ ¬ profile.Rules U request .REQUIRE_APPROVAL ∧
        profile.Rules U request .ALLOW ∧ (evaluate U profile request).decision = .ALLOW ∧
        (evaluate U profile request).code = .rule .ALLOW) ∨
    (¬ profile.Rules U request .DENY ∧ ¬ profile.Rules U request .REQUIRE_APPROVAL ∧
        ¬ profile.Rules U request .ALLOW ∧ (evaluate U profile request).decision = .DENY ∧
        (evaluate U profile request).code = .default_deny) := by
  have he := evaluate_of_inBounds U h
  simp only [precedence, List.find?_cons, List.find?_nil] at he
  by_cases hd : Decision.DENY ∈ profile.matched (U.canon request.tool) (U.canon request.action)
  · rw [decide_eq_true hd] at he
    exact .inl ⟨hd, congrArg Prod.fst he, congrArg Prod.snd he⟩
  · rw [decide_eq_false hd] at he
    by_cases hr : Decision.REQUIRE_APPROVAL ∈
        profile.matched (U.canon request.tool) (U.canon request.action)
    · rw [decide_eq_true hr] at he
      exact .inr (.inl ⟨hd, hr, congrArg Prod.fst he, congrArg Prod.snd he⟩)
    · rw [decide_eq_false hr] at he
      by_cases ha : Decision.ALLOW ∈ profile.matched (U.canon request.tool) (U.canon request.action)
      · rw [decide_eq_true ha] at he
        exact .inr (.inr (.inl ⟨hd, hr, ha, congrArg Prod.fst he, congrArg Prod.snd he⟩))
      · rw [decide_eq_false ha] at he
        exact .inr (.inr (.inr ⟨hd, hr, ha, congrArg Prod.fst he, congrArg Prod.snd he⟩))

theorem evaluate_allow_iff (profile : AgentProfile) (request : ActionRequest) :
    (evaluate U profile request).decision = .ALLOW ↔
      InBounds U profile request ∧ profile.Rules U request .ALLOW ∧
        ¬ profile.Rules U request .DENY ∧ ¬ profile.Rules U request .REQUIRE_APPROVAL := by
  by_cases h : InBounds U profile request
  · rcases evaluate_cases U h with ⟨h₁, h₂, -⟩ | ⟨-, h₁, h₂, -⟩ | ⟨h₁, h₂, h₃, h₄, -⟩ |
        ⟨-, -, h₁, h₂, -⟩
    · simp [h₁, h₂]
    · simp [h₁, h₂]
    · simp [h, h₁, h₂, h₃, h₄]
    · simp [h₁, h₂]
  · simp [h, (evaluate_of_not_inBounds U h).1]

theorem evaluate_approval_iff (profile : AgentProfile) (request : ActionRequest) :
    (evaluate U profile request).decision = .REQUIRE_APPROVAL ↔
      InBounds U profile request ∧ profile.Rules U request .REQUIRE_APPROVAL ∧
        ¬ profile.Rules U request .DENY := by
  by_cases h : InBounds U profile request
  · rcases evaluate_cases U h with ⟨h₁, h₂, -⟩ | ⟨h₀, h₁, h₂, -⟩ | ⟨-, h₁, -, h₂, -⟩ |
        ⟨-, h₁, -, h₂, -⟩
    · simp [h₁, h₂]
    · simp [h, h₀, h₁, h₂]
    · simp [h₁, h₂]
    · simp [h₁, h₂]
  · simp [h, (evaluate_of_not_inBounds U h).1]

theorem evaluate_code_iff (profile : AgentProfile) (request : ActionRequest) :
    (evaluate U profile request).code ∈ outOfBoundsCodes ↔ ¬ InBounds U profile request := by
  by_cases h : InBounds U profile request
  · rcases evaluate_cases U h with
      ⟨-, -, h₁⟩ | ⟨-, -, -, h₁⟩ | ⟨-, -, -, -, h₁⟩ | ⟨-, -, -, -, h₁⟩ <;>
      simp [h, h₁, outOfBoundsCodes]
  · simp [h, (evaluate_of_not_inBounds U h).2]

/-- The rules count only through the set of decisions of those that apply. -/
theorem evaluate_congr {profile : AgentProfile} {rules : List PolicyRule} {request : ActionRequest}
    (h : ∀ d, AgentProfile.Rules U { profile with rules } request d ↔ profile.Rules U request d) :
    evaluate U { profile with rules } request = evaluate U profile request := by
  have hf : ∀ d : Decision,
      decide (d ∈ AgentProfile.matched { profile with rules } (U.canon request.tool)
        (U.canon request.action)) =
      decide (d ∈ profile.matched (U.canon request.tool) (U.canon request.action)) := by
    intro d
    exact decide_eq_decide.mpr (h d)
  unfold evaluate
  simp only [hf]

/-! ### Permissiveness -/

/-- How much a decision permits. -/
def Decision.permits : Decision → Nat
  | .DENY => 0
  | .REQUIRE_APPROVAL => 1
  | .ALLOW => 2

/-- Rules that only deny never make the outcome more permissive. -/
theorem evaluate_deny_mono {profile : AgentProfile} {rules : List PolicyRule}
    {request : ActionRequest}
    (h : ∀ d, d ≠ .DENY →
      (AgentProfile.Rules U { profile with rules } request d ↔ profile.Rules U request d))
    (hd : profile.Rules U request .DENY →
      AgentProfile.Rules U { profile with rules } request .DENY) :
    (evaluate U { profile with rules } request).decision.permits ≤
      (evaluate U profile request).decision.permits := by
  have hb : InBounds U { profile with rules } request ↔ InBounds U profile request :=
    ⟨fun ⟨a, b, c, d, e, f⟩ => ⟨a, b, c, d, e, f⟩, fun ⟨a, b, c, d, e, f⟩ => ⟨a, b, c, d, e, f⟩⟩
  cases hp : (evaluate U { profile with rules } request).decision with
  | DENY => exact Nat.zero_le _
  | ALLOW =>
      have ha := (evaluate_allow_iff U _ _).mp hp
      have : (evaluate U profile request).decision = .ALLOW :=
        (evaluate_allow_iff U _ _).mpr ⟨hb.mp ha.1, (h _ (by decide)).mp ha.2.1,
          fun hD => ha.2.2.1 (hd hD), fun hR => ha.2.2.2 ((h _ (by decide)).mpr hR)⟩
      rw [this]
  | REQUIRE_APPROVAL =>
      have ha := (evaluate_approval_iff U _ _).mp hp
      have : (evaluate U profile request).decision = .REQUIRE_APPROVAL :=
        (evaluate_approval_iff U _ _).mpr ⟨hb.mp ha.1, (h _ (by decide)).mp ha.2.1,
          fun hD => ha.2.2 (hd hD)⟩
      rw [this]

/-! ### Profiles built from configuration -/

theorem mem_of_mapM_eq_some {α β : Type*} {f : α → Option β} :
    ∀ {l : List α} {ys : List β}, l.mapM f = some ys → ∀ y, y ∈ ys ↔ ∃ x ∈ l, f x = some y
  | [], ys, h, y => by
      rw [List.mapM_nil] at h
      cases h
      simp
  | x :: l, ys, h, y => by
      rw [List.mapM_cons] at h
      obtain ⟨z, hz, h⟩ := Option.bind_eq_some_iff.mp h
      obtain ⟨zs, hzs, h⟩ := Option.bind_eq_some_iff.mp h
      cases h
      simp only [List.mem_cons, mem_of_mapM_eq_some hzs, exists_eq_or_imp, hz, Option.some.injEq]
      tauto

theorem exists_mapM_eq_some {α β : Type*} {f : α → Option β} :
    ∀ {l : List α}, (∀ x ∈ l, ∃ y, f x = some y) → ∃ ys, l.mapM f = some ys
  | [], _ => ⟨[], rfl⟩
  | x :: l, h => by
      obtain ⟨y, hy⟩ := h x List.mem_cons_self
      obtain ⟨ys, hys⟩ := exists_mapM_eq_some fun x hx => h x (List.mem_cons_of_mem _ hx)
      exact ⟨y :: ys, by rw [List.mapM_cons, hy, hys]; rfl⟩

theorem exists_of_mapM_eq_some {α β : Type*} {f : α → Option β} :
    ∀ {l : List α} {ys : List β}, l.mapM f = some ys → ∀ x ∈ l, ∃ y, f x = some y
  | x' :: l, ys, h, x, hx => by
      rw [List.mapM_cons] at h
      obtain ⟨z, hz, h⟩ := Option.bind_eq_some_iff.mp h
      obtain ⟨zs, hzs, -⟩ := Option.bind_eq_some_iff.mp h
      rcases List.mem_cons.mp hx with rfl | hx
      · exact ⟨z, hz⟩
      · exact exists_of_mapM_eq_some hzs x hx

theorem ruleFromDict_eq_some {x : RuleDict} {rule : PolicyRule} :
    ruleFromDict U x = some rule ↔ rule.tool = U.canon x.tool ∧ rule.action = U.canon x.action ∧
      Decision.ofValue x.decision = some rule.decision := by
  unfold ruleFromDict
  cases h : Decision.ofValue x.decision with
  | none => simp
  | some d =>
      obtain ⟨t, a, e⟩ := rule
      simp [eq_comm]

theorem profileFromDict_eq_some {data : ProfileDict} {profile : AgentProfile}
    (h : profileFromDict U data = some profile) :
    (data.rules.getD []).mapM (ruleFromDict U) = some profile.rules ∧
      profile.agentId = U.canon data.agentId ∧ profile.model = data.model ∧
      profile.tools = ((data.tools.getD []).map U.canon).toFinset ∧
      profile.dataSources = ((data.dataSources.getD []).map U.canon).toFinset := by
  unfold profileFromDict at h
  obtain ⟨rules, hr, h⟩ := Option.bind_eq_some_iff.mp h
  cases h
  exact ⟨hr, rfl, rfl, rfl, rfl⟩

/-- Other rules in the same configuration. -/
theorem profileFromDict_rules {data : ProfileDict} {profile : AgentProfile}
    (h : profileFromDict U data = some profile) {rules : List RuleDict} {built : List PolicyRule}
    (hr : rules.mapM (ruleFromDict U) = some built) :
    profileFromDict U { data with rules := some rules } = some { profile with rules := built } := by
  obtain ⟨-, h₁, h₂, h₃, h₄⟩ := profileFromDict_eq_some U h
  simp only [profileFromDict, Option.getD_some, hr]
  cases profile
  simp only at h₁ h₂ h₃ h₄
  rw [h₁, h₂, h₃, h₄]
  rfl

/-- The bounds, as the configuration states them. -/
structure ConfiguredBounds (data : ProfileDict) (request : ActionRequest) : Prop where
  tool_ne : U.canon request.tool ≠ []
  action_ne : U.canon request.action ≠ []
  tool_plain : wildcard ∉ U.canon request.tool
  action_plain : wildcard ∉ U.canon request.action
  registered : ∃ t ∈ data.tools.getD [], U.canon t = U.canon request.tool
  source : ∀ d, request.dataSource = some d →
    ∃ t ∈ data.dataSources.getD [], U.canon t = U.canon d

/-- Some configured rule for the tool, and for the action or every action, has this decision. -/
def ConfiguredRule (data : ProfileDict) (request : ActionRequest) (d : Decision) : Prop :=
  ∃ r ∈ data.rules.getD [], U.canon r.tool = U.canon request.tool ∧
    (U.canon r.action = U.canon request.action ∨ U.canon r.action = [wildcard]) ∧
    Decision.ofValue r.decision = some d

/-- What the configuration allows outright. -/
def ConfiguredAllow (data : ProfileDict) (request : ActionRequest) : Prop :=
  ConfiguredBounds U data request ∧ ConfiguredRule U data request .ALLOW ∧
    ¬ ConfiguredRule U data request .DENY ∧ ¬ ConfiguredRule U data request .REQUIRE_APPROVAL

/-- What the configuration leaves to a human. -/
def ConfiguredApproval (data : ProfileDict) (request : ActionRequest) : Prop :=
  ConfiguredBounds U data request ∧ ConfiguredRule U data request .REQUIRE_APPROVAL ∧
    ¬ ConfiguredRule U data request .DENY

theorem inBounds_iff {data : ProfileDict} {profile : AgentProfile}
    (h : profileFromDict U data = some profile) (request : ActionRequest) :
    InBounds U profile request ↔ ConfiguredBounds U data request := by
  obtain ⟨-, -, -, ht, hd⟩ := profileFromDict_eq_some U h
  have mem : ∀ (l : List Str) (s : Str), s ∈ (l.map U.canon).toFinset ↔ ∃ t ∈ l, U.canon t = s := by
    intro l s
    rw [List.mem_toFinset, List.mem_map]
  constructor
  · rintro ⟨h₁, h₂, h₃, h₄, h₅, h₆⟩
    exact ⟨h₁, h₂, h₄, h₃, (mem _ _).mp (ht ▸ h₅), fun d hd' => (mem _ _).mp (hd ▸ h₆ d hd')⟩
  · rintro ⟨h₁, h₂, h₃, h₄, h₅, h₆⟩
    exact ⟨h₁, h₂, h₄, h₃, ht ▸ (mem _ _).mpr h₅, fun d hd' => hd ▸ (mem _ _).mpr (h₆ d hd')⟩

theorem rules_iff {data : ProfileDict} {profile : AgentProfile}
    (h : profileFromDict U data = some profile) (request : ActionRequest) (d : Decision) :
    profile.Rules U request d ↔ ConfiguredRule U data request d := by
  have hr := mem_of_mapM_eq_some (profileFromDict_eq_some U h).1
  simp only [AgentProfile.Rules, AgentProfile.matched, List.mem_map, List.mem_filter, hr,
    PolicyRule.applies, Bool.and_eq_true, Bool.or_eq_true, beq_iff_eq, ConfiguredRule,
    ruleFromDict_eq_some]
  constructor
  · rintro ⟨rule, ⟨⟨x, hx, h₁, h₂, h₃⟩, h₄, h₅⟩, rfl⟩
    exact ⟨x, hx, h₁ ▸ h₄, h₂ ▸ h₅, h₃⟩
  · rintro ⟨x, hx, h₁, h₂, h₃⟩
    exact ⟨⟨U.canon x.tool, U.canon x.action, d⟩, ⟨⟨x, hx, rfl, rfl, h₃⟩, h₁, h₂⟩, rfl⟩

/-- A configuration with other rules, all of them with a known decision, builds too. -/
theorem exists_profileFromDict_rules {data : ProfileDict} {profile : AgentProfile}
    (h : profileFromDict U data = some profile) {rules : List RuleDict}
    (hr : ∀ x ∈ rules, x ∈ data.rules.getD [] ∨ ∃ d, Decision.ofValue x.decision = some d) :
    ∃ built, profileFromDict U { data with rules := some rules } =
      some { profile with rules := built } := by
  obtain ⟨built, hb⟩ := exists_mapM_eq_some (f := ruleFromDict U) (l := rules) fun x hx => by
    rcases hr x hx with h' | ⟨d, hd⟩
    · exact exists_of_mapM_eq_some (profileFromDict_eq_some U h).1 x h'
    · exact ⟨⟨_, _, d⟩, (ruleFromDict_eq_some U).mpr ⟨rfl, rfl, hd⟩⟩
  exact ⟨built, profileFromDict_rules U h hb⟩

/-- The same rules in another order, or repeated. -/
theorem evaluate_same_rules {data : ProfileDict} {profile : AgentProfile}
    (h : profileFromDict U data = some profile) (request : ActionRequest) {rules : List RuleDict}
    (hr : ∀ x, x ∈ rules ↔ x ∈ data.rules.getD []) :
    ∃ profile', profileFromDict U { data with rules := some rules } = some profile' ∧
      evaluate U profile' request = evaluate U profile request := by
  obtain ⟨built, hb⟩ := exists_profileFromDict_rules U h fun x hx => .inl ((hr x).mp hx)
  refine ⟨_, hb, evaluate_congr U fun d => ?_⟩
  rw [rules_iff U hb, rules_iff U h]
  simp [ConfiguredRule, hr]

/-- The rules with one more that denies. -/
theorem evaluate_deny_added {data : ProfileDict} {profile : AgentProfile}
    (h : profileFromDict U data = some profile) (request : ActionRequest) {rules : List RuleDict}
    {new : RuleDict} (hn : Decision.ofValue new.decision = some .DENY)
    (hr : ∀ x, x ∈ rules ↔ x = new ∨ x ∈ data.rules.getD []) :
    ∃ profile', profileFromDict U { data with rules := some rules } = some profile' ∧
      (evaluate U profile' request).decision.permits ≤
        (evaluate U profile request).decision.permits := by
  have hk : ∀ x ∈ rules, x ∈ data.rules.getD [] ∨ ∃ d, Decision.ofValue x.decision = some d := by
    intro x hx
    rcases (hr x).mp hx with rfl | hx
    · exact .inr ⟨_, hn⟩
    · exact .inl hx
  obtain ⟨built, hb⟩ := exists_profileFromDict_rules U h hk
  have hrule : ∀ d, ConfiguredRule U { data with rules := some rules } request d ↔
      ConfiguredRule U { data with rules := some [new] } request d ∨
        ConfiguredRule U data request d := by
    intro d
    simp only [ConfiguredRule, Option.getD_some, hr, List.mem_singleton, or_and_right, exists_or]
  refine ⟨_, hb, evaluate_deny_mono U (fun d hd => ?_) fun hD => ?_⟩
  · rw [rules_iff U hb, rules_iff U h, hrule]
    refine or_iff_right ?_
    rintro ⟨x, hx, -, -, hx'⟩
    rw [Option.getD_some, List.mem_singleton] at hx
    rw [hx, hn] at hx'
    exact hd (Option.some.inj hx').symm
  · rw [rules_iff U hb, hrule]
    exact .inr ((rules_iff U h _ _).mp hD)

/-- **The policy, specified.**  For a profile built from configuration:
* `ALLOW` and `REQUIRE_APPROVAL` are given exactly where the bounds and the rules say, and `DENY`
  otherwise;
* rules in another order, or repeated, give the same result;
* one more `DENY` rule, wherever it stands, gives no more permissive decision;
* the code is one of `outOfBoundsCodes` exactly when a bound fails. -/
theorem evaluate_spec {data : ProfileDict} {profile : AgentProfile}
    (h : profileFromDict U data = some profile) (request : ActionRequest) :
    ((evaluate U profile request).decision = .ALLOW ↔ ConfiguredAllow U data request) ∧
    ((evaluate U profile request).decision = .REQUIRE_APPROVAL ↔
      ConfiguredApproval U data request) ∧
    ((evaluate U profile request).decision = .DENY ↔
      ¬ ConfiguredAllow U data request ∧ ¬ ConfiguredApproval U data request) ∧
    (∀ rules : List RuleDict, (∀ x, x ∈ rules ↔ x ∈ data.rules.getD []) →
      ∃ profile', profileFromDict U { data with rules := some rules } = some profile' ∧
        evaluate U profile' request = evaluate U profile request) ∧
    (∀ (rules : List RuleDict) (new : RuleDict), Decision.ofValue new.decision = some .DENY →
      (∀ x, x ∈ rules ↔ x = new ∨ x ∈ data.rules.getD []) →
      ∃ profile', profileFromDict U { data with rules := some rules } = some profile' ∧
        (evaluate U profile' request).decision.permits ≤
          (evaluate U profile request).decision.permits) ∧
    ((evaluate U profile request).code ∈ outOfBoundsCodes ↔ ¬ ConfiguredBounds U data request) := by
  have allow : (evaluate U profile request).decision = .ALLOW ↔ ConfiguredAllow U data request := by
    rw [evaluate_allow_iff, inBounds_iff U h, rules_iff U h, rules_iff U h, rules_iff U h]
    rfl
  have approval : (evaluate U profile request).decision = .REQUIRE_APPROVAL ↔
      ConfiguredApproval U data request := by
    rw [evaluate_approval_iff, inBounds_iff U h, rules_iff U h, rules_iff U h]
    rfl
  refine ⟨allow, approval, ?_, fun rules hr => evaluate_same_rules U h request hr,
    fun rules new hn hr => evaluate_deny_added U h request hn hr, ?_⟩
  · rw [← allow, ← approval]
    cases (evaluate U profile request).decision <;> simp
  · rw [evaluate_code_iff, inBounds_iff U h]

/-- A profile that allows reading tickets and denies deleting them, asked to delete. -/
theorem evaluate_spec_tickets :
    (evaluate Ucd.ascii
      ⟨"bot", "m", {"tickets".toList}, ∅,
        [⟨"tickets", "*", .ALLOW⟩, ⟨"tickets", "delete", .DENY⟩]⟩
      ⟨"Tickets ", "delete", none⟩).decision = .DENY := by
  have hb : profileFromDict Ucd.ascii ⟨" Bot", "m", some ["Tickets"], none,
      some [⟨"tickets", "*", "ALLOW"⟩, ⟨"tickets", " DELETE", "DENY"⟩]⟩ =
      some ⟨"bot", "m", {"tickets".toList}, ∅,
        [⟨"tickets", "*", .ALLOW⟩, ⟨"tickets", "delete", .DENY⟩]⟩ := rfl
  have hd : ConfiguredRule Ucd.ascii ⟨" Bot", "m", some ["Tickets"], none,
      some [⟨"tickets", "*", "ALLOW"⟩, ⟨"tickets", " DELETE", "DENY"⟩]⟩
      ⟨"Tickets ", "delete", none⟩ .DENY :=
    ⟨⟨"tickets", " DELETE", "DENY"⟩, .tail _ (.head _), rfl, .inl rfl, rfl⟩
  exact (evaluate_spec Ucd.ascii hb ⟨"Tickets ", "delete", none⟩).2.2.1.mpr
    ⟨fun ha => ha.2.2.1 hd, fun ha => ha.2.2 hd⟩

end SentinelAI
